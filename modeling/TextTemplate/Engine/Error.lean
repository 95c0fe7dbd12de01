import TextTemplate.Context
import TextTemplate.File.Save
import TextTemplate.Source.Fault

/-!
# Errors of rendering

All that ends a render or keeps a template from being loaded. Missing data is not among them: it is
written as empty text. A file that cannot be created is an outcome of the render and no error.
-/
namespace TextTemplate

/-- Why a template could not be loaded or rendered. -/
inductive RenderError
  /-- The source of a template is wrong. -/
  | parse (template : String) (error : Source.SyntaxError)
  /-- A template is neither known nor a file at the path where it is looked for. -/
  | notFound (template : String) (path : Path)
  /-- A template is reached while it is being rendered; the names from the outermost template on. -/
  | cycle (chain : List String)
  /-- Too many templates are rendered inside one another. -/
  | tooDeep (limit : Nat) (template : String)
  /-- The file of a template could not be read. -/
  | file (failure : FileFailure)
  /-- The sink refused a text. -/
  | refused
  /-- Scopes were not closed in order. -/
  | scope (error : ScopeError)
deriving DecidableEq

namespace RenderError

/-- What a user is told. -/
def message : RenderError → String
  | .parse template error =>
    s!"parse error in template '{template}' at line {error.line}: {error.fault.message}"
  | .notFound template path => s!"template '{template}' not found at {path.text}"
  | .cycle chain =>
    let names := " -> ".intercalate chain
    s!"template recursion detected: {names}"
  | .tooDeep limit template => s!"template nesting exceeds {limit} levels at '{template}'"
  | .file failure => failure.message
  | .refused => "failed to write rendered output"
  | .scope error => s!"scope error: {error.message}"

end RenderError

end TextTemplate

import TextTemplate.Engine.Config
import TextTemplate.Engine.Error
import TextTemplate.Template.Builder

/-!
# The library of templates

Templates are known by normalised names. One that is not known is read from its file and known from
then on; a name registered anew takes the place of the old one. The laws here say when the library
stays as it is.
-/
namespace TextTemplate

/-- Templates by their names. -/
abbrev Library := Table String Template

namespace Library

/-- Drop `./` in front as often as it stands there. -/
def dropHere : List Char → List Char
  | '.' :: '/' :: rest => dropHere rest
  | name => name

/-- A name as templates are known by it: without blanks at its ends, with slashes for backslashes,
and without `./` in front. -/
def normalise (name : String) : String :=
  String.ofList (dropHere ((Text.trim name.toList).map fun c => if c = '\\' then '/' else c))

/-- Where the template of a name is looked for. -/
def path (config : Config) (name : String) : Path :=
  match config.templateDir with
  | some dir => dir.join ⟨normalise name⟩
  | none => ⟨normalise name⟩

/-- Whether the template of a name is known. -/
def isLoaded (library : Library) (name : String) : Bool := library.contains (normalise name)

/-- Read a source and know its template by the name. -/
def register (library : Library) (name source : String) :
    Except RenderError (Template × Library) :=
  let key := normalise name
  match Source.parse key source.toList with
  | .ok template => .ok (template, library.insert key template)
  | .error error => .error (.parse key error)

/-- The source of the template of a normalised name. -/
def readSource (config : Config) (files : FileTree) (key : String) : Except RenderError String :=
  let place := path config key
  if files.isFile place then
    (files.readText place).mapError fun cause => .file ⟨place, cause⟩
  else .error (.notFound key place)

/-- The template of a name: the one that is known, or else the one in its file. -/
def load (library : Library) (config : Config) (files : FileTree) (name : String) :
    Except RenderError (Template × Library) :=
  let key := normalise name
  match library.get? key with
  | some template => .ok (template, library)
  | none =>
    match readSource config files key with
    | .error error => .error error
    | .ok source =>
      match Source.parse key source.toList with
      | .ok template => .ok (template, library.insert key template)
      | .error error => .error (.parse key error)

/-- A known template is loaded as it is known, whatever its file holds. -/
theorem load_of_get? {library : Library} {config : Config} {files : FileTree} {name : String}
    {template : Template} (known : library.get? (normalise name) = some template) :
    library.load config files name = .ok (template, library) := by
  simp [load, known]

end Library

end TextTemplate

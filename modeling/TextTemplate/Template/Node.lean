import TextTemplate.Template.Expr
import TextTemplate.Table

/-!
# Templates

A template is a name, a list of nodes and the blocks defined in it at any depth, by name.
-/
namespace TextTemplate

/-- A piece of a template. -/
inductive Node
  /-- Text written as it stands. -/
  | text (s : String)
  /-- The text of a value. -/
  | variable (expr : Expr)
  /-- The body once for every item of a list, or the other part if there is none. -/
  | forEach (var : String) (list : Expr) (reversed : Bool) (body otherwise : List Node)
  /-- One of two parts, by the truth of a value. -/
  | condition (test : Expr) (negated : Bool) (yes no : List Node)
  /-- A part that templates derived from this one may replace. -/
  | block (name : String) (body : List Node)
  /-- The template that this one derives from; what follows matters through its blocks alone. -/
  | inherits (parent : Expr)
  /-- Another template in this place. -/
  | includes (template : Expr)
  /-- A file with the output of another template; the line is that of the tag. -/
  | creates (file template : Expr) (line : Nat)

/-- A template as it was read. -/
structure Template where
  /-- The name under which it is known. -/
  name : String
  /-- Its nodes in order. -/
  nodes : List Node
  /-- The body of every block in it, however deep, by name. -/
  blocks : Table String (List Node)

instance : Inhabited Template := ⟨⟨"", [], ∅⟩⟩

namespace Template

/-- A template as it is shown to a programmer; its name is shown in quotes by the caller. -/
def describe (quote : String → String) (t : Template) : String :=
  s!"Template \x7b name: {quote t.name} \x7d"

end Template

end TextTemplate

import TextTemplate.Text.Blank
import TextTemplate.Text.Cut

/-!
# Assignments

An assignment `NAME=TEXT` binds a name to a text. The name ends at the first equals sign; blanks
around it do not count. The text is taken as it stands.
-/
namespace TextTemplate

/-- A name and the text that it is bound to. -/
structure Assignment where
  /-- The name, without blanks at its ends. -/
  name : String
  /-- The text. -/
  text : String
deriving DecidableEq, Repr

namespace Assignment

/-- Read an assignment; there must be an equals sign and a name before it. -/
def ofText? (s : String) : Option Assignment := do
  let (before, after) ← Text.cutAt '=' s.toList
  let name := Text.trim before
  if name.isEmpty then none else return ⟨String.ofList name, String.ofList after⟩

/-- What a user is told about a text that is no assignment. -/
def refusal (s : String) : String := s!"expected KEY=VALUE, got '{s}'"

end Assignment

end TextTemplate

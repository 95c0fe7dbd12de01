/-!
# Escaping

An escaper turns the text of a value into text that is safe where it is written. `html` replaces the
five characters with a meaning in markup by entities. An `EscapeMode` is the choice of an escaper in
a configuration or on a command line.
-/
namespace TextTemplate

/-- A function on texts. -/
abbrev Escaper := String → String

namespace Escaper

/-- The entity written for a character with a meaning in markup; every other character stands for
itself. -/
def entity : Char → List Char
  | '&' => "&amp;".toList
  | '<' => "&lt;".toList
  | '>' => "&gt;".toList
  | '"' => "&quot;".toList
  | '\'' => "&#39;".toList
  | c => [c]

/-- Replace the characters with a meaning in markup by entities. -/
def html : Escaper := fun text => String.ofList (text.toList.flatMap entity)

/-- Escaping works character by character. -/
theorem html_append (s t : String) : html (s ++ t) = html s ++ html t := by
  simp [html, String.toList_append, List.flatMap_append]

end Escaper

/-- The choice of an escaper. -/
inductive EscapeMode
  | none
  | html
deriving DecidableEq, Repr

namespace EscapeMode

/-- The escaper that a mode stands for, if it stands for one. -/
def escaper : EscapeMode → Option Escaper
  | .none => Option.none
  | .html => some Escaper.html

/-- The name of a mode. -/
def name : EscapeMode → String
  | .none => "none"
  | .html => "html"

/-- The mode of exactly this name. -/
def ofName? : String → Option EscapeMode
  | "none" => some .none
  | "html" => some .html
  | _ => Option.none

/-- Reading a mode failed; holds the text in small letters. -/
structure Unknown where
  /-- The text that names no mode. -/
  text : String
deriving DecidableEq, Repr

/-- What a user is told about a text that names no mode. -/
def Unknown.message (unknown : Unknown) : String :=
  s!"unknown escape mode '{unknown.text}'; expected: none, html"

/-- Read a mode, in letters of either case; only ASCII letters have a case here. -/
def read (text : String) : Except Unknown EscapeMode :=
  let small := text.map Char.toLower
  match ofName? small with
  | some mode => .ok mode
  | Option.none => .error ⟨small⟩

/-- A mode is the one of its name. -/
@[simp] theorem ofName?_name (mode : EscapeMode) : ofName? mode.name = some mode := by
  cases mode <;> rfl

end EscapeMode

end TextTemplate

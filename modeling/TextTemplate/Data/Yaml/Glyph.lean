/-!
# Characters with their places

YAML gives meaning to columns, so a text is read as a list of glyphs, characters that know their
line and column. Line ends of all spellings but the two Unicode separators become newlines.
-/
namespace TextTemplate.Yaml

/-- A character and where it stands; all three numbers count from zero. -/
structure Glyph where
  /-- The character. -/
  char : Char
  /-- Its line. -/
  line : Nat
  /-- Its column. -/
  column : Nat
  /-- The number of characters before it. -/
  index : Nat

/-- A text that is still to be read. -/
abbrev Input := List Glyph

/-- Spaces and tabs. -/
def isSpace (c : Char) : Bool := c == ' ' || c == '\t'

/-- Line ends. -/
def isBreak (c : Char) : Bool :=
  c == '\n' || c == '\r' || c == '\x85' || c == '\u2028' || c == '\u2029'

/-- The character that a line end is read as. -/
def breakChar (c : Char) : Char := if c = '\u2028' ∨ c = '\u2029' then c else '\n'

/-- Whether a character may occur in a text at all. -/
def isAllowed (c : Char) : Bool :=
  let n := c.toNat
  c == '\t' || c == '\n' || c == '\r' || (0x20 ≤ n && n ≤ 0x7E) || n == 0x85 ||
    (0xA0 ≤ n && n ≤ 0xFFFD) || 0x10000 ≤ n

/-- The glyphs of a text that begins at the given place. -/
def glyphsFrom (line column index : Nat) : List Char → Input
  | [] => []
  | '\r' :: '\n' :: rest => ⟨'\n', line, column, index⟩ :: glyphsFrom (line + 1) 0 (index + 2) rest
  | c :: rest =>
    if isBreak c then
      ⟨breakChar c, line, column, index⟩ :: glyphsFrom (line + 1) 0 (index + 1) rest
    else ⟨c, line, column, index⟩ :: glyphsFrom line (column + 1) (index + 1) rest

/-- The glyphs of a text, if all its characters are allowed. A mark of byte order in front is passed
over; it takes up a column. -/
def glyphs (text : String) : Option Input :=
  if text.toList.all isAllowed then
    match glyphsFrom 0 0 0 text.toList with
    | g :: rest => if g.char = '\ufeff' then some rest else some (g :: rest)
    | [] => some []
  else none

namespace Input

/-- The characters of an input. -/
def text (input : Input) : String := String.ofList (input.map (·.char))

/-- The character at a distance. -/
def char? (input : Input) (n : Nat) : Option Char := (input[n]?).map (·.char)

/-- Whether a certain character stands at a distance. -/
def has (input : Input) (n : Nat) (c : Char) : Bool := input.char? n == some c

/-- Whether a space, a line end or the end of the text is at a distance. -/
def gapAt (input : Input) (n : Nat) : Bool :=
  match input.char? n with
  | none => true
  | some c => isSpace c || isBreak c

/-- Whether a line begins with a mark of three equal characters. -/
def hasMark (input : Input) (c : Char) : Bool :=
  match input with
  | [] => false
  | g :: _ =>
    g.column == 0 && input.has 0 c && input.has 1 c && input.has 2 c && input.gapAt 3

/-- Whether a line begins with the mark of the start or the end of a document. -/
def atMark (input : Input) : Bool := input.hasMark '-' || input.hasMark '.'

end Input

end TextTemplate.Yaml

import TextTemplate.Source.Fault
import TextTemplate.Source.Quote
import TextTemplate.Text.Blank
import TextTemplate.Text.Letter

/-!
# Words of a tag

`lexemes` cuts the content of a tag into words: names, whole numbers, quoted literals, and the dot,
bar and colon. Blanks separate words and are dropped; two words may also stand side by side. A
number is an optional minus sign and the longest run of digits after it.
-/
namespace TextTemplate.Source

/-- The word that a single character is, if it is one. -/
def sign? : Char → Option Lexeme
  | '.' => some .dot
  | '|' => some .bar
  | ':' => some .colon
  | _ => none

/-- Whether a character begins a whole number. -/
def isWholeStart (c : Char) : Bool := c == '-' || c.isDigit

/-- Dropping from the front makes no list longer. -/
theorem length_dropWhile_le {α : Type} (p : α → Bool) (xs : List α) :
    (xs.dropWhile p).length ≤ xs.length :=
  (List.dropWhile_suffix p).length_le

/-- The words of a tag's content in order, or the first fault. -/
def lexemes : List Char → Except Fault (List Lexeme)
  | [] => .ok []
  | c :: rest =>
    if Text.isBlank c then lexemes rest
    else match sign? c with
    | some word => (word :: ·) <$> lexemes rest
    | none =>
      if isQuote c then
        match _found : closeQuote c rest with
        | none => .error .unclosedLiteral
        | some (body, after) => (.quoted (String.ofList body) :: ·) <$> lexemes after
      else if isWholeStart c then
        let digits := c :: rest.takeWhile Char.isDigit
        match Text.readWhole digits with
        | none => .error (.invalidInteger (String.ofList digits))
        | some n => (.whole n :: ·) <$> lexemes (rest.dropWhile Char.isDigit)
      else if Text.isNameStart c then
        let name := String.ofList (c :: rest.takeWhile Text.isNamePart)
        (.name name :: ·) <$> lexemes (rest.dropWhile Text.isNamePart)
      else .error (.unexpectedCharacter c)
termination_by cs => cs.length
decreasing_by
  · simp
  · simp
  · have := length_of_closeQuote _found
    simp only [List.length_cons]
    omega
  · have := length_dropWhile_le Char.isDigit rest
    simp only [List.length_cons]
    omega
  · have := length_dropWhile_le Text.isNamePart rest
    simp only [List.length_cons]
    omega

end TextTemplate.Source

import TextTemplate.Data.Document
import TextTemplate.Number.Shortest
import TextTemplate.Text.Digit

/-!
# JSON

A text is cut into words and the document is built word by word, with a stack of the arrays and
objects that are open. The reader accepts the JSON grammar and nothing else: no text before or after
the document, no number beyond the floating point range, no half of a surrogate pair, and no more
than `maxNesting` arrays and objects inside one another. With the printer of numbers it is the
`JsonLibrary` of the program.
-/
namespace TextTemplate.Json

open TextTemplate

/-- The deepest nesting of arrays and objects that is read. -/
def maxNesting : Nat := 127

/-- A word of a JSON text. -/
inductive Word
  | openArray
  | closeArray
  | openObject
  | closeObject
  | comma
  | colon
  | null
  | bool (b : Bool)
  | number (n : Number)
  | text (s : String)

/-- The value of a digit in base sixteen. -/
def hexDigit? (c : Char) : Option Nat :=
  if c.isDigit then some (c.toNat - '0'.toNat)
  else if 'a' ≤ c ∧ c ≤ 'f' then some (c.toNat - 'a'.toNat + 10)
  else if 'A' ≤ c ∧ c ≤ 'F' then some (c.toNat - 'A'.toNat + 10)
  else none

/-- The number of four digits in base sixteen. -/
def hex4? (a b c d : Char) : Option Nat := do
  return ((← hexDigit? a) * 16 + (← hexDigit? b)) * 256 + ((← hexDigit? c) * 16 + (← hexDigit? d))

/-- The character that two halves of a surrogate pair stand for. -/
def pair? (high low : Nat) : Option Char :=
  if 0xD800 ≤ high ∧ high < 0xDC00 ∧ 0xDC00 ≤ low ∧ low < 0xE000 then
    some (Char.ofNat (0x10000 + (high - 0xD800) * 0x400 + (low - 0xDC00)))
  else none

/-- The character of a code unit that is no half of a surrogate pair. -/
def single? (unit : Nat) : Option Char :=
  if 0xD800 ≤ unit ∧ unit < 0xE000 then none else some (Char.ofNat unit)

/-- The character of a one-letter escape. -/
def escape? : Char → Option Char
  | '"' => some '"'
  | '\\' => some '\\'
  | '/' => some '/'
  | 'b' => some '\x08'
  | 'f' => some '\x0c'
  | 'n' => some '\n'
  | 'r' => some '\r'
  | 't' => some '\t'
  | _ => none

/-- The text up to the closing quote, and what follows it. -/
def readText : List Char → Option (List Char × List Char)
  | '"' :: rest => some ([], rest)
  | '\\' :: 'u' :: a :: b :: c :: d :: '\\' :: 'u' :: e :: f :: g :: h :: rest =>
    match hex4? a b c d with
    | none => none
    | some high =>
      match single? high with
      | some c => (readText ('\\' :: 'u' :: e :: f :: g :: h :: rest)).map
          fun (text, after) => (c :: text, after)
      | none => do
        let c ← pair? high (← hex4? e f g h)
        let (text, after) ← readText rest
        return (c :: text, after)
  | '\\' :: 'u' :: a :: b :: c :: d :: rest => do
    let c ← single? (← hex4? a b c d)
    let (text, after) ← readText rest
    return (c :: text, after)
  | '\\' :: c :: rest => do
    let c ← escape? c
    let (text, after) ← readText rest
    return (c :: text, after)
  | c :: rest =>
    if c = '\\' ∨ c.toNat < 0x20 then none
    else (readText rest).map fun (text, after) => (c :: text, after)
  | [] => none

/-- A run of digits in front, which may be empty, and what follows it. -/
def spanDigits (cs : List Char) : List Char × List Char :=
  (cs.takeWhile Char.isDigit, cs.dropWhile Char.isDigit)

/-- The digits after a point, if there is one; there must be one digit at least. -/
def readFraction : List Char → Option (Option (List Char) × List Char)
  | '.' :: rest =>
    let (digits, after) := spanDigits rest
    if digits.isEmpty then none else some (some digits, after)
  | cs => some (none, cs)

/-- The digits of an exponent after its letter. -/
def exponentDigits (negative : Bool) (cs : List Char) : Option (Option Int × List Char) :=
  let (digits, after) := spanDigits cs
  (Text.natOfDigits? digits).map fun n => (some (if negative then -(n : Int) else n), after)

/-- The exponent, if there is one. -/
def readExponent : List Char → Option (Option Int × List Char)
  | c :: rest =>
    if c = 'e' ∨ c = 'E' then
      match rest with
      | '-' :: rest => exponentDigits true rest
      | '+' :: rest => exponentDigits false rest
      | rest => exponentDigits false rest
    else some (none, c :: rest)
  | [] => some (none, [])

/-- The number of its sign and digits. Without point and exponent it is an integer if it fits 64
bits; the negative zero is a floating point number. -/
def number? (negative : Bool) (whole : List Char) (fraction : Option (List Char))
    (exponent : Option Int) : Option Number :=
  let real (digits : List Char) (power : Int) : Option Number :=
    (Decimal.nearest? ⟨Nat.ofDigitChars 10 digits 0, power⟩).map (.real negative)
  match fraction, exponent with
  | none, none =>
    let n := Nat.ofDigitChars 10 whole 0
    if negative ∧ n = 0 then real whole 0
    else Number.ofInteger? (if negative then -(n : Int) else n)
  | fraction, exponent =>
    let after := fraction.getD []
    real (whole ++ after) (exponent.getD 0 - after.length)

/-- A number without its sign, and what follows it. -/
def readNumber (negative : Bool) (cs : List Char) : Option (Number × List Char) := do
  let (whole, rest) := spanDigits cs
  if whole.isEmpty ∨ (whole.head? = some '0' ∧ 1 < whole.length) then none
  else
    let (fraction, rest) ← readFraction rest
    let (exponent, rest) ← readExponent rest
    return (← number? negative whole fraction exponent, rest)

/-- Whether a character may stand between words. -/
def isSpace (c : Char) : Bool := c == ' ' || c == '\n' || c == '\r' || c == '\t'

/-- The first word of a text that does not begin with a space, and what follows it. -/
def readWord : List Char → Option (Word × List Char)
  | '[' :: rest => some (.openArray, rest)
  | ']' :: rest => some (.closeArray, rest)
  | '\x7b' :: rest => some (.openObject, rest)
  | '\x7d' :: rest => some (.closeObject, rest)
  | ',' :: rest => some (.comma, rest)
  | ':' :: rest => some (.colon, rest)
  | 'n' :: 'u' :: 'l' :: 'l' :: rest => some (.null, rest)
  | 't' :: 'r' :: 'u' :: 'e' :: rest => some (.bool true, rest)
  | 'f' :: 'a' :: 'l' :: 's' :: 'e' :: rest => some (.bool false, rest)
  | '"' :: rest => (readText rest).map fun (text, after) => (.text (String.ofList text), after)
  | '-' :: rest => (readNumber true rest).map fun (n, after) => (.number n, after)
  | cs => (readNumber false cs).map fun (n, after) => (.number n, after)

/-- The words of a text, as many as there is fuel for. -/
def wordsWithin : Nat → List Char → Option (List Word)
  | 0, cs => if cs.all isSpace then some [] else none
  | fuel + 1, cs =>
    match cs.dropWhile isSpace with
    | [] => some []
    | cs => do
      let (word, rest) ← readWord cs
      return word :: (← wordsWithin fuel rest)

/-- The words of a text; every word takes a character at least. -/
def words (cs : List Char) : Option (List Word) := wordsWithin cs.length cs

/-- An array or object that is open. -/
inductive Frame
  /-- The items read so far. -/
  | array (items : Array Document)
  /-- The fields read so far and the key of the value being read. -/
  | object (fields : List (String × Document)) (key : String)

/-- What may come next. -/
inductive Want
  /-- A value. -/
  | value
  /-- A value or the end of the array just opened. -/
  | item
  /-- A key; if the object was just opened, also its end. -/
  | key (fields : List (String × Document)) (first : Bool)
  /-- The colon after a key. -/
  | colon (fields : List (String × Document)) (key : String)
  /-- A comma or the end of the innermost array or object. -/
  | next
  /-- Nothing: the document is complete. -/
  | finish (document : Document)

/-- A document of which some words were read. -/
structure Reader where
  /-- The open arrays and objects, innermost first. -/
  frames : List Frame
  /-- What may come next. -/
  want : Want

namespace Reader

/-- A value is complete. -/
def deliver (document : Document) : List Frame → Reader
  | [] => ⟨[], .finish document⟩
  | .array items :: outer => ⟨.array (items.push document) :: outer, .next⟩
  | .object fields key :: outer => ⟨.object (Table.put key document fields) key :: outer, .next⟩

/-- Open an array or object, unless too many are open. -/
def enter (frames : List Frame) (opened : Reader) : Option Reader :=
  if frames.length < maxNesting then some opened else none

/-- A word where a value may stand. -/
def value (frames : List Frame) : Word → Option Reader
  | .null => some (deliver .null frames)
  | .bool b => some (deliver (.bool b) frames)
  | .number n => some (deliver (.number n) frames)
  | .text s => some (deliver (.text s) frames)
  | .openArray => enter frames ⟨.array #[] :: frames, .item⟩
  | .openObject => enter frames ⟨frames, .key [] true⟩
  | _ => none

/-- One word more. -/
def add (r : Reader) (word : Word) : Option Reader :=
  match r.want, word, r.frames with
  | .finish _, _, _ => none
  | .value, word, frames => value frames word
  | .item, .closeArray, .array items :: outer => some (deliver (.array items.toList) outer)
  | .item, word, frames => value frames word
  | .key fields _, .text key, frames => some ⟨frames, .colon fields key⟩
  | .key fields true, .closeObject, frames => some (deliver (.object fields) frames)
  | .key _ _, _, _ => none
  | .colon fields key, .colon, frames => some ⟨.object fields key :: frames, .value⟩
  | .colon _ _, _, _ => none
  | .next, .comma, .array items :: outer => some ⟨.array items :: outer, .value⟩
  | .next, .closeArray, .array items :: outer => some (deliver (.array items.toList) outer)
  | .next, .comma, .object fields _ :: outer => some ⟨outer, .key fields false⟩
  | .next, .closeObject, .object fields _ :: outer => some (deliver (.object fields) outer)
  | .next, _, _ => none

end Reader

/-- The document of a JSON text. -/
def read (text : String) : Option Document := do
  let r ← (← words text.toList).foldlM Reader.add ⟨[], .value⟩
  match r.want with
  | .finish document => return document
  | _ => none

/-- What is told about a text that is no document. -/
def refusal : String := "not a JSON document"

end TextTemplate.Json

namespace TextTemplate

/-- The text of a number: an integer in decimal, any other number in the fewest digits that tell
it. -/
def Number.text : Number → String
  | .integer n => toString n
  | .real negative magnitude =>
    if negative then "-" ++ magnitude.decimalText else magnitude.decimalText

instance : JsonLibrary where
  read text :=
    match Json.read text with
    | some document => .ok document
    | none => .error Json.refusal
  writeNumber := Number.text

end TextTemplate

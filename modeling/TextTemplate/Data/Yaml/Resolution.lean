import TextTemplate.Data.Yaml.Node

/-!
# What plain scalars mean

A plain scalar is null, a truth value, a number or a text, by how it is written; a scalar of any
other style is a text. A document becomes a document of plain data: keys are the texts of scalars,
an infinite or undefined number becomes null, and an integer beyond 64 bits is refused.
-/
namespace TextTemplate.Yaml

/-- The spellings of null; the empty scalar is null too. -/
def isNull (text : String) : Bool := text ∈ ["", "null", "Null", "NULL", "~"]

/-- The spellings of the truth values. -/
def bool? (text : String) : Option Bool :=
  if text ∈ ["true", "True", "TRUE"] then some true
  else if text ∈ ["false", "False", "FALSE"] then some false
  else none

/-- The value of a character as a digit of any base up to sixteen. -/
def digitOf? (base : Nat) (c : Char) : Option Nat := (Json.hexDigit? c).filter (· < base)

/-- The number of digits of a base. -/
def digits? (base : Nat) (cs : List Char) : Option Nat := do
  if cs.isEmpty then none
  else return (← cs.mapM (digitOf? base)).foldl (fun n d => n * base + d) 0

/-- The base that a prefix stands for, and the digits after it. -/
def based? : List Char → Option (Nat × List Char)
  | '0' :: 'x' :: rest => some (16, rest)
  | '0' :: 'o' :: rest => some (8, rest)
  | '0' :: 'b' :: rest => some (2, rest)
  | _ => none

/-- Whether digits begin with a needless zero, which makes them a text. -/
def hasNeedlessZero (digits : List Char) : Bool :=
  digits.head? == some '0' && 1 < digits.length && digits.all Char.isDigit

/-- The number of digits, which may have a base. -/
def magnitude? (cs : List Char) : Option Nat :=
  match based? cs with
  | some (base, digits) => digits? base digits
  | none => if hasNeedlessZero cs then none else digits? 10 cs

/-- The sign of a number, if it has one, and what follows it. -/
def splitSign : List Char → Bool × List Char
  | '-' :: rest => (true, rest)
  | '+' :: rest => (false, rest)
  | cs => (false, cs)

/-- The integer that a scalar is written as. -/
def integer? (text : String) : Option Int :=
  let (negative, rest) := splitSign text.toList
  (magnitude? rest).map fun n => if negative then -(n : Int) else n

/-- The integer of 64 bits without sign that a scalar is written as. -/
def unsigned? (text : String) : Option Nat :=
  match text.toList with
  | '-' :: _ => none
  | _ => (integer? text).bind fun n => if n < Text.unsignedEnd then some n.toNat else none

/-- The decimal number that digits with a point and an exponent are, in either of which at least one
digit stands before or after the point. -/
def decimal? (cs : List Char) : Option Decimal := do
  let (whole, rest) := Json.spanDigits cs
  let (fraction, rest) := match rest with
    | '.' :: rest => Json.spanDigits rest
    | rest => ([], rest)
  let (exponent, rest) ← Json.readExponent rest
  if !rest.isEmpty ∨ (whole.isEmpty ∧ fraction.isEmpty) then none
  else
    return ⟨Nat.ofDigitChars 10 (whole ++ fraction) 0, exponent.getD 0 - fraction.length⟩

/-- What a scalar written as a floating point number is: an infinite or undefined one is null. -/
def real? (text : String) : Option Document :=
  let (negative, rest) := splitSign text.toList
  if String.ofList rest ∈ [".inf", ".Inf", ".INF"] ∨ text ∈ [".nan", ".NaN", ".NAN"] then some .null
  else if hasNeedlessZero rest then none
  else do
    let x ← (← decimal? rest).nearest?
    return .number (.real negative x)

/-- Whether an integer is one that a number of 128 bits holds. -/
def isWide (n : Int) : Bool :=
  -0x80000000000000000000000000000000 ≤ n && n < 0x100000000000000000000000000000000

/-- What a plain scalar means; no result for an integer beyond 64 bits. -/
def resolve (text : String) : Option Document :=
  let otherwise := (real? text).getD (.text text)
  if isNull text then some .null
  else match bool? text with
    | some b => some (.bool b)
    | none =>
      match integer? text with
      | some n =>
        if Text.wholeMin ≤ n ∧ n < Text.unsignedEnd then some (.number (.integer n))
        else if isWide n then none
        else some otherwise
      | none => some otherwise

namespace Node

/-- The text of a scalar. -/
def text? : Node → Option String
  | .scalar text _ => some text
  | _ => none

/-- The text of a plain scalar. -/
def plain? : Node → Option String
  | .scalar text true => some text
  | _ => none

/-- The deepest nesting of sequences and mappings that becomes a document. -/
def maxNesting : Nat := 128

mutual

/-- The plain data of a node. -/
def document? (room : Nat) : Node → Option Document
  | .scalar text plain => if plain then resolve text else some (.text text)
  | .sequence items =>
    if room = 0 then none else (documents? (room - 1) items).map .array
  | .mapping pairs =>
    if room = 0 then none else (fields? (room - 1) [] pairs).map .object

/-- The plain data of nodes. -/
def documents? (room : Nat) : List Node → Option (List Document)
  | [] => some []
  | item :: items => do
    let first ← document? room item
    let rest ← documents? room items
    return first :: rest

/-- The fields of a mapping after the given fields; of two with one key the later counts. -/
def fields? (room : Nat) (before : List (String × Document)) :
    List (Node × Node) → Option (List (String × Document))
  | [] => some before
  | (key, value) :: pairs => do
    let name ← key.text?
    let content ← document? room value
    fields? room (Table.put name content before) pairs

end

end Node

/-- The plain data of a YAML text; an empty text is null. -/
def read (text : String) : Option Document := do
  match ← Node.parse? text with
  | none => return .null
  | some node => node.document? Node.maxNesting

end TextTemplate.Yaml

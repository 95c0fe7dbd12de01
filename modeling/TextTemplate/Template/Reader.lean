import TextTemplate.Template.Expr
import TextTemplate.Source.Fault

/-!
# Reading expressions and the arguments of tags

The grammar of expressions over the words of a tag:

    expr    := operand ('|' filter (':' literal)?)*
    operand := literal | name ('.' (name | digits))*

A reader takes words from the front and returns what it read with the words left over. A tag's
arguments must be read to their end (`readEnd`).
-/
namespace TextTemplate.Source

open TextTemplate

/-- The fault of finding these words in place of something. -/
def expected (what : Expectation) (words : List Lexeme) : Fault := .expected what words.head?

/-- A name, wanted as `what`. -/
def readName (what : Expectation) : List Lexeme → Except Fault (String × List Lexeme)
  | .name s :: rest => .ok (s, rest)
  | words => .error (expected what words)

/-- A certain word. -/
def readKeyword (word : String) : List Lexeme → Except Fault (List Lexeme)
  | .name s :: rest =>
    if s = word then .ok rest else .error (.expected (.keyword word) (some (.name s)))
  | words => .error (expected (.keyword word) words)

/-- Skip a certain word if it comes next; tells whether it did. -/
def skipKeyword (word : String) : List Lexeme → Bool × List Lexeme
  | .name s :: rest => if s = word then (true, rest) else (false, .name s :: rest)
  | words => (false, words)

/-- The end of the words of a tag. -/
def readEnd (place : String) : List Lexeme → Except Fault Unit
  | [] => .ok ()
  | found :: _ => .error (.trailing found place)

/-- The fields after the first name of a path. -/
def readFields : List Lexeme → Except Fault (List String × List Lexeme)
  | .dot :: .name s :: rest => do
    let (fields, rest) ← readFields rest
    return (s :: fields, rest)
  | .dot :: .whole n :: rest =>
    if 0 ≤ n.toInt then do
      let (fields, rest) ← readFields rest
      return (Text.writeWhole n :: fields, rest)
    else .error .expectedField
  | .dot :: _ => .error .expectedField
  | words => .ok ([], words)

/-- A literal or a path. -/
def readOperand : List Lexeme → Except Fault (Operand × List Lexeme)
  | .quoted s :: rest => .ok (.literal (.text s), rest)
  | .whole n :: rest => .ok (.literal (.whole n), rest)
  | .name s :: rest => do
    let (fields, rest) ← readFields rest
    return (.path s fields, rest)
  | words => .error (expected .expression words)

/-- The filter of a name with the argument that was given to it. -/
def filter (name : String) (argument : Option Literal) : Except Fault Filter :=
  match name, argument with
  | "default", some l => .ok (.default l)
  | "add", some l => .ok (.add l)
  | "length", none => .ok .length
  | "default", none | "add", none => .error (.missingFilterArgument name)
  | "length", some _ => .error (.needlessFilterArgument name)
  | _, _ => .error (.unknownFilter name)

/-- The fault of an argument that is no literal, if the filter is known at all. -/
def badArgument (name : String) : Fault :=
  if name ∈ ["default", "length", "add"] then .badFilterArgument name else .unknownFilter name

/-- The filters after an operand. -/
def readFilters : List Lexeme → Except Fault (List Filter × List Lexeme)
  | .bar :: .name s :: .colon :: .quoted text :: rest => do
    let first ← filter s (some (.text text))
    let (filters, rest) ← readFilters rest
    return (first :: filters, rest)
  | .bar :: .name s :: .colon :: .whole n :: rest => do
    let first ← filter s (some (.whole n))
    let (filters, rest) ← readFilters rest
    return (first :: filters, rest)
  | .bar :: .name s :: .colon :: _ => .error (badArgument s)
  | .bar :: .name s :: rest => do
    let first ← filter s none
    let (filters, rest) ← readFilters rest
    return (first :: filters, rest)
  | .bar :: words => .error (expected .filterName words)
  | words => .ok ([], words)

/-- An operand and its filters. -/
def readExpr (words : List Lexeme) : Except Fault (Expr × List Lexeme) := do
  let (operand, rest) ← readOperand words
  let (filters, rest) ← readFilters rest
  return (⟨operand, filters⟩, rest)

/-- An expression that is all there is. -/
def readOnly (place : String) (words : List Lexeme) : Except Fault Expr := do
  let (expr, rest) ← readExpr words
  readEnd place rest
  return expr

/-- Whether an operand may begin with this word. -/
def beginsOperand : Lexeme → Bool
  | .name _ | .whole _ | .quoted _ => true
  | _ => false

/-- Skip the word `not` if an operand follows it; else it is the variable of that name. -/
def skipNot : List Lexeme → Bool × List Lexeme
  | .name "not" :: next :: rest =>
    if beginsOperand next then (true, next :: rest) else (false, .name "not" :: next :: rest)
  | words => (false, words)

end TextTemplate.Source

import TextTemplate.Text.Digit

/-!
# Faults of a source

The words of a tag (`Lexeme`), and all that can be wrong with a template source (`Fault`). A
`SyntaxError` is a fault with the line of the tag that is at fault. Every wording is in
`Fault.message`.
-/
namespace TextTemplate.Source

/-- A word of a tag. -/
inductive Lexeme
  | name (s : String)
  | whole (n : Int64)
  | quoted (s : String)
  | dot
  | bar
  | colon
deriving DecidableEq

namespace Lexeme

/-- A word as faults mention it. -/
def describe : Lexeme → String
  | .name s => s!"'{s}'"
  | .whole n => s!"'{Text.writeWhole n}'"
  | .quoted s => s!"string '{s}'"
  | .dot => "'.'"
  | .bar => "'|'"
  | .colon => "':'"

end Lexeme

/-- The three kinds of marks that stand apart from the text of a template. -/
inductive Delimiter
  | variable
  | tag
  | comment
deriving DecidableEq, Repr

namespace Delimiter

/-- The character beside the brace in the delimiters of a kind. -/
def mark : Delimiter → Char
  | .variable => '{'
  | .tag => '%'
  | .comment => '#'

/-- The character that, with a closing brace after it, ends a mark of this kind. -/
def closing : Delimiter → Char
  | .variable => '}'
  | .tag => '%'
  | .comment => '#'

end Delimiter

/-- What a tag wants at a place where it finds something else or nothing. -/
inductive Expectation
  | loopVariable
  | blockName
  | filterName
  | expression
  | keyword (word : String)
deriving DecidableEq, Repr

namespace Expectation

/-- An expectation as faults mention it. -/
def describe : Expectation → String
  | .loopVariable => "a loop variable"
  | .blockName => "a block name"
  | .filterName => "a filter name"
  | .expression => "an expression"
  | .keyword word => s!"'{word}'"

end Expectation

/-- The deepest nesting of `for`, `if` and `block` that is read. -/
def maxNesting : Nat := 256

/-- What can be wrong with a source. -/
inductive Fault
  /-- A mark is opened and not closed. -/
  | unclosedMark (delimiter : Delimiter)
  /-- A literal is opened and not closed. -/
  | unclosedLiteral
  /-- A number is no whole number. -/
  | invalidInteger (text : String)
  /-- A character begins no word. -/
  | unexpectedCharacter (c : Char)
  /-- Something is wanted; something else, or nothing, is there. -/
  | expected (what : Expectation) (found : Option Lexeme)
  /-- A dot is not followed by a field. -/
  | expectedField
  /-- No filter has this name. -/
  | unknownFilter (name : String)
  /-- The argument of a filter is no literal. -/
  | badFilterArgument (name : String)
  /-- A filter lacks its argument. -/
  | missingFilterArgument (name : String)
  /-- A filter has an argument and takes none. -/
  | needlessFilterArgument (name : String)
  /-- A tag goes on after its end. -/
  | trailing (found : Lexeme) (place : String)
  /-- A variable tag is empty. -/
  | emptyVariable
  /-- A block tag is empty. -/
  | emptyTag
  /-- No tag has this name. -/
  | unknownTag (name : String)
  /-- A tag that ends or divides a construct stands where no such construct is open. -/
  | strayTag (name : String)
  /-- A tag that takes no arguments has some. -/
  | needlessArguments (name : String)
  /-- `extends` does not come first. -/
  | misplacedExtends
  /-- A construct is nested too deep. -/
  | tooDeep (opener : String)
  /-- The source ends inside a construct. -/
  | unclosedTag (opener closer : String)
  /-- The name at the end of a block is not the block's. -/
  | mismatchedEnd (found name : String)
  /-- Two blocks have one name. -/
  | duplicateBlock (name : String)
deriving DecidableEq

namespace Fault

/-- What a user is told. -/
def message : Fault → String
  | .unclosedMark d => s!"unclosed '\x7b{d.mark}' (expected '{d.closing}\x7d')"
  | .unclosedLiteral => "unterminated string literal"
  | .invalidInteger text => s!"invalid integer '{text}'"
  | .unexpectedCharacter c => s!"unexpected character '{c}'"
  | .expected what none => s!"expected {what.describe}"
  | .expected what (some found) => s!"expected {what.describe}, found {found.describe}"
  | .expectedField => "expected a field name after '.'"
  | .unknownFilter name => s!"unknown filter '{name}'"
  | .badFilterArgument name =>
    s!"argument of filter '{name}' must be a string or integer literal"
  | .missingFilterArgument name => s!"filter '{name}' requires an argument"
  | .needlessFilterArgument name => s!"filter '{name}' takes no argument"
  | .trailing found place => s!"unexpected {found.describe} in '{place}'"
  | .emptyVariable => "empty variable tag"
  | .emptyTag => "empty tag"
  | .unknownTag name => s!"unknown tag '{name}'"
  | .strayTag name => s!"unexpected '\x7b% {name} %\x7d'"
  | .needlessArguments name => s!"'{name}' takes no arguments"
  | .misplacedExtends => "'extends' must be the first tag in the template"
  | .tooDeep opener => s!"'\x7b% {opener} %\x7d' nested deeper than {maxNesting} levels"
  | .unclosedTag opener closer =>
    s!"unclosed '\x7b% {opener} %\x7d' (expected '\x7b% {closer} %\x7d')"
  | .mismatchedEnd found name => s!"'endblock {found}' does not match 'block {name}'"
  | .duplicateBlock name => s!"block '{name}' defined more than once"

end Fault

/-- A fault and the line of the tag that is at fault. -/
structure SyntaxError where
  /-- The line, counted from one. -/
  line : Nat
  /-- What is wrong there. -/
  fault : Fault
deriving DecidableEq

end TextTemplate.Source

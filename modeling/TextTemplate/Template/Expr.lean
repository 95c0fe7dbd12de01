import TextTemplate.Value.Basic

/-!
# Expressions

An expression is an operand with filters applied from left to right. The operand is a literal or a
path: a name of the context, then fields of records or positions in lists. A filter carries its
argument in its constructor, so there is no filter with a missing or a needless argument.
-/
namespace TextTemplate

/-- A literal of a template. -/
inductive Literal
  | text (s : String)
  | whole (n : Int64)
deriving DecidableEq

namespace Literal

/-- The value of a literal. Who wrote the template answers for it, so it is raw. -/
def value : Literal → Value
  | .text s => (Value.ofText s).withRaw true
  | .whole n => (Value.ofWhole n).withRaw true

/-- What a literal of a template stands for is raw. -/
@[simp] theorem raw_value (literal : Literal) : literal.value.raw = true := by
  cases literal <;> rfl

end Literal

/-- What an expression starts from. -/
inductive Operand
  | literal (l : Literal)
  | path (name : String) (fields : List String)
deriving DecidableEq

/-- A filter with its argument. -/
inductive Filter
  /-- The argument in place of an absent value or an empty text. -/
  | default (fallback : Literal)
  /-- The number of items of a list or of characters of a text, else zero. -/
  | length
  /-- The sum if both sides are whole numbers, else the texts one after the other. -/
  | add (term : Literal)
deriving DecidableEq

/-- An operand and its filters, in the order in which they apply. -/
structure Expr where
  /-- What the expression starts from. -/
  operand : Operand
  /-- What is done to it, first to last. -/
  filters : List Filter
deriving DecidableEq

end TextTemplate

import TextTemplate.Number.Binary64
import TextTemplate.Value.Heap

/-!
# Documents

A document is what a data file holds: null, truth values, numbers, texts, arrays and objects. An
object binds a key once; if a file names a key twice, the last binding counts. A document becomes a
value: arrays become lists and objects become records of the heap, and a number that is no whole
number becomes its text.

How JSON texts are read and how numbers are written is up to a `JsonLibrary`, of which nothing is
assumed.
-/
namespace TextTemplate

/-- A number of a document. -/
inductive Number
  /-- A number written without point and exponent. -/
  | integer (n : Int)
  /-- A floating point number and whether it is negative, which zero may be too. -/
  | real (negative : Bool) (magnitude : Binary64)
deriving DecidableEq

namespace Number

/-- The whole number that a number is, if it is one. -/
def whole? : Number → Option Int64
  | .integer n => Text.whole? n
  | .real _ _ => none

/-- The integer or, beyond 64 bits, the floating point number nearest to it, if there is one. -/
def ofInteger? (n : Int) : Option Number :=
  if Text.wholeMin ≤ n ∧ n < Text.unsignedEnd then some (.integer n)
  else (Decimal.nearest? ⟨n.natAbs, 0⟩).map (.real (decide (n < 0)))

end Number

/-- The contents of a data file. -/
inductive Document
  | null
  | bool (b : Bool)
  | number (n : Number)
  | text (s : String)
  | array (items : List Document)
  | object (fields : List (String × Document))

/-- What reads JSON texts and writes numbers. -/
class JsonLibrary where
  /-- The document of a text, or what is wrong with the text. -/
  read : String → Except String Document
  /-- The text of a number. -/
  writeNumber : Number → String

/-- The value of a number: a whole number is that number, and any other is its text. -/
def Number.value [JsonLibrary] (n : Number) : Value :=
  match n.whole? with
  | some k => .ofWhole k
  | none => .ofText (JsonLibrary.writeNumber n)

namespace Document

instance : Inhabited Document := ⟨.null⟩

mutual

/-- The value of a document, and the heap with its lists and records. -/
def toValue [JsonLibrary] : Document → Heap → Value × Heap
  | .null, heap => (.absent, heap)
  | .bool b, heap => (.ofBool b, heap)
  | .number n, heap => (n.value, heap)
  | .text s, heap => (.ofText s, heap)
  | .array items, heap =>
    let (values, heap) := toValues items heap
    let (ref, heap) := heap.newList values.toArray
    (.ofList ref, heap)
  | .object fields, heap =>
    let (bindings, heap) := toBindings fields heap
    let (ref, heap) := heap.newRecord (.ofList bindings)
    (.ofRecord ref, heap)

/-- The values of documents. -/
def toValues [JsonLibrary] : List Document → Heap → List Value × Heap
  | [], heap => ([], heap)
  | item :: items, heap =>
    let (v, heap) := toValue item heap
    let (vs, heap) := toValues items heap
    (v :: vs, heap)

/-- The values of the fields of an object. -/
def toBindings [JsonLibrary] : List (String × Document) → Heap → List (String × Value) × Heap
  | [], heap => ([], heap)
  | (key, item) :: fields, heap =>
    let (v, heap) := toValue item heap
    let (vs, heap) := toBindings fields heap
    ((key, v) :: vs, heap)

end

end Document

end TextTemplate

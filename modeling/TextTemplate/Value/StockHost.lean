import TextTemplate.Value.Host

/-!
# Stock callables

A small collection of callables for hosts that need no more: a constant text, the joined texts of
the arguments, a counter, and three that change a list or record and answer with a fixed text. The
private state of a counter is a record of its own on the heap.
-/
namespace TextTemplate

/-- What a stock callable does. -/
inductive StockCallable
  /-- Answer with the text. -/
  | constant (text : String)
  /-- Answer with the text followed by the texts of the arguments, separated by commas. -/
  | join (text : String)
  /-- Answer `1`, `2`, … on successive calls; the count is kept in the record. -/
  | counter (cell : RecordRef)
  /-- Append the value to the list if it has fewer items than `limit`, and answer with the text. -/
  | append (list : ListRef) (value : Value) (limit : Nat) (text : String)
  /-- Remove the last item of the list, and answer with the text. -/
  | dropLast (list : ListRef) (text : String)
  /-- Set the field of the record, and answer with the text. -/
  | setField (ref : RecordRef) (field : String) (value : Value) (text : String)

namespace StockCallable

/-- The field that holds the count of a counter. -/
def countField : String := "count"

/-- Invoke a stock callable. -/
def call (args : List Value) (heap : Heap) : StockCallable → String × Heap
  | .constant text => (text, heap)
  | .join text => (text ++ ",".intercalate (args.map Value.text), heap)
  | .counter cell =>
    let count := Text.saturate ((heap.field cell countField).toWhole.toInt + 1)
    (Text.writeWhole count, heap.setField cell countField (.ofWhole count))
  | .append list value limit text =>
    (text, if heap.count list < limit then heap.append list value else heap)
  | .dropLast list text => (text, heap.dropLast list)
  | .setField ref field value text => (text, heap.setField ref field value)

end StockCallable

/-- The host whose callables are the given stock callables, each known by its place. -/
def Host.stock (callables : Array StockCallable) : Host where
  call ref args heap :=
    match callables[ref.index]? with
    | some callable => callable.call args heap
    | none => ("", heap)

end TextTemplate

import TextTemplate.Value.Basic

/-!
# The heap

The heap holds the contents of lists and records. Values refer to them, so a change made through one
reference is seen through all. The laws say what appending, dropping the last item and setting a
field do to the contents of every list and record.
-/
namespace TextTemplate

/-- The contents of all lists and records. -/
structure Heap where
  /-- The items of each list. -/
  lists : Array (Array Value)
  /-- The fields of each record. -/
  records : Array (Table String Value)

namespace Heap

/-- The heap without lists and records. -/
def empty : Heap := ⟨#[], #[]⟩

instance : EmptyCollection Heap := ⟨empty⟩

instance : Inhabited Heap := ⟨empty⟩

/-- The items of a list. -/
def items (heap : Heap) (ref : ListRef) : Array Value := heap.lists[ref.index]?.getD #[]

/-- The number of items of a list. -/
def count (heap : Heap) (ref : ListRef) : Nat := (heap.items ref).size

/-- The item at a position, absent outside the list. -/
def item (heap : Heap) (ref : ListRef) (position : Nat) : Value :=
  (heap.items ref)[position]?.getD .absent

/-- The fields of a record. -/
def fields (heap : Heap) (ref : RecordRef) : Table String Value :=
  heap.records[ref.index]?.getD ∅

/-- A field of a record, absent if it was never set. -/
def field (heap : Heap) (ref : RecordRef) (name : String) : Value :=
  ((heap.fields ref).get? name).getD .absent

/-- Make a list of the given items. -/
def newList (heap : Heap) (items : Array Value) : ListRef × Heap :=
  (⟨heap.lists.size⟩, { heap with lists := heap.lists.push items })

/-- Make a record of the given fields. -/
def newRecord (heap : Heap) (fields : Table String Value) : RecordRef × Heap :=
  (⟨heap.records.size⟩, { heap with records := heap.records.push fields })

/-- Change the items of a list. -/
def modifyItems (heap : Heap) (ref : ListRef) (change : Array Value → Array Value) : Heap :=
  { heap with lists := heap.lists.modify ref.index change }

/-- Add an item at the end of a list. -/
def append (heap : Heap) (ref : ListRef) (v : Value) : Heap :=
  heap.modifyItems ref (·.push v)

/-- Remove the last item of a list, if it has one. -/
def dropLast (heap : Heap) (ref : ListRef) : Heap :=
  heap.modifyItems ref (·.pop)

/-- Set a field of a record. -/
def setField (heap : Heap) (ref : RecordRef) (name : String) (v : Value) : Heap :=
  { heap with records := heap.records.modify ref.index (·.insert name v) }

/-- A change to the items of a list is seen by every reader of that list and by no other. -/
theorem items_modifyItems (heap : Heap) (ref other : ListRef) (change : Array Value → Array Value)
    (inside : ref.index < heap.lists.size) :
    (heap.modifyItems ref change).items other =
      if ref = other then change (heap.items ref) else heap.items other := by
  obtain ⟨i⟩ := ref
  obtain ⟨j⟩ := other
  simp only [items, modifyItems, Array.getElem?_modify, ListRef.mk.injEq]
  split
  · subst_vars
    simp only [Array.getElem?_eq_getElem inside, Option.map_some, Option.getD_some]
  · rfl

/-- Appending adds one item at the end. -/
theorem items_append (heap : Heap) (ref other : ListRef) (v : Value)
    (inside : ref.index < heap.lists.size) :
    (heap.append ref v).items other =
      if ref = other then (heap.items ref).push v else heap.items other :=
  heap.items_modifyItems ref other _ inside

end Heap

namespace Value

/-- Whether a value counts as true: absent, `false`, zero, the empty text and the empty list do
not. -/
def truth (v : Value) (heap : Heap) : Bool :=
  match v.payload with
  | .absent => false
  | .bool b => b
  | .whole n => n != 0
  | .text s => !s.isEmpty
  | .list ref => 0 < heap.count ref
  | .record _ | .loop _ | .callable _ => true

end Value

end TextTemplate

import TextTemplate.Data.File
import TextTemplate.Proofs.Source.Spelling
import Mathlib.Data.List.Forall2
/-!
# Documents as values

The value of a document is made of lists and records that are new on the heap. `Document.Stands`
tells which values of a heap a document may be held as: scalars by what they are, an array as a list
of its items in order, an object as a record of its fields. Making a value only adds to the heap
(`Heap.Grows`), and what stood for a document before stands for it still. Main statement: the value
of a document stands for it (`Document.toValue_stands`).
-/
namespace TextTemplate

/-! ### Heaps that grow -/

/-- All lists and records of the first heap are in the second as they were. -/
structure Heap.Grows (heap later : Heap) : Prop where
  /-- Every list of the first heap has the same items in the second. -/
  lists : ∀ i < heap.lists.size, later.lists[i]? = heap.lists[i]?
  /-- Every record of the first heap has the same fields in the second. -/
  records : ∀ i < heap.records.size, later.records[i]? = heap.records[i]?

namespace Heap

variable {heap middle later : Heap}

/-- A heap has grown from itself by nothing. -/
theorem Grows.refl (heap : Heap) : heap.Grows heap := ⟨fun _ _ => rfl, fun _ _ => rfl⟩

/-- A place that is taken is taken in every heap that has grown. -/
theorem lt_size_of_same {α : Type} {xs ys : Array α} {i : Nat} (inside : i < xs.size)
    (same : ys[i]? = xs[i]?) : i < ys.size := by
  rw [Array.getElem?_eq_getElem inside] at same
  exact (Array.getElem?_eq_some_iff.mp same).1

/-- A list stays on a heap that grows. -/
theorem Grows.lt_lists (grows : heap.Grows later) {i : Nat} (inside : i < heap.lists.size) :
    i < later.lists.size :=
  lt_size_of_same inside (grows.lists i inside)

/-- A record stays on a heap that grows. -/
theorem Grows.lt_records (grows : heap.Grows later) {i : Nat} (inside : i < heap.records.size) :
    i < later.records.size :=
  lt_size_of_same inside (grows.records i inside)

/-- Growth upon growth is growth. -/
theorem Grows.trans (first : heap.Grows middle) (second : middle.Grows later) :
    heap.Grows later where
  lists i inside := (second.lists i (first.lt_lists inside)).trans (first.lists i inside)
  records i inside := (second.records i (first.lt_records inside)).trans (first.records i inside)

/-- A new list changes no other. -/
theorem grows_newList (heap : Heap) (items : Array Value) : heap.Grows (heap.newList items).2 where
  lists _ inside := by simp [newList, Array.getElem?_push, Nat.ne_of_lt inside]
  records _ _ := rfl

/-- A new record changes no other. -/
theorem grows_newRecord (heap : Heap) (fields : Table String Value) :
    heap.Grows (heap.newRecord fields).2 where
  lists _ _ := rfl
  records _ inside := by simp [newRecord, Array.getElem?_push, Nat.ne_of_lt inside]

/-- A list keeps its items. -/
theorem Grows.items_eq (grows : heap.Grows later) {ref : ListRef}
    (inside : ref.index < heap.lists.size) : later.items ref = heap.items ref := by
  rw [items, items, grows.lists ref.index inside]

/-- A record keeps its fields. -/
theorem Grows.fields_eq (grows : heap.Grows later) {ref : RecordRef}
    (inside : ref.index < heap.records.size) : later.fields ref = heap.fields ref := by
  rw [fields, fields, grows.records ref.index inside]

/-- A new list has the items that it was made of. -/
theorem items_newList (heap : Heap) (items : Array Value) :
    (heap.newList items).2.items (heap.newList items).1 = items := by
  simp [newList, Heap.items]

/-- A new record has the fields that it was made of. -/
theorem fields_newRecord (heap : Heap) (fields : Table String Value) :
    (heap.newRecord fields).2.fields (heap.newRecord fields).1 = fields := by
  simp [newRecord, Heap.fields]

end Heap

/-! ### Values that stand for documents -/

/-- A number is a whole number in range exactly if it is that integer. -/
theorem Number.whole?_eq_some_iff {n : Number} {k : Int64} :
    n.whole? = some k ↔ n = .integer k.toInt := by
  cases n with
  | integer i =>
    rw [whole?, Source.whole?_eq_some_iff, integer.injEq]
    exact eq_comm
  | real negative magnitude => simp [whole?]

namespace Document

/-- The field of an object under a key; of two with one key the last counts. -/
def field? (fields : List (String × Document)) (key : String) : Option Document :=
  (Table.ofList fields).get? key

/-- The value, in the heap, is the document: null is absent, a whole number in range is that number,
any other number is the text that the library writes for it, an array is a list with as many items,
in order, and an object is a record with a field for each key. -/
inductive Stands [JsonLibrary] (heap : Heap) : Value → Document → Prop
  | null : Stands heap .absent .null
  | bool (b : Bool) : Stands heap (.ofBool b) (.bool b)
  | whole (n : Int64) : Stands heap (.ofWhole n) (.number (.integer n.toInt))
  | number {n : Number} (other : ∀ k : Int64, n ≠ .integer k.toInt) :
    Stands heap (.ofText (JsonLibrary.writeNumber n)) (.number n)
  | text (s : String) : Stands heap (.ofText s) (.text s)
  | array {ref : ListRef} {items : List Document} (inside : ref.index < heap.lists.size)
    (count : heap.count ref = items.length)
    (each : ∀ i item, items[i]? = some item → Stands heap (heap.item ref i) item) :
    Stands heap (.ofList ref) (.array items)
  | object {ref : RecordRef} {fields : List (String × Document)}
    (inside : ref.index < heap.records.size)
    (bound : ∀ key d, field? fields key = some d → Stands heap (heap.field ref key) d)
    (unbound : ∀ key, field? fields key = none → heap.field ref key = .absent) :
    Stands heap (.ofRecord ref) (.object fields)

variable {heap later : Heap} {v : Value} {d : Document}

/-- What stands for a document stands for it in every heap that has grown. -/
theorem Stands.mono [JsonLibrary] (stands : Stands heap v d) (grows : heap.Grows later) :
    Stands later v d := by
  induction stands with
  | null => exact .null
  | bool b => exact .bool b
  | whole n => exact .whole n
  | number other => exact .number other
  | text s => exact .text s
  | array inside count each ih =>
    have same := grows.items_eq inside
    refine .array (grows.lt_lists inside) (by rw [Heap.count, same]; exact count) ?_
    intro i item here
    rw [Heap.item, same]
    exact ih i item here
  | object inside bound unbound ih =>
    have same := grows.fields_eq inside
    refine .object (grows.lt_records inside) (fun key d here => ?_) fun key none_ => ?_
    · rw [Heap.field, same]
      exact ih key d here
    · rw [Heap.field, same]
      exact unbound key none_

/-- The value of a number stands for it. -/
theorem stands_number [JsonLibrary] (n : Number) : Stands heap n.value (.number n) := by
  rw [Number.value]
  split
  · rename_i k whole
    rw [Number.whole?_eq_some_iff.mp whole]
    exact .whole k
  · rename_i none_
    refine .number fun k same => ?_
    rw [Number.whole?_eq_some_iff.mpr same] at none_
    cases none_

/-! ### Making values -/

/-- Pairs with the same keys, whose values are related, are found alike. -/
theorem related_of_ofList {α β : Type} {related : α → β → Prop} {xs : List (String × α)}
    {ys : List (String × β)} (alike : List.Forall₂ (fun x y => x.1 = y.1 ∧ related x.2 y.2) xs ys)
    (key : String) :
    Option.Rel related ((Table.ofList xs).get? key) ((Table.ofList ys).get? key) := by
  have from_ : ∀ {s : Table String α} {t : Table String β},
      Option.Rel related (s.get? key) (t.get? key) →
      Option.Rel related
        ((xs.foldl (fun table pair => table.insert pair.1 pair.2) s).get? key)
        ((ys.foldl (fun table pair => table.insert pair.1 pair.2) t).get? key) := by
    induction alike with
    | nil => exact id
    | @cons x y xs ys first later ih =>
      intro s t before
      refine ih ?_
      rw [Table.get?_insert, Table.get?_insert, first.1]
      split
      · exact .some first.2
      · exact before
  exact from_ .none

/-- A new list stands for the array that its items stand for. -/
theorem stands_newList [JsonLibrary] {values : List Value} {items : List Document}
    (each : List.Forall₂ (Stands heap) values items) :
    Stands (heap.newList values.toArray).2 (.ofList (heap.newList values.toArray).1)
      (.array items) := by
  have grows := heap.grows_newList values.toArray
  have held := heap.items_newList values.toArray
  refine .array (by simp [Heap.newList]) ?_ fun i item here => ?_
  · rw [Heap.count, held]
    simpa using each.length_eq
  · rw [Heap.item, held]
    obtain ⟨below, same⟩ := List.getElem?_eq_some_iff.mp here
    have inside : i < values.length := each.length_eq ▸ below
    have stands : Stands heap values[i] items[i] := each.get inside below
    rw [same] at stands
    simpa [inside] using stands.mono grows

/-- A new record stands for the object that its bindings stand for. -/
theorem stands_newRecord [JsonLibrary] {bindings : List (String × Value)}
    {fields : List (String × Document)}
    (each : List.Forall₂ (fun x y => x.1 = y.1 ∧ Stands heap x.2 y.2) bindings fields) :
    Stands (heap.newRecord (.ofList bindings)).2
      (.ofRecord (heap.newRecord (.ofList bindings)).1) (.object fields) := by
  have grows := heap.grows_newRecord (.ofList bindings)
  have held := heap.fields_newRecord (.ofList bindings)
  have found := related_of_ofList each
  refine .object (by simp [Heap.newRecord]) (fun key d here => ?_) fun key none_ => ?_
  · rw [Heap.field, held]
    have alike := found key
    rw [field?] at here
    rw [here] at alike
    cases value : (Table.ofList bindings).get? key with
    | none =>
      rw [value] at alike
      cases alike
    | some v =>
      rw [value] at alike
      cases alike with
      | some stands => exact stands.mono grows
  · rw [Heap.field, held]
    have alike := found key
    rw [field?] at none_
    rw [none_] at alike
    cases value : (Table.ofList bindings).get? key with
    | none => rfl
    | some v =>
      rw [value] at alike
      cases alike

mutual

/-- The value of a document stands for it, on a heap that has grown. -/
theorem toValue_stands [JsonLibrary] (d : Document) (heap : Heap) :
    heap.Grows (d.toValue heap).2 ∧ Stands (d.toValue heap).2 (d.toValue heap).1 d := by
  cases d with
  | null => exact ⟨.refl heap, .null⟩
  | bool b => exact ⟨.refl heap, .bool b⟩
  | number n => exact ⟨.refl heap, stands_number n⟩
  | text s => exact ⟨.refl heap, .text s⟩
  | array items =>
    obtain ⟨grows, each⟩ := toValues_stands items heap
    rw [toValue]
    exact ⟨grows.trans (Heap.grows_newList _ _), stands_newList each⟩
  | object fields =>
    obtain ⟨grows, each⟩ := toBindings_stands fields heap
    rw [toValue]
    exact ⟨grows.trans (Heap.grows_newRecord _ _), stands_newRecord each⟩

/-- The values of documents stand for them, on a heap that has grown. -/
theorem toValues_stands [JsonLibrary] (items : List Document) (heap : Heap) :
    heap.Grows (toValues items heap).2 ∧
      List.Forall₂ (Stands (toValues items heap).2) (toValues items heap).1 items := by
  cases items with
  | nil => exact ⟨.refl heap, .nil⟩
  | cons item items =>
    obtain ⟨first, stands⟩ := toValue_stands item heap
    obtain ⟨later, each⟩ := toValues_stands items (item.toValue heap).2
    rw [toValues]
    exact ⟨first.trans later, .cons (stands.mono later) each⟩

/-- The values of fields stand for the fields, on a heap that has grown. -/
theorem toBindings_stands [JsonLibrary] (fields : List (String × Document)) (heap : Heap) :
    heap.Grows (toBindings fields heap).2 ∧
      List.Forall₂ (fun x y => x.1 = y.1 ∧ Stands (toBindings fields heap).2 x.2 y.2)
        (toBindings fields heap).1 fields := by
  cases fields with
  | nil => exact ⟨.refl heap, .nil⟩
  | cons field fields =>
    obtain ⟨key, item⟩ := field
    obtain ⟨first, stands⟩ := toValue_stands item heap
    obtain ⟨later, each⟩ := toBindings_stands fields (item.toValue heap).2
    rw [toBindings]
    exact ⟨first.trans later, .cons ⟨rfl, stands.mono later⟩ each⟩

end

end Document

end TextTemplate

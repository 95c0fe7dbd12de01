/-!
# Tables

A table binds keys to values, at most one value to a key, and remembers the order in which keys were
first bound. The view of a table is `get?`: the laws say what each operation does to it.
-/
namespace TextTemplate

/-- Keys with the values bound to them, in the order in which the keys were first bound. -/
structure Table (κ α : Type) where
  /-- The bindings in order; a key occurs once. -/
  entries : List (κ × α)

namespace Table

variable {κ α : Type} [DecidableEq κ]

/-- The table without bindings. -/
def empty : Table κ α := ⟨[]⟩

instance : EmptyCollection (Table κ α) := ⟨empty⟩

instance : Inhabited (Table κ α) := ⟨empty⟩

/-- The value that the first entry of a key holds. -/
def find (key : κ) : List (κ × α) → Option α
  | [] => none
  | (k, value) :: rest => if k = key then some value else find key rest

/-- Replace the first entry of a key, or add an entry at the end. -/
def put (key : κ) (value : α) : List (κ × α) → List (κ × α)
  | [] => [(key, value)]
  | (k, old) :: rest => if k = key then (key, value) :: rest else (k, old) :: put key value rest

/-- The value bound to a key. -/
def get? (table : Table κ α) (key : κ) : Option α := find key table.entries

/-- Bind a key, in place of an earlier binding of that key. -/
def insert (table : Table κ α) (key : κ) (value : α) : Table κ α :=
  ⟨put key value table.entries⟩

/-- Remove the binding of a key. -/
def erase (table : Table κ α) (key : κ) : Table κ α :=
  ⟨table.entries.filter fun entry => entry.1 ≠ key⟩

/-- Whether a key is bound. -/
def contains (table : Table κ α) (key : κ) : Bool := (table.get? key).isSome

/-- The bound keys in the order in which they were first bound. -/
def keys (table : Table κ α) : List κ := table.entries.map (·.1)

/-- The number of bound keys. -/
def size (table : Table κ α) : Nat := table.entries.length

/-- Bind pairs in order, so that the last pair of a key wins. -/
def ofList (pairs : List (κ × α)) : Table κ α :=
  pairs.foldl (fun table pair => table.insert pair.1 pair.2) empty

omit [DecidableEq κ] in
/-- The empty table has no entry. -/
@[simp] theorem entries_empty : (∅ : Table κ α).entries = [] := rfl

/-- In the empty table nothing is found. -/
@[simp] theorem get?_empty (key : κ) : (∅ : Table κ α).get? key = none := rfl

/-- After a key was put it has the new value, and every other key has what it had. -/
theorem find_put (key other : κ) (value : α) (entries : List (κ × α)) :
    find other (put key value entries) =
      if key = other then some value else find other entries := by
  induction entries with
  | nil => simp [put, find]
  | cons entry rest ih =>
    obtain ⟨k, old⟩ := entry
    by_cases same : k = key
    · subst same
      by_cases hit : k = other <;> simp [put, find, hit]
    · by_cases hit : k = other
      · subst hit
        simp [put, find, same, Ne.symm same]
      · simp [put, find, same, hit, ih]

/-- A key that was just bound has its new value; every other key keeps its own. -/
@[simp] theorem get?_insert (table : Table κ α) (key other : κ) (value : α) :
    (table.insert key value).get? other = if key = other then some value else table.get? other :=
  find_put key other value table.entries

/-- Without the entries of a key it is not found, and every other key is found as before. -/
theorem find_filter_ne (key other : κ) (entries : List (κ × α)) :
    find other (entries.filter fun entry => entry.1 ≠ key) =
      if key = other then none else find other entries := by
  induction entries with
  | nil => simp [find]
  | cons entry rest ih =>
    obtain ⟨k, value⟩ := entry
    by_cases same : k = key
    · subst same
      by_cases hit : k = other <;> simp_all [find]
    · by_cases hit : k = other
      · subst hit
        simp [find, same, Ne.symm same]
      · simp_all [find]

/-- Entries of other keys do not matter to a key. -/
theorem find_filter {key : κ} (keep : κ → Bool) (kept : keep key = true) (entries : List (κ × α)) :
    find key (entries.filter fun entry => keep entry.1) = find key entries := by
  induction entries with
  | nil => rfl
  | cons entry rest ih =>
    obtain ⟨k, value⟩ := entry
    by_cases same : k = key
    · subst same
      simp [find, kept]
    · cases keeps : keep k <;> simp [find, same, keeps, ih]

/-- Binding a key does not matter to the entries of other keys. -/
theorem filter_put {key : κ} (keep : κ → Bool) (dropped : keep key = false) (value : α)
    (entries : List (κ × α)) :
    (put key value entries).filter (fun entry => keep entry.1) =
      entries.filter fun entry => keep entry.1 := by
  induction entries with
  | nil => simp [put, dropped]
  | cons entry rest ih =>
    obtain ⟨k, old⟩ := entry
    by_cases same : k = key
    · simp [put, same, dropped]
    · rw [put, if_neg same, List.filter_cons, List.filter_cons, ih]

/-- A key that was just removed has no value; every other key keeps its own. -/
@[simp] theorem get?_erase (table : Table κ α) (key other : κ) :
    (table.erase key).get? other = if key = other then none else table.get? other :=
  find_filter_ne key other table.entries

/-- A key is bound after an insertion if it is the inserted key or was bound before. -/
theorem contains_insert (table : Table κ α) (key other : κ) (value : α) :
    (table.insert key value).contains other = (decide (key = other) || table.contains other) := by
  by_cases same : key = other <;> simp [contains, same]

/-- Binding a key for the first time adds an entry at the end. -/
theorem put_of_find_eq_none {key : κ} (value : α) {entries : List (κ × α)}
    (unbound : find key entries = none) : put key value entries = entries ++ [(key, value)] := by
  induction entries with
  | nil => rfl
  | cons entry rest ih =>
    obtain ⟨k, old⟩ := entry
    by_cases same : k = key
    · simp [find, same] at unbound
    · rw [find, if_neg same] at unbound
      rw [put, if_neg same, ih unbound, List.cons_append]

/-- A new key comes last. -/
theorem entries_insert_of_get?_eq_none {table : Table κ α} {key : κ} (value : α)
    (unbound : table.get? key = none) :
    (table.insert key value).entries = table.entries ++ [(key, value)] :=
  put_of_find_eq_none value unbound

/-- No entry has a key that is not bound. -/
theorem ne_of_find_eq_none {key : κ} {entries : List (κ × α)} (unbound : find key entries = none) :
    ∀ entry ∈ entries, entry.1 ≠ key := by
  induction entries with
  | nil => exact nofun
  | cons entry rest ih =>
    obtain ⟨k, old⟩ := entry
    by_cases same : k = key
    · simp [find, same] at unbound
    · rw [find, if_neg same] at unbound
      exact List.forall_mem_cons.mpr ⟨same, ih unbound⟩

/-- What is found under a key is the value of an entry. -/
theorem mem_of_find_eq_some {key : κ} {value : α} {entries : List (κ × α)}
    (found : find key entries = some value) : (key, value) ∈ entries := by
  induction entries with
  | nil => cases found
  | cons entry rest ih =>
    obtain ⟨k, old⟩ := entry
    rw [find] at found
    split at found
    · rename_i same
      cases found
      rw [same]
      exact List.mem_cons_self
    · exact List.mem_cons_of_mem _ (ih found)

/-- What is found under a key is an entry of the table. -/
theorem mem_of_get?_eq_some {table : Table κ α} {key : κ} {value : α}
    (bound : table.get? key = some value) : (key, value) ∈ table.entries :=
  mem_of_find_eq_some bound

/-- Where a key occurs once, its value is that of the entry. -/
theorem find_eq_some_iff {key : κ} {value : α} {entries : List (κ × α)}
    (once : (entries.map (·.1)).Nodup) :
    find key entries = some value ↔ (key, value) ∈ entries := by
  induction entries with
  | nil => simp [find]
  | cons entry rest ih =>
    obtain ⟨k, old⟩ := entry
    rw [List.map_cons, List.nodup_cons] at once
    by_cases same : k = key
    · subst same
      have absent : (k, value) ∉ rest := fun found =>
        once.1 (List.mem_map.mpr ⟨(k, value), found, rfl⟩)
      simp [find, absent, eq_comm]
    · have other : (key, value) ≠ (k, old) := fun equal => same (congrArg Prod.fst equal).symm
      rw [find, if_neg same, ih once.2, List.mem_cons, or_iff_right other]

/-- In a table without a second entry of a key what is found is what is entered. -/
theorem get?_eq_some_iff {table : Table κ α} {key : κ} {value : α} (once : table.keys.Nodup) :
    table.get? key = some value ↔ (key, value) ∈ table.entries :=
  find_eq_some_iff once

end Table

end TextTemplate

import TextTemplate.Value.Cursor
import Mathlib.Logic.Function.Basic
/-!
# Readers of a list

A list may have many readers, each with a cursor of its own, and may grow between any two moves. A
cursor holds a position, so what others do changes nothing of it: where a cursor stands follows from
its own moves alone (`Readers.cursors_run`), and what stands there stays (`Readers.items_run`). Main
statement: from any state on, a cursor keeps its item, walks through the whole list in either
direction, comes back by the opposite move, and stays off the list once it left it at the front
(`Readers.lawful`).
-/
namespace TextTemplate

/-- Appending keeps the items of a list at their positions. -/
theorem Heap.exists_items_append (heap : Heap) (list : ListRef) (v : Value) :
    ∃ more, (heap.append list v).items list = heap.items list ++ more := by
  by_cases inside : list.index < heap.lists.size
  · refine ⟨#[v], ?_⟩
    rw [heap.items_append _ _ _ inside, if_pos rfl, Array.push_eq_append]
  · refine ⟨#[], ?_⟩
    have none_ : heap.lists[list.index]? = none := Array.getElem?_eq_none (Nat.le_of_not_lt inside)
    simp [append, modifyItems, items, Array.getElem?_modify, none_]

/-- A move of a cursor. -/
inductive Move
  | first
  | last
  | next
  | prev
deriving DecidableEq, Repr

namespace Cursor

variable {cursor : Cursor} {p count : Nat}

/-- The cursor after a move on a list of the given length. -/
def moved (cursor : Cursor) (count : Nat) : Move → Cursor
  | .first => .first
  | .last => .last count
  | .next => cursor.next
  | .prev => cursor.prev

/-- The cursor after moves on a list of the given length. -/
def follow (cursor : Cursor) (count : Nat) (moves : List Move) : Cursor :=
  moves.foldl (moved · count) cursor

/-- Only the move to the last item depends on how long the list is. -/
theorem moved_of_ne {way : Move} (other : way ≠ .last) (cursor : Cursor) (m n : Nat) :
    cursor.moved m way = cursor.moved n way := by
  cases way with
  | last => exact absurd rfl other
  | first | next | prev => rfl

/-- Steps forward lead as many positions on. -/
theorem position_follow_next (cursor : Cursor) (count k : Nat) :
    (cursor.follow count (.replicate k .next)).position = cursor.position.map (· + k) := by
  induction k generalizing cursor with
  | zero => simp [follow]
  | succ k ih =>
    show (cursor.next.follow count (.replicate k .next)).position = _
    rw [ih]
    cases here : cursor.position with
    | none => simp [next, here]
    | some p => simp [next, here, Nat.add_assoc, Nat.add_comm 1 k]

/-- Steps back lead as many positions back, or off the list at the front. -/
theorem position_follow_prev (cursor : Cursor) (count k : Nat) :
    (cursor.follow count (.replicate k .prev)).position =
      cursor.position.bind fun p => if k ≤ p then some (p - k) else none := by
  induction k generalizing cursor with
  | zero => simp [follow]
  | succ k ih =>
    show (cursor.prev.follow count (.replicate k .prev)).position = _
    rw [ih]
    cases here : cursor.position with
    | none => simp [prev, here]
    | some p => cases p <;> simp [prev, here]

/-- Steps do not bring a cursor back that is off the list. -/
theorem position_follow_of_off (off : cursor.position = none) {moves : List Move}
    (first : .first ∉ moves) (last : .last ∉ moves) :
    (cursor.follow count moves).position = none := by
  induction moves generalizing cursor with
  | nil => exact off
  | cons way rest ih =>
    obtain ⟨other, first⟩ := not_or.mp (mt List.mem_cons.mpr first)
    obtain ⟨other', last⟩ := not_or.mp (mt List.mem_cons.mpr last)
    show ((cursor.moved count way).follow count rest).position = none
    refine ih ?_ first last
    cases way with
    | first => exact absurd rfl other
    | last => exact absurd rfl other'
    | next => exact (step_of_off off).1
    | prev => exact (step_of_off off).2

/-- Where a step forward leads to a position a step back undoes it. -/
theorem prev_next_of_position (there : cursor.next.position = some p) :
    cursor.next.prev = cursor := by
  obtain ⟨position⟩ := cursor
  cases position with
  | none => cases there
  | some q => rfl

/-- Where a step back leads to a position a step forward undoes it. -/
theorem next_prev_of_position (there : cursor.prev.position = some p) :
    cursor.prev.next = cursor := by
  obtain ⟨position⟩ := cursor
  cases position with
  | none => cases there
  | some q =>
    cases q with
    | zero => cases there
    | succ q => rfl

end Cursor

/-- A list with the cursors of those who read it, any number of them. -/
structure Readers (ι : Type) where
  /-- The contents of lists. -/
  heap : Heap
  /-- The list. -/
  list : ListRef
  /-- The cursor of each reader. -/
  cursors : ι → Cursor

namespace Readers

/-- What may happen: a reader moves its cursor, or the list grows. -/
inductive Step (ι : Type)
  | move (reader : ι) (way : Move)
  | append (v : Value)

variable {ι : Type} {s : Readers ι} {reader : ι} {v : Value}

/-- The number of items as it is now. -/
def count (s : Readers ι) : Nat := s.heap.count s.list

/-- The item at a position. -/
def item (s : Readers ι) (position : Nat) : Value := s.heap.item s.list position

/-- What the cursor of a reader reports. -/
def reported (s : Readers ι) (reader : ι) : Option Value :=
  (s.cursors reader).current s.heap s.list

/-! ### Positions and items -/

/-- A position holds an item exactly if it lies in the list. -/
theorem getElem?_items (s : Readers ι) (position : Nat) :
    (s.heap.items s.list)[position]? =
      if position < s.count then some (s.item position) else none := by
  by_cases inside : position < s.count
  · rw [if_pos inside, item, Heap.item, Array.getElem?_eq_getElem inside, Option.getD_some]
  · rw [if_neg inside]
    exact Array.getElem?_eq_none (Nat.le_of_not_lt inside)

/-- At a position a cursor reports the item there, if the list goes so far. -/
theorem reported_of_position {p : Nat} (here : (s.cursors reader).position = some p) :
    s.reported reader = if p < s.count then some (s.item p) else none := by
  rw [reported, Cursor.current, here, Option.bind_some, getElem?_items]

/-- Off the list a cursor reports nothing. -/
theorem reported_of_off (off : (s.cursors reader).position = none) : s.reported reader = none := by
  rw [reported, Cursor.current, off, Option.bind_none]

/-- A cursor that reports an item has a position in the list. -/
theorem position_of_reported (found : (s.reported reader).isSome) :
    ∃ p, (s.cursors reader).position = some p ∧ p < s.count := by
  cases here : (s.cursors reader).position with
  | none =>
    rw [reported_of_off here] at found
    cases found
  | some p =>
    refine ⟨p, rfl, ?_⟩
    rw [reported_of_position here] at found
    by_contra outside
    rw [if_neg outside] at found
    cases found

/-! ### Steps -/

variable [DecidableEq ι] {steps between : List (Step ι)}

/-- The state after a step. -/
def act (s : Readers ι) : Step ι → Readers ι
  | .move reader way =>
    { s with cursors := Function.update s.cursors reader ((s.cursors reader).moved s.count way) }
  | .append v => { s with heap := s.heap.append s.list v }

/-- The state after steps in order. -/
def run (s : Readers ι) (steps : List (Step ι)) : Readers ι := steps.foldl act s

/-- The moves that one reader makes. -/
def movesOf (reader : ι) (steps : List (Step ι)) : List Move :=
  steps.filterMap fun
    | .move other way => if other = reader then some way else none
    | .append _ => none

/-- The cursor of a reader is back where it was, after others did something in between. -/
structure Restored (s : Readers ι) (reader : ι) (between : List (Step ι)) (after : Readers ι) :
    Prop where
  /-- It is at the same position. -/
  position : after.cursors reader = s.cursors reader
  /-- It reports the item that it reported. -/
  item : ∀ v, s.reported reader = some v → after.reported reader = some v
  /-- If nothing happened in between it reports what it reported, be it an item or nothing. -/
  same : between = [] → after.reported reader = s.reported reader

/-- What readers of a list can rely on, whatever happened before. -/
structure Lawful (s : Readers ι) : Prop where
  /-- A cursor on an item keeps reporting it while only others move and the list grows. -/
  steady : ∀ reader steps v, movesOf reader steps = [] → s.reported reader = some v →
    (s.run steps).reported reader = some v
  /-- From the first item on a cursor reports one item after the other, up to the last one that the
  list has by then, and then nothing. -/
  forwards : ∀ reader steps k, movesOf reader steps = .replicate k .next →
    let now := s.run (.move reader .first :: steps)
    now.reported reader = if k < now.count then some (now.item k) else none
  /-- From the last item on it reports them in the opposite order, down to the first one, and then
  nothing. -/
  backwards : ∀ reader steps k, movesOf reader steps = .replicate k .prev →
    (s.run (.move reader .last :: steps)).reported reader =
      if k < s.count then some (s.item (s.count - 1 - k)) else none
  /-- A cursor that went on to an item comes back by the opposite move. -/
  next_prev : ∀ reader between, movesOf reader between = [] →
    ((s.run (.move reader .next :: between)).reported reader).isSome →
    s.Restored reader between (s.run (.move reader .next :: (between ++ [.move reader .prev])))
  /-- So does one that went back to an item. -/
  prev_next : ∀ reader between, movesOf reader between = [] →
    ((s.run (.move reader .prev :: between)).reported reader).isSome →
    s.Restored reader between (s.run (.move reader .prev :: (between ++ [.move reader .next])))
  /-- A cursor that stepped before the first item reports nothing until it is put on the first or
  the last one. -/
  off : ∀ reader steps, (s.cursors reader).prev.position = none →
    .first ∉ movesOf reader steps → .last ∉ movesOf reader steps →
    (s.run (.move reader .prev :: steps)).reported reader = none

/-- The first step is taken and then the others. -/
theorem run_cons (s : Readers ι) (step : Step ι) (steps : List (Step ι)) :
    s.run (step :: steps) = (s.act step).run steps := rfl

/-- The last step is taken last. -/
theorem run_concat (s : Readers ι) (steps : List (Step ι)) (step : Step ι) :
    s.run (steps ++ [step]) = (s.run steps).act step := List.foldl_append

/-- Readers keep to their list. -/
theorem list_run (s : Readers ι) (steps : List (Step ι)) : (s.run steps).list = s.list := by
  induction steps generalizing s with
  | nil => rfl
  | cons step rest ih =>
    rw [run_cons, ih]
    cases step <;> rfl

/-- What stands in the list stays at its position. -/
theorem items_run (s : Readers ι) (steps : List (Step ι)) :
    ∃ more, (s.run steps).heap.items s.list = s.heap.items s.list ++ more := by
  induction steps generalizing s with
  | nil => exact ⟨#[], Array.append_empty.symm⟩
  | cons step rest ih =>
    obtain ⟨later, grown⟩ := ih (s.act step)
    cases step with
    | move other way => exact ⟨later, grown⟩
    | append v =>
      obtain ⟨first, appended⟩ := s.heap.exists_items_append s.list v
      refine ⟨first ++ later, ?_⟩
      rw [← Array.append_assoc, ← appended]
      exact grown

/-- A cursor on an item of the list reports it after any steps that leave the cursor there. -/
theorem reported_run {p : Nat} (inside : p < s.count)
    (here : ((s.run steps).cursors reader).position = some p) :
    (s.run steps).reported reader = some (s.item p) := by
  obtain ⟨more, grown⟩ := s.items_run steps
  rw [reported, Cursor.current, here, list_run, Option.bind_some, grown,
    Array.getElem?_append_left inside, getElem?_items, if_pos inside]

/-- A move moves the cursor that it is for. -/
theorem cursors_act_move (s : Readers ι) (reader : ι) (way : Move) :
    (s.act (.move reader way)).cursors reader = (s.cursors reader).moved s.count way :=
  Function.update_self _ _ _

/-- Where a cursor stands follows from its own moves, if none of them is to the last item. -/
theorem cursors_run (count : Nat) (free : .last ∉ movesOf reader steps) :
    (s.run steps).cursors reader = (s.cursors reader).follow count (movesOf reader steps) := by
  induction steps generalizing s with
  | nil => rfl
  | cons step rest ih =>
    rw [run_cons]
    cases step with
    | append v => exact ih free
    | move other way =>
      by_cases own : other = reader
      · subst own
        have moves : movesOf other (.move other way :: rest) = way :: movesOf other rest :=
          List.filterMap_cons_some (if_pos rfl)
        rw [moves] at free ⊢
        obtain ⟨now, later⟩ := not_or.mp (mt List.mem_cons.mpr free)
        rw [ih later, cursors_act_move, Cursor.moved_of_ne (Ne.symm now) _ s.count count]
        rfl
      · have moves : movesOf reader (.move other way :: rest) = movesOf reader rest :=
          List.filterMap_cons_none (if_neg own)
        rw [moves] at free ⊢
        rw [ih free]
        simp only [act, Function.update_of_ne (Ne.symm own)]

/-- A cursor that is not moved stands where it stood. -/
theorem cursors_run_of_still (still : movesOf reader steps = []) :
    (s.run steps).cursors reader = s.cursors reader := by
  rw [cursors_run 0 (by simp [still]), still]
  rfl

/-- Steps of one kind, and no other move, take a cursor from where it was put. -/
theorem cursors_run_replicate {way again : Move} {k : Nat}
    (moves : movesOf reader steps = .replicate k again) (other : again ≠ .last) :
    (s.run (.move reader way :: steps)).cursors reader =
      ((s.cursors reader).moved s.count way).follow 0 (.replicate k again) := by
  have free : .last ∉ movesOf reader steps := by
    rw [moves]
    exact fun member => other (List.eq_of_mem_replicate member).symm
  rw [run_cons, cursors_run 0 free, moves, cursors_act_move]

/-- Two moves that undo each other bring a cursor back, whatever others do in between. -/
theorem restored_of_moves {way back : Move} (still : movesOf reader between = [])
    (undone : ∀ count, ((s.cursors reader).moved s.count way).moved count back = s.cursors reader) :
    s.Restored reader between (s.run (.move reader way :: (between ++ [.move reader back]))) := by
  have position : (s.run (.move reader way :: (between ++ [.move reader back]))).cursors reader =
      s.cursors reader := by
    rw [← List.cons_append, run_concat, cursors_act_move, run_cons, cursors_run_of_still still,
      cursors_act_move, undone]
  refine ⟨position, fun v found => ?_, ?_⟩
  · obtain ⟨p, here, inside⟩ := position_of_reported (by rw [found]; rfl)
    rw [reported_of_position here, if_pos inside] at found
    rw [reported_run inside (position ▸ here), found]
  · rintro rfl
    rw [reported, reported, position]
    rfl

/-! ### All that readers can rely on -/

/-- From any state on readers can rely on all of this. -/
theorem lawful (s : Readers ι) : s.Lawful where
  steady reader steps v still found := by
    obtain ⟨p, here, inside⟩ := position_of_reported (by rw [found]; rfl)
    rw [reported_of_position here, if_pos inside] at found
    rw [reported_run inside (by rw [cursors_run_of_still still, here]), found]
  forwards reader steps k moves := by
    refine reported_of_position ?_
    rw [cursors_run_replicate moves (by decide), Cursor.position_follow_next]
    simp [Cursor.moved, Cursor.first]
  backwards reader steps k moves := by
    have position : ((s.run (.move reader .last :: steps)).cursors reader).position =
        if k < s.count then some (s.count - 1 - k) else none := by
      rw [cursors_run_replicate moves (by decide), Cursor.position_follow_prev]
      simp only [Cursor.moved, Cursor.last]
      by_cases empty : s.count = 0
      · simp [empty]
      · have some_ : k ≤ s.count - 1 ↔ k < s.count := by omega
        simp [empty, some_]
    by_cases inside : k < s.count
    · rw [if_pos inside] at position ⊢
      exact reported_run (s := s) (by omega) position
    · rw [if_neg inside] at position ⊢
      exact reported_of_off position
  next_prev reader between still found := by
    obtain ⟨p, there, -⟩ := position_of_reported found
    rw [run_cons, cursors_run_of_still still, cursors_act_move] at there
    exact restored_of_moves still fun _ => Cursor.prev_next_of_position there
  prev_next reader between still found := by
    obtain ⟨p, there, -⟩ := position_of_reported found
    rw [run_cons, cursors_run_of_still still, cursors_act_move] at there
    exact restored_of_moves still fun _ => Cursor.next_prev_of_position there
  off reader steps off first last := by
    refine reported_of_off ?_
    rw [run_cons, cursors_run 0 last, cursors_act_move]
    exact Cursor.position_follow_of_off off first last

end Readers

end TextTemplate

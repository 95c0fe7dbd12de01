import TextTemplate.Evaluation
/-!
# What evaluation does to the host's state

Evaluation reads the heap and invokes callables; it changes the host's state by invoking them alone.
So a relation between two states that have the same heap, kept by invoking a callable in both, holds
after an expression was evaluated in both, and both evaluations have the same value. A property of
one state that callables keep is the special case of two equal states.
-/
namespace TextTemplate

/-- The host's state after a callable was invoked without arguments. -/
def HostState.invoked (state : HostState) (host : Host) (ref : CallableRef) : HostState :=
  { state with heap := (host.call ref [] state.heap).2 }.record (.called ref)

section Related

variable {host : Host} (related : HostState → HostState → Prop) {left right : HostState}
  (heap : ∀ s t, related s t → s.heap = t.heap)
  (called : ∀ s t ref, related s t → related (s.invoked host ref) (t.invoked host ref))

include heap called

/-- Settling a value gives the same in related states, and leaves them related. -/
theorem Value.settle_related (v : Value) (start : related left right) :
    (v.settle host left).1 = (v.settle host right).1 ∧
      related (v.settle host left).2 (v.settle host right).2 := by
  have same := heap left right start
  unfold Value.settle
  cases v.payload with
  | callable ref => exact ⟨by simp [same], called left right ref start⟩
  | _ => exact ⟨rfl, start⟩

/-- A path leads to the same in related states, and leaves them related. -/
theorem Value.follow_related (fields : List String) (v : Value) (start : related left right) :
    (v.follow host fields left).1 = (v.follow host fields right).1 ∧
      related (v.follow host fields left).2 (v.follow host fields right).2 := by
  induction fields generalizing v left right with
  | nil => exact ⟨rfl, start⟩
  | cons field fields ih =>
    have same := heap left right start
    simp only [Value.follow, ← same]
    cases v.part? field left.heap with
    | none => exact ⟨rfl, start⟩
    | some part =>
      obtain ⟨value, settled⟩ := Value.settle_related related heap called part start
      have later := ih (part.settle host left).1 settled
      dsimp only
      rw [value] at later ⊢
      exact later

/-- An operand gives the same in related states, and leaves them related. -/
theorem Operand.eval_related (context : Context) (operand : Operand) (start : related left right) :
    (operand.eval host context left).1 = (operand.eval host context right).1 ∧
      related (operand.eval host context left).2 (operand.eval host context right).2 := by
  cases operand with
  | literal l => exact ⟨rfl, start⟩
  | path name fields =>
    obtain ⟨value, settled⟩ := Value.settle_related related heap called (context.get name) start
    have later := Value.follow_related related heap called fields
      ((context.get name).settle host left).1 settled
    simp only [Operand.eval]
    rw [value] at later ⊢
    exact later

/-- Evaluations from related states have the same value and lead to related states. -/
theorem Expr.eval_related (context : Context) (expr : Expr) (start : related left right) :
    (expr.eval host context left).1 = (expr.eval host context right).1 ∧
      related (expr.eval host context left).2 (expr.eval host context right).2 := by
  obtain ⟨value, operand⟩ := Operand.eval_related related heap called context expr.operand start
  refine ⟨?_, operand⟩
  simp only [Expr.eval, value, heap _ _ operand]

end Related

/-- What every callable keeps is kept by evaluation. -/
theorem Expr.eval_kept {host : Host} (kept : HostState → Prop)
    (called : ∀ s ref, kept s → kept (s.invoked host ref)) (context : Context) (expr : Expr)
    {state : HostState} (start : kept state) : kept (expr.eval host context state).2 :=
  (Expr.eval_related (fun s t => s = t ∧ kept s) (fun _ _ both => both.1 ▸ rfl)
    (fun s _ ref both => both.1 ▸ ⟨rfl, called s ref both.2⟩) context expr ⟨rfl, start⟩).2.2

/-- What was done before makes no difference to evaluation. -/
theorem Expr.eval_heap (host : Host) (context : Context) (expr : Expr) {left right : HostState}
    (same : left.heap = right.heap) :
    (expr.eval host context left).1 = (expr.eval host context right).1 ∧
      (expr.eval host context left).2.heap = (expr.eval host context right).2.heap :=
  Expr.eval_related (fun s t => s.heap = t.heap) (fun _ _ => id)
    (fun s t ref same => by simp [HostState.invoked, same]) context expr same

/-- The callables of the host change no list that there is. -/
def Host.Calm (host : Host) : Prop :=
  ∀ ref args heap list, list.index < heap.lists.size →
    (host.call ref args heap).2.items list = heap.items list

/-- A list with items is in the heap. -/
theorem Heap.index_lt_of_items_ne {heap : Heap} {list : ListRef} (holds : heap.items list ≠ #[]) :
    list.index < heap.lists.size := by
  rcases Nat.lt_or_ge list.index heap.lists.size with inside | outside
  · exact inside
  · have missing : heap.lists[list.index]? = none := Array.getElem?_eq_none outside
    exact absurd (by simp [Heap.items, missing]) holds

/-- With calm callables, evaluation leaves the items of a list that has any. -/
theorem Expr.items_eval {host : Host} (calm : host.Calm) (context : Context) (expr : Expr)
    {state : HostState} {list : ListRef} (holds : state.heap.items list ≠ #[]) :
    (expr.eval host context state).2.heap.items list = state.heap.items list := by
  refine Expr.eval_kept (fun s => s.heap.items list = state.heap.items list)
    (fun s ref same => ?_) context expr rfl
  have inside := Heap.index_lt_of_items_ne (same ▸ holds)
  exact (calm ref [] s.heap list inside).trans same

end TextTemplate

import TextTemplate.Proofs.Evaluation
/-!
# Which callables are invoked

A path meets a value at each of its segments: first what its name is bound to, then the part of what
the value before it stands for, as far as there are parts. A callable stands for the text that it
answers with. `Operand.Meets` tells these values by their places, each from the one before it and
from the host's state at that moment. Main statement: no expression has a callable as its value, and
evaluation invokes the callables among the values that its path meets, once each, without arguments
and in this order, and does nothing else (`Expr.eval_invokes`).
-/
namespace TextTemplate

namespace Value

/-- The callable that a value refers to. -/
def callable? (v : Value) : Option CallableRef :=
  match v.payload with
  | .callable ref => some ref
  | _ => none

/-- What a value stands for where it is met: a callable for the text that it answers with when it is
invoked without arguments, every other value for itself. -/
def answer (v : Value) (host : Host) (heap : Heap) : Value :=
  match v.callable? with
  | some ref => .ofText (host.call ref [] heap).1
  | none => v

end Value

/-- The host's state after values were met: the callables among them were invoked without arguments,
one after the other, each as often as it was met. -/
def HostState.after (state : HostState) (host : Host) (met : List Value) : HostState :=
  (met.filterMap Value.callable?).foldl (fun s ref => s.invoked host ref) state

/-- The values that are met along fields, beginning with a given one. -/
structure Value.Meets (first : Value) (host : Host) (state : HostState) (fields : List String)
    (met : List Value) : Prop where
  /-- The given value comes first. -/
  first : met[0]? = some first
  /-- There is a value for each field at most. -/
  bound : met.length ≤ fields.length + 1
  /-- The next value is the part of what this one stands for, if that has parts at all; it is looked
  up after this one was met. -/
  next : ∀ k v field, met[k]? = some v → fields[k]? = some field →
    met[k + 1]? = (v.answer host (state.after host (met.take k)).heap).part? field
      (state.after host (met.take (k + 1))).heap

/-- The values that an operand meets: a literal none, a path those along its fields, beginning with
what its name is bound to. -/
def Operand.Meets (host : Host) (context : Context) (state : HostState) (met : List Value) :
    Operand → Prop
  | .literal _ => met = []
  | .path name fields => (context.get name).Meets host state fields met

section Meeting

variable {host : Host} {state : HostState} {first : Value} {fields : List String} {field : String}
  {met : List Value}

/-- Values in a row are met in turn. -/
theorem HostState.after_append (state : HostState) (host : Host) (met later : List Value) :
    state.after host (met ++ later) = (state.after host met).after host later := by
  simp only [after, List.filterMap_append, List.foldl_append]

/-- The first of some values is met before the others. -/
theorem HostState.after_cons (state : HostState) (host : Host) (v : Value) (met : List Value) :
    state.after host (v :: met) = (state.after host [v]).after host met :=
  state.after_append host [v] met

/-- The journal tells which callables were invoked while values were met. -/
theorem HostState.journal_after (state : HostState) (host : Host) (met : List Value) :
    (state.after host met).journal =
      state.journal ++ ((met.filterMap Value.callable?).map Act.called).toArray := by
  unfold after
  induction met.filterMap Value.callable? generalizing state with
  | nil => simp
  | cons ref refs ih =>
    rw [List.foldl_cons, ih]
    simp [HostState.invoked]

/-- A value that is settled was met. -/
theorem Value.settle_eq (v : Value) (host : Host) (state : HostState) :
    v.settle host state = (v.answer host state.heap, state.after host [v]) := by
  obtain ⟨payload, raw⟩ := v
  cases payload <;> rfl

/-- Nothing more is met where there is no part. -/
theorem Value.Meets.stop
    (none_ : (first.answer host state.heap).part? field (state.after host [first]).heap = none) :
    first.Meets host state (field :: fields) [first] where
  first := rfl
  bound := by simp
  next k v other here among := by
    cases k with
    | zero =>
      cases here
      cases among
      exact none_.symm
    | succ k => cases here

/-- What is met along the other fields is met after the given value, if it begins with its part. -/
theorem Value.Meets.cons {part : Value}
    (found : (first.answer host state.heap).part? field (state.after host [first]).heap = some part)
    (later : part.Meets host (state.after host [first]) fields met) :
    first.Meets host state (field :: fields) (first :: met) where
  first := rfl
  bound := Nat.succ_le_succ later.bound
  next k v other here among := by
    cases k with
    | zero =>
      cases here
      cases among
      exact later.first.trans found.symm
    | succ k =>
      rw [List.take_succ_cons, List.take_succ_cons, state.after_cons host first (met.take k),
        state.after_cons host first (met.take (k + 1))]
      exact later.next k v other here among

/-- A path meets the value that it begins at. -/
theorem Value.Meets.exists_cons (meets : first.Meets host state fields met) :
    ∃ later, met = first :: later := by
  have begins := meets.first
  rw [← List.head?_eq_getElem?] at begins
  exact List.head?_eq_some_iff.mp begins

/-- The values after the first are what its part meets along the other fields; there are none if it
has no such part. -/
theorem Value.Meets.tail (meets : first.Meets host state (field :: fields) (first :: met)) :
    match (first.answer host state.heap).part? field (state.after host [first]).heap with
    | none => met = []
    | some part => part.Meets host (state.after host [first]) fields met := by
  have second : met[0]? =
      (first.answer host state.heap).part? field (state.after host [first]).heap :=
    meets.next 0 first field rfl rfl
  split
  · rename_i none_
    rw [none_, ← List.head?_eq_getElem?] at second
    exact List.head?_eq_none_iff.mp second
  · rename_i part found
    refine ⟨second.trans found, Nat.le_of_succ_le_succ meets.bound, fun k v other here among => ?_⟩
    have next := meets.next (k + 1) v other here among
    rwa [List.take_succ_cons, List.take_succ_cons, state.after_cons host first (met.take k),
      state.after_cons host first (met.take (k + 1))] at next

/-- Along every list of fields some values are met. -/
theorem Value.exists_meets (host : Host) (state : HostState) (first : Value)
    (fields : List String) : ∃ met, first.Meets host state fields met := by
  induction fields generalizing first state with
  | nil => exact ⟨[first], rfl, Nat.le_refl _, nofun⟩
  | cons field fields ih =>
    cases found : (first.answer host state.heap).part? field (state.after host [first]).heap with
    | none => exact ⟨[first], .stop found⟩
    | some part =>
      obtain ⟨met, later⟩ := ih (state.after host [first]) part
      exact ⟨first :: met, .cons found later⟩

/-- Following fields from a value that was settled leads to the state after all that is met. -/
theorem Value.Meets.follow_eq (meets : first.Meets host state fields met) :
    ((first.answer host state.heap).follow host fields (state.after host [first])).2 =
      state.after host met := by
  induction fields generalizing first state met with
  | nil =>
    obtain ⟨later, rfl⟩ := meets.exists_cons
    have alone : later = [] := List.eq_nil_of_length_eq_zero (by simpa using meets.bound)
    rw [alone]
    rfl
  | cons field fields ih =>
    obtain ⟨later, rfl⟩ := meets.exists_cons
    have rest := meets.tail
    rw [Value.follow]
    cases found : (first.answer host state.heap).part? field (state.after host [first]).heap with
    | none =>
      rw [found] at rest
      have alone : later = [] := rest
      rw [alone]
    | some part =>
      rw [found] at rest
      rw [state.after_cons host first later]
      dsimp only
      rw [part.settle_eq]
      exact ih rest

/-- What an operand meets tells what its evaluation does. -/
theorem Operand.Meets.eval_eq {context : Context} {operand : Operand}
    (meets : operand.Meets host context state met) :
    (operand.eval host context state).2 = state.after host met := by
  cases operand with
  | literal l =>
    cases meets
    rfl
  | path name fields =>
    rw [Operand.eval, Value.settle_eq]
    exact Value.Meets.follow_eq meets

/-- An operand meets some values. -/
theorem Operand.exists_meets (host : Host) (context : Context) (state : HostState)
    (operand : Operand) : ∃ met, operand.Meets host context state met := by
  cases operand with
  | literal l => exact ⟨[], rfl⟩
  | path name fields => exact Value.exists_meets host state (context.get name) fields

/-- Filters make no callable of what is none. -/
theorem Filter.kind_foldl (heap : Heap) (filters : List Filter) {v : Value}
    (settled : v.kind ≠ .function) :
    (filters.foldl (fun v f => f.apply heap v) v).kind ≠ .function := by
  induction filters generalizing v with
  | nil => exact settled
  | cons f filters ih => exact ih (f.kind_apply heap settled)

end Meeting

/-- No expression has a callable as its value. Its operand meets some values, and whatever values it
meets by `Operand.Meets`, evaluation invokes the callables among them, once for each time that one
is met, without arguments and in this order, and leaves the host's state as these leave it; the
journal tells these calls and nothing else. -/
theorem Expr.eval_invokes (host : Host) (context : Context) (state : HostState) (expr : Expr) :
    (expr.eval host context state).1.kind ≠ .function ∧
      (∃ met, expr.operand.Meets host context state met) ∧
      ∀ met, expr.operand.Meets host context state met →
        (expr.eval host context state).2 = state.after host met ∧
        (expr.eval host context state).2.journal =
          state.journal ++ ((met.filterMap Value.callable?).map Act.called).toArray := by
  refine ⟨?_, expr.operand.exists_meets host context state, fun met meets => ?_⟩
  · exact Filter.kind_foldl _ expr.filters (expr.operand.kind_eval host context state)
  · have final : (expr.eval host context state).2 = state.after host met := meets.eval_eq
    exact ⟨final, by rw [final, HostState.journal_after]⟩

/-- Of two callables in a list the one that a path leads to is invoked. -/
example : ((⟨.path "xs" ["1"], [.default (.text "none")]⟩ : Expr).eval .silent
    (Context.empty.set "xs" (.ofList ⟨0⟩))
    ⟨⟨#[#[.ofCallable ⟨7⟩, .ofCallable ⟨8⟩]], #[]⟩, #[]⟩).2.journal = #[.called ⟨8⟩] := by
  with_unfolding_all rfl

end TextTemplate

import TextTemplate.Proofs.Escaping.Meeting
import TextTemplate.Value.StockHost
/-!
# Callables that make nothing raw

Whatever a callable puts into lists and records may be met by a render. If it puts nothing raw where
nothing raw was, and the context leads to nothing raw at the start, then nothing raw is met
(`Context.Meets.tame`). The stock callables are of this kind if the values that they are given refer
to nothing and are not raw (`Host.cooked_stock`).
-/
namespace TextTemplate

/-- Whatever leads to nothing raw before a callable is invoked leads to nothing raw after. -/
def Host.Cooked (host : Host) : Prop :=
  ∀ ref heap v, heap.Tame v → (host.call ref [] heap).2.Tame v

section Cooked

variable {host : Host} {context : Context} {heap after : Heap} {v : Value} {acts : List Act}

/-- Acts of such a host make nothing raw. -/
theorem Host.Cooked.replay (cooked : host.Cooked) (tame : heap.Tame v) (acts : List Act) :
    (host.replay heap acts).Tame v := by
  induction acts generalizing heap with
  | nil => exact tame
  | cons act acts ih =>
    cases act with
    | called ref => exact ih (cooked ref heap v tame)
    | wrote level text => exact ih tame
    | created path content => exact ih tame

/-- If the bindings lead to nothing raw at the start and no callable makes anything raw, then what
is met leads to nothing raw. -/
theorem Context.Meets.tame (met : context.Meets host heap acts v) (cooked : host.Cooked)
    (start : ∀ scope ∈ context.scopes, ∀ name v, scope.get? name = some v → heap.Tame v) :
    (host.replay heap acts).Tame v := by
  induction met with
  | bound member found => exact start _ member _ _ found
  | part met part ih => exact Heap.Only.part ih part
  | later met more ih =>
    rw [Host.replay_append]
    exact cooked.replay ih more

/-- A change of the heap makes nothing raw that adds bare values alone. -/
theorem Heap.Tame.of_added (tame : heap.Tame v)
    (added : ∀ v w, after.Part v w → heap.Part v w ∨ w.Bare) : after.Tame v := by
  have reached : ∀ w, Relation.ReflTransGen after.Part v w →
      Relation.ReflTransGen heap.Part v w ∨ w.Bare := by
    intro w path
    induction path with
    | refl => exact .inl .refl
    | tail before part ih =>
      rcases ih with old | bare
      · rcases added _ _ part with same | new
        · exact .inl (old.tail same)
        · exact .inr new
      · cases part with
        | item ref refers _ => exact absurd refers (bare.list ref)
        | field ref name refers _ => exact absurd refers (bare.record ref)
  exact fun w path => (reached w path).elim (tame w) (·.raw)

/-- The items of a list after a change are those before, or what the change made of these. -/
theorem Heap.mem_items_modifyItems {ref other : ListRef} {change : Array Value → Array Value}
    {w : Value} (held : w ∈ (heap.modifyItems ref change).items other) :
    w ∈ heap.items other ∨ w ∈ change (heap.items other) := by
  simp only [Heap.items, Heap.modifyItems, Array.getElem?_modify] at held ⊢
  split at held
  · cases there : heap.lists[other.index]? with
    | none => simp [there] at held
    | some items => exact .inr (by simpa [there] using held)
  · exact .inl held

/-- A field of a record after one was set is one from before or the one that was set. -/
theorem Heap.get?_fields_setField {ref other : RecordRef} {name field : String} {w : Value}
    (bound : ((heap.setField ref name v).fields other).get? field = some w) :
    (heap.fields other).get? field = some w ∨ w = v := by
  simp only [Heap.fields, Heap.setField, Array.getElem?_modify] at bound ⊢
  split at bound
  · cases there : heap.records[other.index]? with
    | none => simp [there] at bound
    | some fields =>
      simp only [there, Option.map_some, Option.getD_some, Table.get?_insert] at bound ⊢
      split at bound
      · exact .inr (Option.some.inj bound).symm
      · exact .inl bound
  · exact .inl bound

/-- The values that a stock callable is given to put into a list or a record. -/
def StockCallable.given : StockCallable → List Value
  | .append _ v _ _ => [v]
  | .setField _ _ v _ => [v]
  | _ => []

/-- Setting a field to a bare value makes nothing raw. -/
theorem Heap.Tame.setField (tame : heap.Tame v) {w : Value} (bare : w.Bare) (ref : RecordRef)
    (name : String) : (heap.setField ref name w).Tame v := by
  refine tame.of_added fun holder part_ part => ?_
  cases part with
  | item list refers held => exact .inl (.item list refers held)
  | field record field refers bound =>
    rcases Heap.get?_fields_setField bound with old | rfl
    · exact .inl (.field record field refers old)
    · exact .inr bare

/-- A stock callable makes nothing raw if the values that it is given are bare. -/
theorem StockCallable.tame_call (callable : StockCallable) (bare : ∀ w ∈ callable.given, w.Bare)
    (tame : heap.Tame v) : (callable.call [] heap).2.Tame v := by
  cases callable with
  | constant text => exact tame
  | join text => exact tame
  | counter cell => exact tame.setField (Value.bare_ofWhole _) cell _
  | append list value limit text =>
    simp only [StockCallable.call]
    split
    · refine tame.of_added fun holder part_ part => ?_
      cases part with
      | item other refers held =>
        rcases Heap.mem_items_modifyItems held with old | new
        · exact .inl (.item other refers old)
        · rcases Array.mem_push.mp new with old | rfl
          · exact .inl (.item other refers old)
          · exact .inr (bare _ List.mem_cons_self)
      | field record field refers bound => exact .inl (.field record field refers bound)
    · exact tame
  | dropLast list text =>
    refine tame.of_added fun holder part_ part => ?_
    cases part with
    | item other refers held =>
      rcases Heap.mem_items_modifyItems held with old | new
      · exact .inl (.item other refers old)
      · have last : part_ ∈ (heap.items other).toList.dropLast := by
          rw [← Array.toList_pop]
          exact Array.mem_toList_iff.mpr new
        have old := Array.mem_toList_iff.mp (List.dropLast_subset _ last)
        exact .inl (.item other refers old)
    | field record field refers bound => exact .inl (.field record field refers bound)
  | setField ref field value text => exact tame.setField (bare _ List.mem_cons_self) ref field

/-- Stock callables make nothing raw if the values that they are given are bare. -/
theorem Host.cooked_stock {callables : Array StockCallable}
    (bare : ∀ callable ∈ callables, ∀ w ∈ callable.given, w.Bare) :
    (Host.stock callables).Cooked := by
  intro ref heap v tame
  unfold Host.stock
  dsimp only
  cases found : callables[ref.index]? with
  | none => exact tame
  | some callable =>
    exact callable.tame_call (bare callable (Array.mem_of_getElem? found)) tame

end Cooked

end TextTemplate

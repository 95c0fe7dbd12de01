import TextTemplate.Data.Json
import TextTemplate.Evaluation
import TextTemplate.Proofs.Data.Conversion
import TextTemplate.Proofs.Source.Printing
/-!
# Walks through documents

The fields of an object that was bound are reached by paths. A path goes through the values that
stand for the parts of a document as its segments go through the document itself: to a field by its
key, to an item by its position (`Document.Stands.follow_of_walk`), and nowhere where there is no
such part (`Document.Stands.follow_of_no_walk`). Main statement: a path of a template that begins
with a key of the object leads to what stands for the part that its segments lead to, or to the
absent value; any other path leads where it did before the object was bound
(`Bindings.eval_setFields`). So it need not be absent (`Bindings.eval_setFields_outside`).
-/
namespace TextTemplate

open Source

namespace Document

/-- A segment leads from a document to a part of it: by its key to a field of an object, and by its
position, in digits, to an item of an array. -/
inductive Step : Document → String → Document → Prop
  | field {fields : List (String × Document)} {key : String} {d : Document}
    (bound : field? fields key = some d) : Step (.object fields) key d
  | item {items : List Document} {i : Nat} {d : Document} (inside : items[i]? = some d) :
    Step (.array items) (toString i) d

/-- The segments of a path lead, one after the other, from a document to a part of it. -/
inductive Walk : Document → List String → Document → Prop
  | here (d : Document) : Walk d [] d
  | step {d inner last : Document} {segment : String} {segments : List String}
    (first : Step d segment inner) (later : Walk inner segments last) :
    Walk d (segment :: segments) last

end Document

/-! ### Positions -/

section Positions

/-- The digits of a number read as the number. -/
theorem natOfDigits?_toString (i : Nat) : Text.natOfDigits? (toString i).toList = some i := by
  have digits : (toString i).toList = Nat.toDigits 10 i := Nat.toList_repr
  rw [digits, natOfDigits?_of_isDigits (isDigits_toDigits i), Nat.ofDigitChars_ten_toDigits]

/-- A field that a template can write reads as a position exactly if it is one in digits. -/
theorem natOfDigits?_eq_some_iff {field : String} (writable : FieldWritable field) {i : Nat} :
    Text.natOfDigits? field.toList = some i ↔ field = toString i := by
  constructor
  · intro read
    rcases writable with named | ⟨n, natural, rfl⟩
    · obtain ⟨run, -⟩ := isDigits_of_natOfDigits? read
      cases shape : field.toList with
      | nil => exact absurd shape run.nonempty
      | cons c rest =>
        rw [shape] at named run
        cases named with
        | intro start parts =>
          have digit := run.digits c List.mem_cons_self
          have whole : isWholeStart c = true := by simp [isWholeStart, digit]
          rw [isNameStart_of_isWholeStart whole] at start
          cases start
    · obtain ⟨k, whole⟩ := Int.eq_ofNat_of_zero_le natural
      have text : Text.writeWhole n = toString k := by
        rw [Text.writeWhole, whole]
        rfl
      rw [text, natOfDigits?_toString] at read
      rw [text, Option.some.inj read]
  · rintro rfl
    exact natOfDigits?_toString i

end Positions

/-! ### Values -/

namespace Document

variable {heap : Heap} {v : Value} {d inner last : Document} {host : Host} {state : HostState}
  {segment : String} {segments : List String}

/-- No callable stands for a document, so nothing is invoked on a walk. -/
theorem Stands.settle [JsonLibrary] (stands : Stands heap v d) :
    v.settle host state = (v, state) := by
  cases stands <;> rfl

/-- A number that is no whole number in range is the text that the library writes for it. -/
theorem Stands.eq_ofText [JsonLibrary] {n : Number} (stands : Stands heap v (.number n))
    (other : n.whole? = none) : v = .ofText (JsonLibrary.writeNumber n) := by
  cases stands with
  | whole k => cases other.symm.trans (Number.whole?_eq_some_iff.mpr rfl)
  | number other => rfl

/-- A segment finds in a value what stands for the part that it leads to. -/
theorem Stands.part_of_step [JsonLibrary] (stands : Stands heap v d) (step : Step d segment inner) :
    ∃ part, v.part? segment heap = some part ∧ Stands heap part inner := by
  cases step with
  | field bound =>
    cases stands with
    | @object ref _ inside named unbound => exact ⟨heap.field ref segment, rfl, named _ _ bound⟩
  | @item items i _ here =>
    cases stands with
    | @array ref _ inside count each =>
      refine ⟨heap.item ref i, ?_, each i _ here⟩
      simp only [Value.part?, Value.ofList, natOfDigits?_toString]

/-- A position past its last item leads nowhere in an array. -/
theorem not_step_of_length_le {items : List Document} {i : Nat} (beyond : items.length ≤ i) :
    ¬ Step (.array items) (toString i) inner := by
  intro step
  generalize position : toString i = segment at step
  cases step with
  | @item _ k _ inside =>
    have same : some i = some k := by
      rw [← natOfDigits?_toString i, position, natOfDigits?_toString]
    obtain rfl := Option.some.inj same
    rw [List.getElem?_eq_none beyond] at inside
    cases inside

/-- A segment that leads to no part of a document finds nothing in the value. -/
theorem Stands.part_of_no_step [JsonLibrary] (stands : Stands heap v d)
    (writable : FieldWritable segment) (none_ : ∀ inner, ¬ Step d segment inner) :
    v.part? segment heap = none ∨ v.part? segment heap = some .absent := by
  cases stands with
  | @array ref items inside count each =>
    refine .inr ?_
    simp only [Value.part?, Value.ofList]
    cases read : Text.natOfDigits? segment.toList with
    | none => rfl
    | some i =>
      obtain rfl := (natOfDigits?_eq_some_iff writable).mp read
      have beyond : items.length ≤ i := by
        refine List.getElem?_eq_none_iff.mp (Option.eq_none_iff_forall_not_mem.mpr ?_)
        exact fun item here => none_ item (.item here)
      rw [← count] at beyond
      have outside : heap.item ref i = .absent := by
        rw [Heap.item, Array.getElem?_eq_none beyond]
        rfl
      exact congrArg some outside
  | @object ref fields inside bound unbound =>
    refine .inr (congrArg some (unbound segment ?_))
    exact Option.eq_none_iff_forall_not_mem.mpr fun item here => none_ item (.field here)
  | _ => exact .inl rfl

/-- No path leads anywhere from the absent value. -/
theorem follow_absent (segments : List String) :
    Value.absent.follow host segments state = (.absent, state) := by
  cases segments <;> rfl

/-- A path leads in a value to what stands for the part of the document that it leads to. -/
theorem Stands.follow_of_walk [JsonLibrary] (stands : Stands state.heap v d)
    (walk : Walk d segments last) :
    ∃ w, v.follow host segments state = (w, state) ∧ Stands state.heap w last := by
  induction walk generalizing v with
  | here d => exact ⟨v, rfl, stands⟩
  | step first later ih =>
    obtain ⟨part, found, inside⟩ := stands.part_of_step first
    obtain ⟨w, followed, reached⟩ := ih inside
    refine ⟨w, ?_, reached⟩
    rw [Value.follow, found]
    dsimp only
    rw [inside.settle]
    exact followed

/-- A path that leads to no part of the document leads nowhere in the value. -/
theorem Stands.follow_of_no_walk [JsonLibrary] (stands : Stands state.heap v d)
    (writable : ∀ segment ∈ segments, FieldWritable segment)
    (none_ : ∀ last, ¬ Walk d segments last) :
    v.follow host segments state = (.absent, state) := by
  induction segments generalizing v d with
  | nil => exact absurd (.here d) (none_ d)
  | cons segment segments ih =>
    have here := writable segment List.mem_cons_self
    have rest := fun s member => writable s (List.mem_cons_of_mem _ member)
    rw [Value.follow]
    by_cases leads : ∃ inner, Step d segment inner
    · obtain ⟨inner, step⟩ := leads
      obtain ⟨part, found, inside⟩ := stands.part_of_step step
      rw [found]
      dsimp only
      rw [inside.settle]
      exact ih inside rest fun last walk => none_ last (.step step walk)
    · rcases stands.part_of_no_step here (not_exists.mp leads) with found | found
      · rw [found]
      · rw [found]
        exact follow_absent segments

end Document

/-! ### Bindings -/

namespace Context

/-- The contexts differ in their innermost scope at most. -/
structure SameAround (later context : Context) : Prop where
  /-- The scopes around the innermost one are the same. -/
  outer : later.outer = context.outer
  /-- Created files go to the same directory. -/
  outputDir : later.outputDir = context.outputDir
  /-- Values are escaped alike. -/
  escaper : later.escaper = context.escaper

variable {context middle later : Context}

/-- A context differs nowhere from itself. -/
theorem SameAround.refl (context : Context) : context.SameAround context := ⟨rfl, rfl, rfl⟩

/-- Two changes of the innermost scope are one. -/
theorem SameAround.trans (last : later.SameAround middle) (first : middle.SameAround context) :
    later.SameAround context where
  outer := last.outer.trans first.outer
  outputDir := last.outputDir.trans first.outputDir
  escaper := last.escaper.trans first.escaper

/-- To bind a name changes the innermost scope. -/
theorem sameAround_set (context : Context) (name : String) (v : Value) :
    (context.set name v).SameAround context := ⟨rfl, rfl, rfl⟩

end Context

namespace Bindings

variable {b : Bindings} {fields : List (String × Document)} {name : String}

/-- What binding the fields of an object does to a context and its heap. -/
structure Binds [JsonLibrary] (b : Bindings) (fields : List (String × Document))
    (after : Bindings) : Prop where
  /-- Every list and record is kept. -/
  grows : b.heap.Grows after.heap
  /-- The value of a field is bound to its name, and all that it refers to is kept. -/
  converted : ∀ name d, Document.field? fields name = some d → ∃ heap : Heap,
    after.context.get? name = some (d.toValue heap).1 ∧ (d.toValue heap).2.Grows after.heap
  /-- A name that no field has means what it meant. -/
  others : ∀ name, Document.field? fields name = none →
    after.context.get? name = b.context.get? name

/-- What is bound to the name of a field stands for the field. -/
theorem Binds.bound [JsonLibrary] {after : Bindings} (binds : b.Binds fields after)
    (name : String) (d : Document) (here : Document.field? fields name = some d) :
    ∃ v, after.context.get? name = some v ∧ Document.Stands after.heap v d := by
  obtain ⟨heap, found, kept⟩ := binds.converted name d here
  exact ⟨_, found, (d.toValue_stands heap).2.mono kept⟩

/-- The last field counts for its key, and the others are as they were. -/
theorem field?_concat (fields : List (String × Document)) (key name : String) (d : Document) :
    Document.field? (fields ++ [(key, d)]) name =
      if key = name then some d else Document.field? fields name := by
  simp [Document.field?, Table.ofList]

/-- To bind the fields of an object does so. -/
theorem binds_setFields [JsonLibrary] (b : Bindings) (fields : List (String × Document)) :
    b.Binds fields (b.setFields fields) := by
  induction fields using List.reverseRecOn with
  | nil => exact ⟨.refl _, nofun, fun _ _ => rfl⟩
  | append_singleton fields field ih =>
    obtain ⟨key, d⟩ := field
    have after : b.setFields (fields ++ [(key, d)]) = (b.setFields fields).setDocument key d := by
      simp [setFields]
    rw [after]
    have grows := (Document.toValue_stands d (b.setFields fields).heap).1
    have get? : ∀ name, ((b.setFields fields).setDocument key d).context.get? name =
        if key = name then some (d.toValue (b.setFields fields).heap).1
        else (b.setFields fields).context.get? name := fun name =>
      Context.get?_set _ key name _
    refine ⟨ih.grows.trans grows, fun name item here => ?_, fun name none_ => ?_⟩
    · rw [get? name]
      rw [field?_concat] at here
      split at here
      · rename_i same
        cases here
        exact ⟨_, if_pos same, .refl _⟩
      · rename_i other
        obtain ⟨heap, found, kept⟩ := ih.converted name item here
        exact ⟨heap, by rw [if_neg other, found], kept.trans grows⟩
    · rw [get? name]
      rw [field?_concat] at none_
      split at none_
      · cases none_
      · rename_i other
        rw [if_neg other]
        exact ih.others name none_

/-- To bind the fields of an object changes the innermost scope only. -/
theorem sameAround_setFields [JsonLibrary] (b : Bindings) (fields : List (String × Document)) :
    (b.setFields fields).context.SameAround b.context := by
  induction fields generalizing b with
  | nil => exact .refl _
  | cons field fields ih =>
    exact (ih (b.setDocument field.1 field.2)).trans (Context.sameAround_set _ _ _)

/-- After an object was bound, a path of a template that begins with one of its keys leads to what
stands for the part of the object that the path leads to, and it is absent if there is none; every
other path leads where it led before. The value that a document is converted to stands for it. -/
theorem eval_setFields [JsonLibrary] (b : Bindings) (fields : List (String × Document))
    (name : String) (path : List String) (writable : (Operand.path name path).Writable)
    (host : Host) (state : HostState) (held : (b.setFields fields).heap.Grows state.heap) :
    (∀ d, Document.field? fields name = some d →
      (∀ last, Document.Walk d path last → ∃ v,
        (Operand.path name path).eval host (b.setFields fields).context state = (v, state) ∧
        Document.Stands state.heap v last) ∧
      ((∀ last, ¬ Document.Walk d path last) →
        (Operand.path name path).eval host (b.setFields fields).context state =
          (.absent, state))) ∧
    (Document.field? fields name = none →
      (Operand.path name path).eval host (b.setFields fields).context state =
        (Operand.path name path).eval host b.context state) ∧
    ∀ (d : Document) (heap : Heap), Document.Stands (d.toValue heap).2 (d.toValue heap).1 d := by
  have binds := b.binds_setFields fields
  refine ⟨fun d here => ?_, fun none_ => ?_, fun d heap => (d.toValue_stands heap).2⟩
  · obtain ⟨v, found, stands⟩ := binds.bound name d here
    have standing := stands.mono held
    have eval : (Operand.path name path).eval host (b.setFields fields).context state =
        v.follow host path state := by
      have get : (b.setFields fields).context.get name = v := by simp [Context.get, found]
      rw [Operand.eval, get, stands.settle]
    rw [eval]
    exact ⟨fun last walk => standing.follow_of_walk walk, standing.follow_of_no_walk writable.2⟩
  · have get : (b.setFields fields).context.get name = b.context.get name := by
      simp [Context.get, binds.others name none_]
    simp [Operand.eval, get]

/-- The fields of an object with an array in an object, in which a key is a number. -/
def catalogue : List (String × Document) :=
  [("page", .object [("0", .text "x"), ("items", .array [.array [.null],
    .object [("7", .number (.integer 0xFFFFFFFFFFFFFFFF))]])])]

/-- A context in which the key means something else, in an inner scope as well as around it. -/
def crowded : Bindings :=
  ⟨((Context.set ∅ "page" (.ofWhole 1)).push.set "page" (.ofList ⟨0⟩)).push, ⟨#[#[]], #[]⟩⟩

/-- A path with a position and a number for a key leads to a number beyond the whole numbers, and
one past the end of the array leads nowhere. -/
theorem eval_setFields_catalogue :
    (∃ v, (Operand.path "page" ["items", "1", "7"]).eval .silent
        (crowded.setFields catalogue).context ⟨(crowded.setFields catalogue).heap, #[]⟩ =
          (v, ⟨(crowded.setFields catalogue).heap, #[]⟩) ∧
      v.text = "18446744073709551615") ∧
    (Operand.path "page" ["items", "2"]).eval .silent (crowded.setFields catalogue).context
        ⟨(crowded.setFields catalogue).heap, #[]⟩ =
      (.absent, ⟨(crowded.setFields catalogue).heap, #[]⟩) := by
  have item : FieldWritable "1" := .inr ⟨1, by decide, rfl⟩
  have past : FieldWritable "2" := .inr ⟨2, by decide, rfl⟩
  have key : FieldWritable "7" := .inr ⟨7, by decide, rfl⟩
  have named : IsName "page".toList ∧ FieldWritable "items" :=
    ⟨by decide +kernel, .inl (by decide +kernel)⟩
  constructor
  · have law := (eval_setFields crowded catalogue "page" ["items", toString 1, "7"]
      ⟨named.1, by simpa using ⟨named.2, item, key⟩⟩ .silent
      ⟨(crowded.setFields catalogue).heap, #[]⟩ (.refl _)).1 _ rfl
    obtain ⟨v, value, stands⟩ := law.1 _
      (.step (.field rfl) (.step (.item rfl) (.step (.field rfl) (.here _))))
    exact ⟨v, value, congrArg Value.text (stands.eq_ofText rfl)⟩
  · have law := (eval_setFields crowded catalogue "page" ["items", toString 2]
      ⟨named.1, by simpa using ⟨named.2, past⟩⟩ .silent
      ⟨(crowded.setFields catalogue).heap, #[]⟩ (.refl _)).1 _ rfl
    refine law.2 fun last walk => ?_
    cases walk with
    | step first later =>
      cases first with
      | field bound =>
        cases bound
        cases later with
        | step second later => exact Document.not_step_of_length_le (by decide) second

/-- An object without the key binds nothing under it: the path leads where it led before, and that
need not be nowhere. -/
theorem eval_setFields_outside :
    Document.field? [("b", .number (.integer 2))] "a" = none ∧
    ((Operand.path "a" []).eval .silent
      (setFields ⟨Context.set ∅ "a" (.ofWhole 1), ∅⟩ [("b", .number (.integer 2))]).context
      .empty).1 = .ofWhole 1 ∧ Value.ofWhole 1 ≠ .absent :=
  ⟨rfl, rfl, by decide⟩

end Bindings

end TextTemplate

import TextTemplate.Proofs.Render.Completion
/-!
# Comparing two renders

A render often has to do the same as another that starts from a machine in which less is going on:
fewer templates are being rendered, other blocks override. Then it may only be stopped earlier, by
one of the two guards against templates that nest without end. `Paired` says what two machines have
in common, `Together` that two renders did the same on their way, and `Relates` that two renders do
the same from paired machines: if the first is done so is the second, and conversely unless a guard
stops the first.

The second library may know templates under hidden names, which the first does not know. On the
second side they are being rendered, so meeting one of them ends that render; a first render that
comes to know such a name is not compared any further.
-/
namespace TextTemplate

/-- Whether an error is that of a guard against templates that nest without end. -/
def RenderError.IsGuard : RenderError → Prop
  | .cycle _ => True
  | .tooDeep _ _ => True
  | _ => False

/-- The refusal of a template inside itself comes from a guard. -/
theorem RenderError.isGuard_cycle (chain : List String) : (cycle chain).IsGuard := trivial

/-- The refusal of a template too deep inside others comes from a guard. -/
theorem RenderError.isGuard_tooDeep (limit : Nat) (name : String) : (tooDeep limit name).IsGuard :=
  trivial

/-- Many texts more. -/
def Output.append (output : Output) (texts : List String) : Output := texts.foldl Output.push output

/-- The texts come at the end. -/
theorem Output.texts_append (output : Output) (texts : List String) :
    (output.append texts).texts = output.texts ++ texts.toArray := by
  induction texts generalizing output with
  | nil => simp [Output.append]
  | cons text texts ih =>
    have rest := ih (output.push text)
    unfold Output.append at rest ⊢
    rw [List.foldl_cons, rest]
    simp

/-- Nothing but the texts is in an output that they are written to. -/
theorem Output.toList_texts_append (texts : List String) :
    ((∅ : Output).append texts).texts.toList = texts := by
  rw [Output.texts_append]
  simp [EmptyCollection.emptyCollection, Output.empty]

/-- Texts that are written in two parts are written as one list. -/
theorem Output.append_append (output : Output) (front back : List String) :
    (output.append front).append back = output.append (front ++ back) := by
  simp [Output.append]

/-- The text of what was written follows on the text that was written before. -/
theorem Output.text_append (output : Output) (texts : List String) :
    (output.append texts).text = output.text ++ String.join texts := by
  rw [Output.text, Output.texts_append, Array.toList_append, String.join_append]
  rfl

/-- The bytes of the texts are added to the size. -/
theorem Output.size_append (output : Output) (texts : List String) :
    (output.append texts).size = output.size + (String.join texts).utf8ByteSize := by
  induction texts generalizing output with
  | nil => simp [Output.append]
  | cons text texts ih =>
    have later := ih (output.push text)
    have first : (output.push text).size = output.size + text.utf8ByteSize := rfl
    have whole : output.append (text :: texts) = (output.push text).append texts := rfl
    rw [whole, later, first, String.join_cons, String.utf8ByteSize_append, Nat.add_assoc]

/-- The length of what was written is that of its text. -/
theorem Output.utf8ByteSize_text (output : Output) : output.text.utf8ByteSize = output.size := by
  have again : (append ∅ output.texts.toList).size = output.size := by
    rw [Output.size_eq, output.size_eq, Output.texts_append]
    congr 1
    exact Array.empty_append
  rw [← again, Output.size_append]
  exact (Nat.zero_add _).symm

namespace Sink

/-- The sink after it took texts. -/
def writeAll (sink : Sink) (texts : List String) : Sink :=
  { sink with written := sink.written.append texts }

/-- A sink may get its texts in two parts. -/
theorem writeAll_writeAll (sink : Sink) (front back : List String) :
    (sink.writeAll front).writeAll back = sink.writeAll (front ++ back) := by
  simp [writeAll, Output.append_append]

/-- Two sinks of one level that take the same texts from here on. -/
structure Alike (left right : Sink) : Prop where
  /-- Both stand at one nesting of captures. -/
  level : left.level = right.level
  /-- After the same texts each accepts what the other accepts. -/
  accepts : ∀ texts text, left.accepts (left.written.append texts) text =
    right.accepts (right.written.append texts) text

/-- A sink is like itself. -/
theorem Alike.refl (sink : Sink) : sink.Alike sink := ⟨rfl, fun _ _ => rfl⟩

/-- Sinks that are alike stay so when both get the same texts. -/
theorem Alike.writeAll {left right : Sink} (alike : left.Alike right) (texts : List String) :
    (left.writeAll texts).Alike (right.writeAll texts) where
  level := alike.level
  accepts later text := by
    have same := alike.accepts (texts ++ later) text
    rwa [← Output.append_append, ← Output.append_append] at same

end Sink

/-- The same was added at the end of two arrays. -/
def Alongside {α : Type} (left right left' right' : Array α) : Prop :=
  ∃ added, left' = left ++ added ∧ right' = right ++ added

namespace Alongside

variable {α : Type} {left right left' right' left'' right'' : Array α}

/-- Nothing was added to either. -/
theorem refl (left right : Array α) : Alongside left right left right := ⟨#[], by simp⟩

/-- One element was added to both. -/
theorem push (left right : Array α) (last : α) :
    Alongside left right (left.push last) (right.push last) := ⟨#[last], by simp⟩

/-- Two additions make one. -/
theorem trans (first : Alongside left right left' right')
    (second : Alongside left' right' left'' right'') : Alongside left right left'' right'' := by
  obtain ⟨early, rfl, rfl⟩ := first
  obtain ⟨late, rfl, rfl⟩ := second
  exact ⟨early ++ late, by simp, by simp⟩

end Alongside

/-- What is compared of two renders, and what may differ. -/
structure Comparison where
  /-- The names that only the second library knows. -/
  hidden : List String
  /-- How the heaps are related. -/
  heaps : Heap → Heap → Prop
  /-- How the overriding templates are related. -/
  chains : List Template → List Template → Prop
  /-- Whether the outcomes of created files are compared as well. -/
  outcomes : Prop

/-- The comparison of renders with one heap and one chain. -/
def Comparison.level (c : Comparison) : Comparison := { c with heaps := Eq, chains := Eq }

/-- What two machines have in common from which renders are compared. -/
structure Paired (c : Comparison) (m n : Machine) : Prop where
  /-- The heaps are related as the comparison has it. -/
  heap : c.heaps m.host.heap n.host.heap
  /-- The overriding templates are related as the comparison has it. -/
  chain : c.chains m.chain n.chain
  /-- The files are the same. -/
  files : m.files = n.files
  /-- The contexts are the same. -/
  context : m.context = n.context
  /-- The sinks accept the same. -/
  sink : m.sink.Alike n.sink
  /-- The first library knows what the second knows, less the hidden names. -/
  library : m.library.entries = n.library.entries.filter fun entry => entry.1 ∉ c.hidden
  /-- The second library knows each hidden name, by a template of that name. -/
  hidden : ∀ name ∈ c.hidden, ∃ t, n.library.get? name = some t ∧ t.name = name
  /-- A template of a hidden name can be known under a hidden name only. -/
  keyed : ∀ name t, m.library.get? name = some t → t.name ∈ c.hidden → name ∈ c.hidden
  /-- On the second side no more templates are being rendered. -/
  depth : n.active.length ≤ m.active.length
  /-- What is being rendered on the second side is so on the first, or is hidden. -/
  active : ∀ name ∈ n.active, name ∈ m.active ∨ name ∈ c.hidden
  /-- The hidden templates are being rendered on the second side. -/
  entered : ∀ name ∈ c.hidden, name ∈ n.active

/-- Where heaps are compared as they are, there is one for both machines. -/
theorem Paired.heap_eq {c : Comparison} {m n : Machine} (paired : Paired c m n)
    (one : c.heaps = Eq) : m.host.heap = n.host.heap := by
  have related := paired.heap
  rwa [one] at related

/-- Names that are not hidden mean the same in both libraries. -/
theorem Paired.get? {c : Comparison} {m n : Machine} (paired : Paired c m n) {name : String}
    (visible : name ∉ c.hidden) : m.library.get? name = n.library.get? name := by
  unfold Table.get?
  rw [paired.library]
  exact Table.find_filter (fun name => name ∉ c.hidden) (decide_eq_true visible) _

/-- Both libraries may come to know a template under a name that is not hidden. -/
theorem Paired.insert {c : Comparison} {m n : Machine} (paired : Paired c m n) {key : String}
    {t : Template} (unknown : m.library.get? key = none) (named : t.name = key)
    (visible : key ∉ c.hidden) :
    Paired c { m with library := m.library.insert key t }
      { n with library := n.library.insert key t } :=
  { paired with
    library := by
      have other : n.library.get? key = none := (paired.get? visible).symm.trans unknown
      rw [Table.entries_insert_of_get?_eq_none t unknown,
        Table.entries_insert_of_get?_eq_none t other, List.filter_append, paired.library]
      simp [visible]
    hidden := fun name inside => by
      have other : key ≠ name := fun same => visible (same ▸ inside)
      rw [Table.get?_insert, if_neg other]
      exact paired.hidden name inside
    keyed := fun name found known inside => by
      rw [Table.get?_insert] at known
      split at known
      · cases known
        exact absurd (named ▸ inside) visible
      · exact paired.keyed name found known inside }

/-- Two renders did the same on their way from `m` and `n` to `m'` and `n'`. -/
structure Together (c : Comparison) (m n m' n' : Machine) : Prop where
  /-- Both wrote the same texts. -/
  texts : ∃ texts, m'.sink = m.sink.writeAll texts ∧ n'.sink = n.sink.writeAll texts
  /-- Both called the same callables. -/
  journal : Alongside m.host.journal n.host.journal m'.host.journal n'.host.journal
  /-- Both created the same files with the same outcomes, where that is compared. -/
  outcomes : c.outcomes → Alongside m.outcomes n.outcomes m'.outcomes n'.outcomes

/-- Two renders that did nothing did the same. -/
theorem Together.refl (c : Comparison) (m n : Machine) : Together c m n m n where
  texts := ⟨[], rfl, rfl⟩
  journal := .refl _ _
  outcomes _ := .refl _ _

/-- Renders that did the same twice did the same. -/
theorem Together.trans {c : Comparison} {m n m' n' m'' n'' : Machine}
    (first : Together c m n m' n') (second : Together c m' n' m'' n'') :
    Together c m n m'' n'' where
  texts := by
    obtain ⟨early, left, right⟩ := first.texts
    obtain ⟨late, left', right'⟩ := second.texts
    refine ⟨early ++ late, ?_, ?_⟩
    · rw [left', left, Sink.writeAll_writeAll]
    · rw [right', right, Sink.writeAll_writeAll]
  journal := first.journal.trans second.journal
  outcomes compared := (first.outcomes compared).trans (second.outcomes compared)

/-- A machine that knows a template of a hidden name. -/
def Machine.Knows (hidden : List String) (m : Machine) : Prop :=
  ∃ name ∈ hidden, ∃ t, m.library.get? name = some t

/-- Two endings match: if the first is done so is the second, unless the first machine knows a
hidden name, and conversely unless a guard stopped the first. -/
structure Ending.Matches {α : Type} (hidden : List String) (post : Machine → Machine → Prop)
    (left right : Ending α) : Prop where
  /-- If the first is done, then it came to know a hidden name or the second is done as well. -/
  forth : ∀ v m, left = .done v m →
    m.Knows hidden ∨ ∃ n, right = .done v n ∧ post m n
  /-- If the second is done, then the first is done as well or a guard stopped it. -/
  back : ∀ v n, right = .done v n →
    (∃ m, left = .done v m ∧ post m n) ∨ ∃ error m, left = .failed error m ∧ error.IsGuard

namespace Ending.Matches

variable {α : Type} {hidden : List String} {post post' : Machine → Machine → Prop}

/-- Two renders are done with the same value. -/
theorem done {m n : Machine} (v : α) (holds : post m n) :
    Matches hidden post (.done v m) (.done v n) where
  forth _ _ same := by
    cases same
    exact .inr ⟨n, rfl, holds⟩
  back _ _ same := by
    cases same
    exact .inl ⟨m, rfl, holds⟩

/-- Two renders fail with the same error. -/
theorem failed (error : RenderError) (m n : Machine) :
    Matches hidden post (.failed error m : Ending α) (.failed error n) where
  forth _ _ same := by cases same
  back _ _ same := by cases same

/-- A render that a guard stops is compared with anything. -/
theorem guarded {error : RenderError} (guard : error.IsGuard) (m : Machine) (right : Ending α) :
    Matches hidden post (.failed error m) right where
  forth _ _ same := by cases same
  back _ _ _ := .inr ⟨error, m, rfl, guard⟩

/-- Two renders run out of fuel. -/
theorem starved : Matches hidden post (.outOfFuel : Ending α) .outOfFuel where
  forth _ _ same := by cases same
  back _ _ same := by cases same

/-- Of two renders that match, a weaker relation holds as well. -/
theorem mono {left right : Ending α} (holds : Matches hidden post left right)
    (weaker : ∀ m n, post m n → post' m n) : Matches hidden post' left right where
  forth v m same := (holds.forth v m same).imp id fun ⟨n, done, here⟩ => ⟨n, done, weaker m n here⟩
  back v n same := (holds.back v n same).imp (fun ⟨m, done, here⟩ => ⟨m, done, weaker m n here⟩) id

end Ending.Matches

end TextTemplate

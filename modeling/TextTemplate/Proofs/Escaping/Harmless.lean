import TextTemplate.Proofs.Escaping.Escaped
import TextTemplate.Proofs.Template.Tree
import Mathlib.Logic.Relation
/-!
# Where nothing harmful can come from

The escaper passes over raw values. A value is raw if it was flagged so, or because it is a literal
of a template. So two things have to be asked for: that the texts and literals of the templates have
no characters of markup, and that no value which the context leads to is raw. Then every value of an
expression of these templates is shown as an escaped text (`escaped_shown`, `plainIfRaw_eval`).
-/
namespace TextTemplate

/-! ### Templates -/

/-- The text of a literal. -/
def Literal.strings : Literal → List String
  | .text s => [s]
  | .whole _ => []

/-- The text of the argument of a filter. -/
def Filter.strings : Filter → List String
  | .default fallback => fallback.strings
  | .length => []
  | .add term => term.strings

/-- The text of a literal operand. -/
def Operand.strings : Operand → List String
  | .literal l => l.strings
  | .path _ _ => []

/-- The texts of the literals of an expression. -/
def Expr.strings (expr : Expr) : List String :=
  expr.operand.strings ++ expr.filters.flatMap Filter.strings

namespace Node

/-- The texts that a node itself holds: that of a text node, or those of literals. -/
def strings : Node → List String
  | .text s => [s]
  | .variable expr => expr.strings
  | .forEach _ list _ _ _ => list.strings
  | .condition test _ _ _ => test.strings
  | .block _ _ => []
  | .inherits parent => parent.strings
  | .includes template => template.strings
  | .creates file template _ => file.strings ++ template.strings

/-- No text in the forest, at any depth, has a character of markup. -/
def PlainIn (forest : List Node) : Prop := ∀ node ∈ allIn forest, ∀ s ∈ node.strings, Text.Plain s

instance (forest : List Node) : Decidable (PlainIn forest) :=
  inferInstanceAs (Decidable (∀ node ∈ allIn forest, ∀ s ∈ node.strings, Text.Plain s))

variable {forest body : List Node} {node : Node}

/-- The texts of a node of a plain forest are plain. -/
theorem PlainIn.strings (plain : PlainIn forest) (member : node ∈ forest) :
    ∀ s ∈ node.strings, Text.Plain s :=
  plain node (mem_allIn_of_mem member)

/-- What a node of a plain forest holds is plain. -/
theorem PlainIn.inner (plain : PlainIn forest) (member : node ∈ forest)
    (held : body ∈ node.bodies) : PlainIn body :=
  fun inner inside => plain inner (allIn_subset_of_mem member held inside)

end Node

/-- No text and no literal of the template has a character of markup, in its nodes or in what may
stand in the place of a block. -/
structure Template.Plain (t : Template) : Prop where
  /-- The texts of the tree are plain. -/
  nodes : Node.PlainIn t.nodes
  /-- The texts of every block in the table are plain. -/
  body : ∀ name body, t.blocks.get? name = some body → Node.PlainIn body

/-- In a template that was read, the bodies of blocks are among its nodes. -/
theorem Template.Regular.plain {t : Template} (regular : t.Regular) (nodes : Node.PlainIn t.nodes) :
    t.Plain where
  nodes := nodes
  body _ _ bound := fun node inside => nodes node (regular.allIn_body_subset bound inside)

/-- All templates of the library are plain. -/
def Library.Plain (library : Library) : Prop := ∀ key t, library.get? key = some t → t.Plain

/-! ### Values -/

/-- An item of the list, or a field of the record, that a value refers to. -/
inductive Heap.Part (heap : Heap) (v w : Value) : Prop
  | item (ref : ListRef) (refers : v.payload = .list ref) (held : w ∈ heap.items ref)
  | field (ref : RecordRef) (name : String) (refers : v.payload = .record ref)
    (bound : (heap.fields ref).get? name = some w)

/-- The value has the property, and so has all that it leads to through items and fields. -/
def Heap.Only (P : Value → Prop) (heap : Heap) (v : Value) : Prop :=
  ∀ w, Relation.ReflTransGen heap.Part v w → P w

namespace Heap

variable {P : Value → Prop} {heap : Heap} {v w : Value}

/-- What holds wherever a value leads holds of the value. -/
theorem Only.here (only : heap.Only P v) : P v := only v .refl

/-- What holds wherever a value leads holds wherever its parts lead. -/
theorem Only.part (only : heap.Only P v) (part : heap.Part v w) : heap.Only P w :=
  fun _ reached => only _ (.head part reached)

/-- A value that refers to nothing leads to nothing else. -/
theorem only_of_flat (list : ∀ ref, v.payload ≠ .list ref)
    (record : ∀ ref, v.payload ≠ .record ref) (here : P v) : heap.Only P v := by
  intro w reached
  rcases Relation.ReflTransGen.cases_head reached with rfl | ⟨held, part, -⟩
  · exact here
  · cases part with
    | item ref refers _ => exact absurd refers (list ref)
    | field ref name refers _ => exact absurd refers (record ref)

/-- The absent value leads nowhere else. -/
theorem only_absent (absent : P .absent) : heap.Only P .absent := only_of_flat nofun nofun absent

/-- What a field of a loop's standing is leads nowhere else. -/
theorem only_field (info : LoopInfo) (name : String) (here : P (info.field name)) :
    heap.Only P (info.field name) := by
  refine only_of_flat ?_ ?_ here
  all_goals
    unfold LoopInfo.field
    split <;> exact nofun

/-- What a path finds in a value is something that the value leads to, or an absent value, or tells
where a loop stands. -/
theorem Only.part? (only : heap.Only P v) (absent : P .absent)
    (loop : ∀ info name, P (LoopInfo.field info name)) {field : String}
    (found : v.part? field heap = some w) : heap.Only P w := by
  unfold Value.part? at found
  split at found
  · rename_i ref refers
    cases found
    unfold Heap.field
    cases bound : (heap.fields ref).get? field with
    | none => exact only_absent absent
    | some held => exact only.part (.field ref field refers bound)
  · rename_i info _
    cases found
    exact only_field info field (loop info field)
  · rename_i ref refers
    cases found
    split
    · rename_i position _
      unfold Heap.item
      cases at_ : (heap.items ref)[position]? with
      | none => exact only_absent absent
      | some held => exact only.part (.item ref refers (Array.mem_of_getElem? at_))
    · exact only_absent absent
  · cases found

/-- What holds of every value on the heap holds of all that a value leads to. -/
theorem only_of_everywhere (lists : ∀ items ∈ heap.lists.toList, ∀ w ∈ items.toList, P w)
    (records : ∀ fields ∈ heap.records.toList, ∀ entry ∈ fields.entries, P entry.2) (here : P v) :
    heap.Only P v := by
  intro w reached
  rcases Relation.ReflTransGen.cases_tail reached with rfl | ⟨holder, -, part⟩
  · exact here
  · cases part with
    | item ref refers held =>
      unfold Heap.items at held
      cases there : heap.lists[ref.index]? with
      | none => simp [there] at held
      | some items =>
        rw [there, Option.getD_some] at held
        have inHeap := Array.mem_toList_iff.mpr (Array.mem_of_getElem? there)
        exact lists items inHeap w (Array.mem_toList_iff.mpr held)
    | field ref name refers held =>
      unfold Heap.fields at held
      cases there : heap.records[ref.index]? with
      | none => simp [there] at held
      | some fields =>
        rw [there, Option.getD_some] at held
        have inHeap := Array.mem_toList_iff.mpr (Array.mem_of_getElem? there)
        exact records fields inHeap _ (Table.mem_of_get?_eq_some held)

end Heap

/-- Neither the value nor anything that it leads to through items and fields is raw. -/
def Heap.Tame (heap : Heap) (v : Value) : Prop :=
  ∀ w, Relation.ReflTransGen heap.Part v w → w.raw = false

/-- The known templates are plain, and nothing that the context leads to is raw. -/
structure Machine.Harmless (m : Machine) : Prop where
  /-- The templates known so far are plain. -/
  library : m.library.Plain
  /-- What is bound leads to nothing raw. -/
  tame : ∀ scope ∈ m.context.scopes, ∀ name v, scope.get? name = some v → m.host.heap.Tame v

namespace Heap

variable {heap : Heap} {v w : Value}

/-- A tame value is not raw. -/
theorem Tame.raw (tame : heap.Tame v) : v.raw = false := Only.here tame

/-- The absent value is tame. -/
theorem tame_absent : heap.Tame .absent := only_absent rfl

/-- A text is tame. -/
theorem tame_ofText (s : String) : heap.Tame (.ofText s) := only_of_flat nofun nofun rfl

/-- What a path finds in a tame value is tame. -/
theorem Tame.part? (tame : heap.Tame v) {field : String} (found : v.part? field heap = some w) :
    heap.Tame w := by
  refine Only.part? tame rfl (fun info name => ?_) found
  unfold LoopInfo.field
  split <;> rfl

end Heap

/-- A callable is replaced by a text that is not raw, whatever else it does. -/
theorem Value.tame_settle (host : Host) {state : HostState} {v : Value}
    (tame : state.heap.Tame v) :
    (v.settle host state).2.heap.Tame (v.settle host state).1 := by
  unfold Value.settle
  split
  · exact Heap.tame_ofText _
  · exact tame

/-- A path from a tame value ends in one that is not raw. -/
theorem Value.raw_follow (host : Host) (fields : List String) {state : HostState} {v : Value}
    (tame : state.heap.Tame v) : (v.follow host fields state).1.raw = false := by
  induction fields generalizing v state with
  | nil => exact tame.raw
  | cons field fields ih =>
    simp only [Value.follow]
    split
    · rfl
    · rename_i part found
      exact ih (Value.tame_settle host (tame.part? found))

/-- A binding of the context, or the absent value, is tame where the context leads to nothing
raw. -/
theorem Machine.Harmless.tame_get {m : Machine} (harmless : m.Harmless) (name : String) :
    m.host.heap.Tame (m.context.get name) :=
  Context.get_of_forall Heap.tame_absent fun scope member => harmless.tame scope member name

/-! ### Expressions -/

/-- If the value is raw, the text written for it has no character of markup. -/
def Value.PlainIfRaw (v : Value) : Prop := v.raw = true → Text.Plain v.text

/-- A value that is not raw need not be plain. -/
theorem Value.plainIfRaw_of_raw {v : Value} (cooked : v.raw = false) : v.PlainIfRaw := fun raw => by
  rw [cooked] at raw
  cases raw

/-- A literal without markup is written without it. -/
theorem Literal.plain_text {l : Literal} (plain : ∀ s ∈ l.strings, Text.Plain s) :
    Text.Plain l.value.text := by
  cases l with
  | text s => exact plain s List.mem_cons_self
  | whole n => exact Text.plain_writeWhole n

/-- A filter with a plain argument makes no raw value that is not plain. -/
theorem Filter.plainIfRaw_apply {f : Filter} (plain : ∀ s ∈ f.strings, Text.Plain s) (heap : Heap)
    {v : Value} (start : v.PlainIfRaw) : (f.apply heap v).PlainIfRaw := by
  cases f with
  | default fallback =>
    simp only [Filter.apply]
    split
    · exact fun _ => Literal.plain_text plain
    · exact start
  | length =>
    simp only [Filter.apply]
    split <;> exact Value.plainIfRaw_of_raw rfl
  | add term =>
    simp only [Filter.apply]
    split
    · exact Value.plainIfRaw_of_raw rfl
    · intro raw
      exact (start raw).append (Literal.plain_text plain)

/-- Filters without markup keep a value plain if it is raw. -/
theorem Expr.plainIfRaw_filters {filters : List Filter}
    (plain : ∀ f ∈ filters, ∀ s ∈ f.strings, Text.Plain s) (heap : Heap) {v : Value}
    (start : v.PlainIfRaw) : (filters.foldl (fun v f => f.apply heap v) v).PlainIfRaw := by
  induction filters generalizing v with
  | nil => exact start
  | cons f filters ih =>
    have first := Filter.plainIfRaw_apply (plain f List.mem_cons_self) heap start
    exact ih (fun g member => plain g (List.mem_cons_of_mem _ member)) first

/-- In a harmless machine, an expression with plain literals has no raw value that is not plain. -/
theorem Expr.plainIfRaw_eval {m : Machine} (harmless : m.Harmless) {expr : Expr}
    (plain : ∀ s ∈ expr.strings, Text.Plain s) (host : Host) :
    (expr.eval host m.context m.host).1.PlainIfRaw := by
  have operand : (expr.operand.eval host m.context m.host).1.PlainIfRaw := by
    have literals := fun s member => plain s (List.mem_append_left _ member)
    cases shape : expr.operand with
    | literal l =>
      rw [shape] at literals
      exact fun _ => Literal.plain_text literals
    | path name fields =>
      have settled := Value.tame_settle host (harmless.tame_get name)
      exact Value.plainIfRaw_of_raw (Value.raw_follow host fields settled)
  refine Expr.plainIfRaw_filters (fun f member s held => plain s ?_) _ operand
  exact List.mem_append_right _ (List.mem_flatMap.mpr ⟨f, member, held⟩)

/-- With the escaper for markup, a value is shown as an escaped text. -/
theorem Render.escaped_shown {context : Context} (html : context.escaper = some Escaper.html)
    {v : Value} (plain : v.PlainIfRaw) : Text.Escaped (Render.shown context v) := by
  simp only [Render.shown, html]
  split
  · rename_i raw
    exact (plain raw).escaped
  · exact Text.escaped_html v.text

/-! ### Checks -/

/-- No text in a known template has a character of markup. -/
abbrev Library.Unmarked (library : Library) : Prop :=
  ∀ entry ∈ library.entries, Node.PlainIn entry.2.nodes ∧
    ∀ block ∈ entry.2.blocks.entries, Node.PlainIn block.2

/-- The known templates are plain if they pass the check. -/
theorem Library.Unmarked.plain {library : Library} (unmarked : library.Unmarked) :
    library.Plain := by
  intro key t known
  obtain ⟨nodes, blocks⟩ := unmarked _ (Table.mem_of_get?_eq_some known)
  exact ⟨nodes, fun name body bound => blocks _ (Table.mem_of_get?_eq_some bound)⟩

/-- No value in a scope or on the heap is raw, whether the context leads to it or not. -/
abbrev Machine.Sheltered (m : Machine) : Prop :=
  (∀ scope ∈ m.context.scopes, ∀ entry ∈ scope.entries, entry.2.raw = false) ∧
  (∀ items ∈ m.host.heap.lists.toList, ∀ v ∈ items.toList, v.raw = false) ∧
  (∀ fields ∈ m.host.heap.records.toList, ∀ entry ∈ fields.entries, entry.2.raw = false)

/-- The context leads to nothing raw if nothing raw is anywhere. -/
theorem Machine.Sheltered.tame {m : Machine} (sheltered : m.Sheltered) :
    ∀ scope ∈ m.context.scopes, ∀ name v, scope.get? name = some v → m.host.heap.Tame v := by
  obtain ⟨scopes, lists, records⟩ := sheltered
  intro scope member name v bound
  have here := scopes scope member _ (Table.mem_of_get?_eq_some bound)
  exact Heap.only_of_everywhere lists records here

end TextTemplate

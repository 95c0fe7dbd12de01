import TextTemplate.Proofs.Escaping.Harmless
import TextTemplate.Proofs.Render.Frame
/-!
# Contexts without callables

A context is hushed if nothing that it leads to is a callable. Templates hold no callables, so in a
hushed context no expression invokes one, and what a loop binds is hushed again. Main statement: a
render in a hushed context leaves the heap as it is (`Template.heap_render`).
-/
namespace TextTemplate

/-- Neither the value nor anything that it leads to through items and fields is a callable. -/
def Heap.Quiet (heap : Heap) : Value → Prop := heap.Only fun v => v.kind ≠ .function

/-- Nothing that the context leads to on the heap is a callable. -/
def Context.Hushed (context : Context) (heap : Heap) : Prop :=
  ∀ scope ∈ context.scopes, ∀ name v, scope.get? name = some v → heap.Quiet v

section Evaluation

variable {host : Host} {state : HostState} {context : Context} {heap : Heap} {v w : Value}

/-- The absent value is quiet. -/
theorem Heap.quiet_absent : heap.Quiet .absent := Heap.only_absent nofun

/-- A literal is quiet. -/
theorem Heap.quiet_literal (l : Literal) : heap.Quiet l.value := by
  cases l <;> exact Heap.only_of_flat nofun nofun nofun

/-- A whole number is quiet. -/
theorem Heap.quiet_ofWhole (n : Int64) : heap.Quiet (.ofWhole n) :=
  Heap.only_of_flat nofun nofun nofun

/-- A text is quiet, whether it is raw or not. -/
theorem Heap.quiet_ofText (s : String) (raw : Bool) : heap.Quiet ((Value.ofText s).withRaw raw) :=
  Heap.only_of_flat nofun nofun nofun

/-- The value of `forloop` is quiet. -/
theorem Heap.quiet_ofLoop (info : LoopInfo) : heap.Quiet (.ofLoop info) :=
  Heap.only_of_flat nofun nofun nofun

/-- A field of a quiet value is quiet. -/
theorem Heap.Quiet.part? (quiet : heap.Quiet v) {field : String}
    (found : v.part? field heap = some w) : heap.Quiet w := by
  refine Heap.Only.part? quiet nofun (fun info name => ?_) found
  unfold LoopInfo.field
  split <;> exact nofun

/-- The items of a list that a quiet value refers to are quiet. -/
theorem Heap.Quiet.item (quiet : heap.Quiet v) {list : ListRef} (refers : v.list? = some list)
    (held : w ∈ heap.items list) : heap.Quiet w := by
  refine Heap.Only.part quiet (.item list ?_ held)
  unfold Value.list? at refers
  split at refers
  · cases refers
    assumption
  · cases refers

/-- What a name means in a hushed context is quiet. -/
theorem Context.Hushed.get (hushed : context.Hushed heap) (name : String) :
    heap.Quiet (context.get name) :=
  Context.get_of_forall Heap.quiet_absent fun scope member => hushed scope member name

/-- No value but a callable is invoked. -/
theorem Value.settle_of_quiet (quiet : v.kind ≠ .function) : v.settle host state = (v, state) := by
  obtain ⟨payload, raw⟩ := v
  cases payload <;> first | rfl | exact absurd rfl quiet

/-- From a quiet value fields lead to a quiet one, and nothing is invoked on the way. -/
theorem Value.follow_of_quiet (fields : List String) (quiet : state.heap.Quiet v) :
    (v.follow host fields state).2 = state ∧ state.heap.Quiet (v.follow host fields state).1 := by
  induction fields generalizing v with
  | nil => exact ⟨rfl, quiet⟩
  | cons field fields ih =>
    simp only [Value.follow]
    split
    · exact ⟨rfl, Heap.quiet_absent⟩
    · rename_i part found
      have further := quiet.part? found
      rw [Value.settle_of_quiet (Heap.Only.here further)]
      exact ih further

/-- In a hushed context an operand is quiet, and nothing is invoked. -/
theorem Operand.eval_of_hushed (host : Host) (hushed : context.Hushed state.heap)
    (operand : Operand) :
    (operand.eval host context state).2 = state ∧
      state.heap.Quiet (operand.eval host context state).1 := by
  cases operand with
  | literal l => exact ⟨rfl, Heap.quiet_literal l⟩
  | path name fields =>
    have first := hushed.get name
    simp only [Operand.eval, Value.settle_of_quiet (Heap.Only.here first)]
    exact Value.follow_of_quiet fields first

/-- A filter leaves a quiet value quiet. -/
theorem Filter.quiet_apply (quiet : heap.Quiet v) (f : Filter) : heap.Quiet (f.apply heap v) := by
  cases f with
  | default fallback =>
    simp only [Filter.apply]
    split
    · exact Heap.quiet_literal fallback
    · exact quiet
  | length =>
    simp only [Filter.apply]
    split
    · exact Heap.quiet_ofWhole _
    · exact Heap.quiet_ofWhole _
    · exact Heap.quiet_ofWhole 0
  | add term =>
    simp only [Filter.apply]
    split
    · exact Heap.quiet_ofWhole _
    · exact Heap.quiet_ofText _ v.raw

/-- In a hushed context an expression invokes nothing and has a quiet value. -/
theorem Expr.eval_of_hushed (host : Host) (hushed : context.Hushed state.heap) (expr : Expr) :
    (expr.eval host context state).2 = state ∧
      state.heap.Quiet (expr.eval host context state).1 := by
  obtain ⟨same, quiet⟩ := Operand.eval_of_hushed host hushed expr.operand
  refine ⟨same, ?_⟩
  simp only [Expr.eval, same]
  generalize (expr.operand.eval host context state).1 = v at quiet
  induction expr.filters generalizing v with
  | nil => exact quiet
  | cons f filters ih => exact ih _ (Filter.quiet_apply quiet f)

end Evaluation

/-! ### Scopes -/

section Scopes

variable {context : Context} {heap : Heap}

/-- A new scope leaves a context hushed. -/
theorem Context.Hushed.push (hushed : context.Hushed heap) : context.push.Hushed heap := by
  intro scope member name v bound
  rcases List.mem_cons.mp member with rfl | outer
  · cases bound
  · exact hushed scope outer name v bound

/-- A name that is bound to a quiet value leaves a context hushed. -/
theorem Context.Hushed.set (hushed : context.Hushed heap) {v : Value} (quiet : heap.Quiet v)
    (name : String) : (context.set name v).Hushed heap := by
  intro scope member other w bound
  rcases List.mem_cons.mp member with rfl | outer
  · have found : (context.top.insert name v).get? other = some w := bound
    rw [Table.get?_insert] at found
    split at found
    · cases found
      exact quiet
    · exact hushed context.top List.mem_cons_self other w found
  · exact hushed scope (List.mem_cons_of_mem _ outer) other w bound

end Scopes

/-- Nothing that the machine's context leads to is a callable. -/
def Machine.Hushed (m : Machine) : Prop := m.context.Hushed m.host.heap

/-- No value in a scope or on the heap is a callable, whether the context leads to it or not. -/
abbrev Machine.Voiceless (m : Machine) : Prop :=
  (∀ scope ∈ m.context.scopes, ∀ entry ∈ scope.entries, entry.2.kind ≠ .function) ∧
  (∀ items ∈ m.host.heap.lists.toList, ∀ v ∈ items.toList, v.kind ≠ .function) ∧
  (∀ fields ∈ m.host.heap.records.toList, ∀ entry ∈ fields.entries, entry.2.kind ≠ .function)

/-- Where there is no callable at all the context is hushed. -/
theorem Machine.Voiceless.hushed {m : Machine} (voiceless : m.Voiceless) : m.Hushed := by
  obtain ⟨scopes, lists, records⟩ := voiceless
  intro scope member name v bound
  exact Heap.only_of_everywhere lists records
    (scopes scope member _ (Table.mem_of_get?_eq_some bound))

/-- The list that a task goes through, if it is the iterations of a loop, holds quiet items. -/
def Task.Quiet (heap : Heap) : Task → Prop
  | .iterate _ _ _ _ list _ _ => ∀ item ∈ heap.items list, heap.Quiet item
  | _ => True

namespace Render

variable {α β : Type} {setting : Setting} {m n : Machine}

/-- Started from the machine, the render leaves the heap as it is. -/
def Still (x : Render α) (m : Machine) : Prop :=
  (x m).Holds (fun _ n => n.host.heap = m.host.heap) (fun _ n => n.host.heap = m.host.heap) True

/-- Two renders in turn leave the heap as it is if the first does, and the second wherever the first
is done. -/
theorem Still.bind {x : Render α} {f : α → Render β} (first : Still x m)
    (second : ∀ v n, x m = .done v n → n.host.heap = m.host.heap → Still (f v) n) :
    Still (x >>= f) m := by
  unfold Still
  rw [holds_bind]
  cases ended : x m with
  | done v n =>
    have same : n.host.heap = m.host.heap := by
      have here := first
      rwa [Still, ended] at here
    have later := second v n ended same
    exact later.mono (fun _ _ here => here.trans same) (fun _ _ here => here.trans same) id
  | failed error n =>
    have here := first
    rwa [Still, ended] at here
  | outOfFuel => trivial

/-- What leaves the heap alone may be done around a still render. -/
theorem Still.around {body : Render α} {enter leave : Machine → Machine}
    (inside : Still body (enter m)) (enters : (enter m).host.heap = m.host.heap)
    (leaves : ∀ n, (leave n).host.heap = n.host.heap) : Still (around enter leave body) m := by
  unfold Still
  rw [holds_around]
  exact inside.mono (fun _ n here => (leaves n).trans (here.trans enters))
    (fun _ n here => (leaves n).trans (here.trans enters)) id

/-- A still render is still without the overriding templates. -/
theorem Still.detached {body : Render Unit} (inside : Still body { m with chain := [] }) :
    Still (detached body) m := by
  unfold Still
  rw [holds_detached]
  exact inside

/-- A still render is still where it is captured. -/
theorem Still.captured {body : Render Unit}
    (inside : Still body { m with sink := .unlimited (m.sink.level + 1) }) :
    Still (captured body) m := by
  unfold Still
  rw [holds_captured]
  exact inside

/-- A render that is done with the heap as it was is still. -/
theorem still_of_done {x : Render α} {v : α} (done : x m = .done v n)
    (same : n.host.heap = m.host.heap) : Still x m := by
  unfold Still
  rw [done]
  exact same

/-- To write a text is still. -/
theorem still_emit (text : String) : Still (emit text) m := by
  unfold Still
  rw [holds_emit]
  split <;> rfl

/-- In a hushed context evaluation changes nothing. -/
theorem evaluate_of_hushed (hushed : m.Hushed) (expr : Expr) :
    ∃ v, evaluate setting expr m = .done v m ∧ m.host.heap.Quiet v := by
  obtain ⟨same, quiet⟩ := Expr.eval_of_hushed setting.host hushed expr
  refine ⟨_, ?_, quiet⟩
  exact congrArg (fun host => Ending.done _ { m with host }) same

/-- In a hushed context to resolve a template is still. -/
theorem still_resolve (hushed : m.Hushed) (expr : Expr) : Still (resolve setting expr) m := by
  obtain ⟨v, done, -⟩ := @evaluate_of_hushed setting m hushed expr
  refine (still_of_done done rfl).bind fun name n ended same => ?_
  unfold Still
  rw [holds_load]
  split <;> rfl

/-- Where the context and the heap are as they were, the context is hushed still. -/
theorem hushed_of_returns {host : Host} (hushed : m.Hushed) (returns : m.Returns host n)
    (same : n.host.heap = m.host.heap) : n.Hushed := by
  rw [Machine.Hushed, returns.context, same]
  exact hushed

/-- What is done with a template that was resolved is done in a hushed context. -/
theorem still_resolved (hushed : m.Hushed) (expr : Expr) {f : Template → Render β}
    (later : ∀ t k, k.Hushed → Still (f t) k) : Still (resolve setting expr >>= f) m := by
  refine (still_resolve hushed expr).bind fun t n resolved same => later t n ?_
  exact hushed_of_returns hushed ((steady_resolve expr).returns resolved) same

/-- What a loop binds for a quiet item is hushed. -/
theorem hushed_bound (setting : Setting) (hushed : m.Hushed) {item : Value}
    (quiet : m.host.heap.Quiet item) (var : String) (list : ListRef) (index : Nat) :
    (bound setting var item list index m).Hushed := by
  have first := hushed.set quiet var
  unfold bound Machine.Hushed
  dsimp only
  split
  · exact first.set (Heap.quiet_ofLoop _) "forloop"
  · exact first

/-- What a cursor reports is an item of the list. -/
theorem mem_of_current {cursor : Cursor} {heap : Heap} {list : ListRef} {item : Value}
    (reported : cursor.current heap list = some item) : item ∈ heap.items list := by
  obtain ⟨position, -, found⟩ := Option.bind_eq_some_iff.mp reported
  exact Array.mem_of_getElem? found

section Step

variable {run : Task → Render Unit} {owner : Template}
  (steady : ∀ task, (steadiness setting.host).Meets task fun _ => run task)
  (inside : ∀ task k, k.Hushed → task.Quiet k.host.heap → Still (run task) k)

include steady inside

/-- In a hushed context a node is still if the renders it asks for are. -/
theorem still_node (hushed : m.Hushed) (n : Node) : Still (node setting run owner n) m := by
  cases n with
  | text s => exact still_emit s
  | «variable» expr =>
    obtain ⟨v, done, -⟩ := @evaluate_of_hushed setting m hushed expr
    refine (still_of_done done rfl).bind fun v k _ _ => ?_
    exact (still_of_done rfl rfl).bind fun text k _ _ => still_emit text
  | forEach var expr reversed body otherwise =>
    obtain ⟨v, done, quiet⟩ := @evaluate_of_hushed setting m hushed expr
    refine (still_of_done done rfl).bind fun w k ended _ => ?_
    cases done.symm.trans ended
    have empty := inside (.nodes owner otherwise) m hushed trivial
    cases listed : v.list? with
    | none => exact empty
    | some list =>
      refine (still_of_done rfl rfl).bind fun count k counted _ => ?_
      cases counted
      split
      · unfold Still
        rw [inScope_eq_around (steady (.iterate owner var reversed body list _ 0))]
        exact Still.around (inside _ { m with context := m.context.push } hushed.push
          fun item held => quiet.item listed held) rfl fun _ => rfl
      · exact empty
  | condition test negated yes no =>
    obtain ⟨v, done, -⟩ := @evaluate_of_hushed setting m hushed test
    refine (still_of_done done rfl).bind fun w k ended _ => ?_
    cases done.symm.trans ended
    refine (still_of_done rfl rfl).bind fun holds k read _ => ?_
    cases read
    split
    · exact inside (.nodes owner yes) m hushed trivial
    · exact inside (.nodes owner no) m hushed trivial
  | block name body =>
    refine (still_of_done rfl rfl).bind fun chosen k read _ => ?_
    cases read
    exact inside (.nodes _ _) m hushed trivial
  | inherits parent =>
    refine still_resolved hushed parent fun t k there => ?_
    have body := inside (.template t) { k with chain := k.chain ++ [owner] } there trivial
    exact Still.around body rfl fun _ => rfl
  | includes template =>
    refine still_resolved hushed template fun t k there => ?_
    exact (inside (.template t) { k with chain := [] } there trivial).detached
  | creates file template line =>
    obtain ⟨v, done, -⟩ := @evaluate_of_hushed setting m hushed file
    refine (still_of_done done rfl).bind fun w k ended _ => ?_
    cases done.symm.trans ended
    refine still_resolved hushed template fun t k there => ?_
    have body := inside (.template t)
      { k with sink := .unlimited (k.sink.level + 1), chain := [] } there trivial
    refine (Still.captured (Still.detached body)).bind fun content l _ _ => ?_
    exact still_of_done (create_eq owner line v.text content l) rfl

/-- In a hushed context nodes are still if the renders they ask for are. -/
theorem still_nodes (hushed : m.Hushed) (ns : List Node) :
    Still (nodes setting run owner ns) m := by
  induction ns generalizing m with
  | nil => exact still_of_done rfl rfl
  | cons first rest ih =>
    refine (still_node steady inside hushed first).bind fun _ n done same => ?_
    have back : Steady setting.host (node setting run owner first) :=
      (compatible_steadiness setting).node steady owner first
    split
    · exact still_of_done rfl rfl
    · exact ih (hushed_of_returns hushed (back.returns done) same)

/-- In a hushed context a loop over quiet items is still if its body is. -/
theorem still_iterate (hushed : m.Hushed) (var : String) (reversed : Bool) (body : List Node)
    (list : ListRef) (quiet : ∀ item ∈ m.host.heap.items list, m.host.heap.Quiet item)
    (cursor : Cursor) (index : Nat) :
    Still (iterate setting run owner var reversed body list cursor index) m := by
  unfold Still
  rw [iterate_apply]
  cases reported : cursor.current m.host.heap list with
  | none => rfl
  | some item =>
    have here := hushed_bound setting hushed (quiet item (mem_of_current reported)) var list index
    have back : Steady setting.host (run (.nodes owner body)) := steady (.nodes owner body)
    refine (inside (.nodes owner body) _ here trivial).bind fun _ n done same => ?_
    refine inside _ n (hushed_of_returns here (back.returns done) same) fun item held => ?_
    rw [same] at held ⊢
    exact quiet item held

/-- A step leaves the heap as it is if the tasks inside it do. -/
theorem still_step (hushed : m.Hushed) (task : Task) (quiet : task.Quiet m.host.heap) :
    Still (step setting run task) m := by
  cases task with
  | template t =>
    unfold Still
    rw [step, template_apply]
    split
    · rfl
    · split
      · rfl
      · have body := inside (.nodes t t.nodes) { m with active := m.active ++ [t.name] } hushed
          trivial
        exact Still.around body rfl fun _ => rfl
  | nodes owner ns => exact still_nodes steady inside hushed ns
  | iterate owner var reversed body list cursor index =>
    exact still_iterate steady inside hushed var reversed body list quiet cursor index

end Step

/-- A render in a hushed context leaves the heap as it is. -/
theorem still_run (hushed : m.Hushed) (fuel : Nat) (task : Task)
    (quiet : task.Quiet m.host.heap) : Still (run setting fuel task) m := by
  induction fuel generalizing task m with
  | zero => trivial
  | succ fuel ih =>
    exact still_step (steady_run fuel) (fun task k hushed quiet => ih hushed task quiet) hushed task
      quiet

end Render

/-- In a context that leads to no callable, a render that is done has left the heap as it was. -/
theorem Template.heap_render {setting : Setting} {fuel : Nat} {t : Template} {m n : Machine}
    (hushed : m.Hushed) (done : t.render setting fuel m = .done () n) :
    n.host.heap = m.host.heap := by
  have start : Machine.Hushed { m with active := [], chain := [], outcomes := #[] } := hushed
  have still : Render.Still (Render.run setting fuel (.template t)) _ :=
    Render.still_run start fuel (.template t) trivial
  unfold Template.render at done
  rwa [Render.Still, done] at still

end TextTemplate

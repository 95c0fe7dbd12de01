import TextTemplate.Proofs.Render.Request
/-!
# Which endings a render can have

A render is safe if it fails with allowed errors alone, and wants for fuel only if that is allowed.
What a step needs for this is told node by node: that the lists which a node holds, what stands in
the place of a block, the iterations of a loop and the templates that it names are safe, each from
the machines in which they are reached. Of these machines only what a render leaves as it finds it
is remembered.
-/
namespace TextTemplate.Render

variable {α β : Type} {allowed : RenderError → Prop} {starved : Prop} {m n : Machine}

/-- The render, started from the machine, fails with allowed errors alone, and wants for fuel only
if that is allowed. -/
def Safe (allowed : RenderError → Prop) (starved : Prop) (x : Render α) (m : Machine) : Prop :=
  (x m).Holds (fun _ _ => True) (fun error _ => allowed error) starved

/-- A render that is done is safe. -/
theorem safe_of_done {x : Render α} {v : α} (done : x m = .done v n) :
    Safe allowed starved x m := by
  unfold Safe
  rw [done]
  trivial

/-- A render that fails with an allowed error is safe. -/
theorem safe_of_failed {x : Render α} {error : RenderError} (failed : x m = .failed error n)
    (allows : allowed error) : Safe allowed starved x m := by
  unfold Safe
  rw [failed]
  exact allows

/-- Two renders in turn are safe if the first is, and the second wherever the first is done. -/
theorem Safe.bind {x : Render α} {f : α → Render β} (first : Safe allowed starved x m)
    (second : ∀ v n, x m = .done v n → Safe allowed starved (f v) n) :
    Safe allowed starved (x >>= f) m := by
  unfold Safe at first ⊢
  rw [holds_bind]
  cases ended : x m with
  | done v n => exact second v n ended
  | failed error n =>
    rw [ended] at first
    exact first
  | outOfFuel =>
    rw [ended] at first
    exact first

/-- What is done around a render does not make it less safe. -/
theorem Safe.around {body : Render α} {enter leave : Machine → Machine}
    (inside : Safe allowed starved body (enter m)) :
    Safe allowed starved (around enter leave body) m := by
  unfold Safe at inside ⊢
  rwa [holds_around]

/-- A render is safe if it is so without the overriding templates. -/
theorem Safe.detached {body : Render Unit}
    (inside : Safe allowed starved body { m with chain := [] }) :
    Safe allowed starved (detached body) m := by
  unfold Safe at inside ⊢
  rwa [holds_detached]

/-- A render that is captured is safe if it is so with a sink of its own. -/
theorem Safe.captured {body : Render Unit}
    (inside : Safe allowed starved body { m with sink := .unlimited (m.sink.level + 1) }) :
    Safe allowed starved (captured body) m := by
  unfold Safe at inside ⊢
  rwa [holds_captured]

/-- A scope is always closed in order. -/
theorem Safe.inScope {host : Host} {body : Render Unit} (leads : Within (Machine.Leads host) body)
    (inside : Safe allowed starved body { m with context := m.context.push }) :
    Safe allowed starved (inScope body) m := by
  unfold Safe
  rw [inScope_eq_around leads, holds_around]
  exact inside

/-- To write a text is safe, if a sink may refuse. -/
theorem safe_emit (refused : allowed .refused) (text : String) :
    Safe allowed starved (emit text) m := by
  unfold Safe
  rw [holds_emit]
  split
  · trivial
  · exact refused

section Node

variable {setting : Setting} {run : Task → Render Unit} {owner : Template}
  (steady : ∀ task, (steadiness setting.host).Meets task fun _ => run task)
  {kept : Machine → Prop} (stays : ∀ m n, kept m → m.Stays n → kept n)

include steady stays

/-- A node is safe if what it holds is, the iterations of its loop, what stands in its place if it
is a block, and the templates that it names. -/
theorem safe_node (refused : allowed .refused) {node : Node} (start : kept m)
    (held : node.block? = none → ∀ body ∈ node.bodies, ∀ k, kept k →
      Safe allowed starved (run (.nodes owner body)) k)
    (loop : ∀ var expr reversed body otherwise, node = .forEach var expr reversed body otherwise →
      ∀ list cursor k, kept k → k.host.heap.items list ≠ #[] →
        Safe allowed starved (run (.iterate owner var reversed body list cursor 0)) k)
    (chosen : ∀ name body, node = .block name body → Safe allowed starved
      (run (.nodes (blockBody m.chain owner name body).1 (blockBody m.chain owner name body).2)) m)
    (loads : ∀ expr, node.operand? = some expr →
      Safe allowed starved (resolve setting expr) (node.asking setting.host m))
    (parent : ∀ expr t k, node = .inherits expr → resolve setting expr m = .done t k →
      Safe allowed starved (run (.template t)) { k with chain := k.chain ++ [owner] })
    (nested : ∀ expr t l sink, node.operand? = some expr → isLast node = false →
      resolve setting expr (node.asking setting.host m) = .done t l →
      Safe allowed starved (run (.template t)) { l with chain := [], sink }) :
    Safe allowed starved (Render.node setting run owner node) m := by
  cases node with
  | text s => exact safe_emit refused s
  | «variable» expr =>
    refine Safe.bind (safe_of_done rfl) fun v k _ => ?_
    exact Safe.bind (safe_of_done rfl) fun text k _ => safe_emit refused text
  | forEach var expr reversed body otherwise =>
    refine Safe.bind (safe_of_done rfl) fun v k evaluated => ?_
    have returns := (steady_evaluate expr).returns evaluated
    have there := stays m k start returns.toStays
    have empty := held rfl otherwise (by simp [Node.bodies]) k there
    cases v.list? with
    | none => exact empty
    | some list =>
      refine Safe.bind (safe_of_done rfl) fun count after counted => ?_
      cases counted
      split
      · rename_i some
        refine Safe.inScope (steady (.iterate owner var reversed body list _ 0)) ?_
        refine loop var expr reversed body otherwise rfl list _ _ (stays k _ there ?_) ?_
        · exact ⟨rfl, rfl, fun _ _ => id, id⟩
        · intro nothing
          simp [Heap.count, nothing] at some
      · exact empty
  | condition test negated yes no =>
    refine Safe.bind (safe_of_done rfl) fun v k evaluated => ?_
    have returns := (steady_evaluate test).returns evaluated
    have there := stays m k start returns.toStays
    refine Safe.bind (safe_of_done rfl) fun holds after read => ?_
    cases read
    split
    · exact held rfl yes (by simp [Node.bodies]) k there
    · exact held rfl no (by simp [Node.bodies]) k there
  | block name body =>
    refine Safe.bind (safe_of_done rfl) fun found after read => ?_
    cases read
    exact chosen name body rfl
  | inherits expr =>
    exact (loads expr rfl).bind fun t k resolved => Safe.around (parent expr t k rfl resolved)
  | includes template =>
    exact (loads template rfl).bind fun t k resolved =>
      Safe.detached (nested template t k k.sink rfl rfl resolved)
  | creates file template line =>
    refine Safe.bind (safe_of_done rfl) fun named k evaluated => ?_
    cases evaluated
    refine (loads template rfl).bind fun t l resolved => ?_
    have inside := nested template t l (.unlimited (l.sink.level + 1)) rfl rfl resolved
    exact (Safe.captured (Safe.detached inside)).bind fun content after _ =>
      safe_of_done (create_eq owner line _ content after)

/-- Nodes are safe if each of them is. -/
theorem safe_nodes {ns : List Node} (start : kept m)
    (each : ∀ node ∈ ns, ∀ k, kept k →
      Safe allowed starved (Render.node setting run owner node) k) :
    Safe allowed starved (nodes setting run owner ns) m := by
  induction ns generalizing m with
  | nil => exact safe_of_done rfl
  | cons first rest ih =>
    refine (each first List.mem_cons_self m start).bind fun _ n done => ?_
    have back : Steady setting.host (Render.node setting run owner first) :=
      (compatible_steadiness setting).node steady owner first
    split
    · exact safe_of_done rfl
    · exact ih (stays m n start (back.returns done).toStays) fun node member =>
        each node (List.mem_cons_of_mem _ member)

/-- Iterations are safe if the body is, from wherever an iteration starts, and those after it from
wherever the body is done. -/
theorem safe_iterate {var : String} {reversed : Bool} {body : List Node} {list : ListRef}
    {cursor : Cursor} {index : Nat} (start : kept m)
    (inside : ∀ k, kept k → Safe allowed starved (run (.nodes owner body)) k)
    (later : ∀ k, kept k → Safe allowed starved
      (run (.iterate owner var reversed body list (advance reversed cursor) (index + 1))) k) :
    Safe allowed starved (iterate setting run owner var reversed body list cursor index) m := by
  unfold Safe
  rw [iterate_apply]
  cases cursor.current m.host.heap list with
  | none => trivial
  | some item =>
    have here : kept (bound setting var item list index m) :=
      stays m _ start ⟨rfl, rfl, fun _ _ => id, id⟩
    have back : Steady setting.host (run (.nodes owner body)) := steady (.nodes owner body)
    exact (inside _ here).bind fun _ n done =>
      later n (stays _ n here (back.returns done).toStays)

end Node

/-- A template is safe if its nodes are and if the errors of the guards are allowed that can stop
it. -/
theorem safe_template {setting : Setting} {run : Task → Render Unit} {t : Template}
    (cycle : t.name ∈ m.active → allowed (.cycle (m.active ++ [t.name])))
    (deep : t.name ∉ m.active → setting.config.maxDepth ≤ m.active.length →
      allowed (.tooDeep setting.config.maxDepth t.name))
    (inside : t.name ∉ m.active → m.active.length < setting.config.maxDepth →
      Safe allowed starved (run (.nodes t t.nodes)) { m with active := m.active ++ [t.name] }) :
    Safe allowed starved (template setting run t) m := by
  refine Safe.bind (safe_of_done rfl) fun active k read => ?_
  cases read
  split
  · rename_i known
    exact safe_of_failed rfl (cycle known)
  · rename_i fresh
    split
    · rename_i full
      exact safe_of_failed rfl (deep fresh full)
    · rename_i vacant
      exact Safe.around (inside fresh (Nat.lt_of_not_le vacant))

end TextTemplate.Render

import TextTemplate.Proofs.Render.Guarded
import TextTemplate.Proofs.Render.Loop
import Mathlib.Logic.Relation
/-!
# Points of a render

A render comes from point to point. At a point some nodes of a template are left to be rendered from
a machine, inside the iterations of the loops that are going on (`Round`); from there the render
comes past the first node or into what the node begins (`Enters`). What is so at the start and
stays so from each point to the next is so wherever a render comes (`Template.Comes`). Main
statement: a render begins no node but at such a point (`Template.always_comes`).
-/
namespace TextTemplate

namespace Render

/-! ### What a node begins -/

section Nodes

variable {setting : Setting} {owner : Template}

/-- Rendering the node from the first machine comes to the task, in the second machine. -/
inductive Begins (setting : Setting) (owner : Template) : Node → Machine → Task → Machine → Prop
  | iterations {var : String} {expr : Expr} {reversed : Bool} {body otherwise : List Node}
    {m start : Machine} {value : Value} {list : ListRef}
    (valued : evaluate setting expr m = .done value start) (listed : value.list? = some list)
    (filled : 0 < start.host.heap.count list) :
    Begins setting owner (.forEach var expr reversed body otherwise) m
      (.iterate owner var reversed body list (begin reversed (start.host.heap.count list)) 0)
      { start with context := start.context.push }
  | otherwise {var : String} {expr : Expr} {reversed : Bool} {body otherwise : List Node}
    {m start : Machine} {value : Value} (valued : evaluate setting expr m = .done value start)
    (bare : ∀ list, value.list? = some list → ¬ 0 < start.host.heap.count list) :
    Begins setting owner (.forEach var expr reversed body otherwise) m (.nodes owner otherwise)
      start
  | branch {test : Expr} {negated : Bool} {yes no : List Node} {m start : Machine} {value : Value}
    (valued : evaluate setting test m = .done value start) :
    Begins setting owner (.condition test negated yes no) m
      (.nodes owner (if value.truth start.host.heap != negated then yes else no)) start
  | block {name : String} {body : List Node} {m : Machine} :
    Begins setting owner (.block name body) m
      (.nodes (blockBody m.chain owner name body).1 (blockBody m.chain owner name body).2) m
  | parent {expr : Expr} {m k : Machine} {t : Template}
    (resolved : resolve setting expr m = .done t k) :
    Begins setting owner (.inherits expr) m (.template t) { k with chain := k.chain ++ [owner] }
  | included {expr : Expr} {m k : Machine} {t : Template}
    (resolved : resolve setting expr m = .done t k) :
    Begins setting owner (.includes expr) m (.template t) { k with chain := [] }
  | created {file template : Expr} {line : Nat} {m start k : Machine} {value : Value} {t : Template}
    (valued : evaluate setting file m = .done value start)
    (resolved : resolve setting template start = .done t k) :
    Begins setting owner (.creates file template line) m (.template t)
      { k with chain := [], sink := .unlimited (k.sink.level + 1) }

/-- What follows a render counts only from where the render is done. -/
theorem bind_congr_done {α β : Type} {x : Render α} {f g : α → Render β} {m : Machine}
    (same : ∀ v n, x m = .done v n → f v n = g v n) : (x >>= f) m = (x >>= g) m := by
  rw [bind_apply, bind_apply]
  cases ended : x m with
  | done v n => exact same v n ended
  | failed error n => rfl
  | outOfFuel => rfl

/-- How a node ends is up to the tasks that it begins. -/
theorem node_congr {f g : Task → Render Unit} {n : Node} {m : Machine}
    (same : ∀ task k, Begins setting owner n m task k → f task k = g task k) :
    node setting f owner n m = node setting g owner n m := by
  cases n with
  | text s => rfl
  | «variable» expr => rfl
  | forEach var expr reversed body otherwise =>
    refine bind_congr_done fun v start valued => ?_
    cases listed : v.list? with
    | none =>
      exact same _ _ (.otherwise valued fun list here => by rw [listed] at here; cases here)
    | some list =>
      refine bind_congr_done fun count k counted => ?_
      cases counted
      split
      · rename_i filled
        unfold inScope
        rw [same _ _ (.iterations valued listed filled)]
      · rename_i bare
        refine same _ _ (.otherwise valued fun other here => ?_)
        rw [listed] at here
        cases here
        exact bare
  | condition test negated yes no =>
    refine bind_congr_done fun v start valued => ?_
    refine bind_congr_done fun holds k read => ?_
    cases read
    have chosen := same _ _ (.branch valued)
    split <;> rename_i here <;> simpa [here] using chosen
  | block name body =>
    refine bind_congr_done fun chosen k read => ?_
    cases read
    exact same _ _ .block
  | inherits expr =>
    refine bind_congr_done fun t k resolved => ?_
    unfold overridden around
    rw [same _ _ (.parent resolved)]
  | includes expr =>
    refine bind_congr_done fun t k resolved => ?_
    rw [detached_apply, detached_apply]
    unfold around
    rw [same _ _ (.included resolved)]
  | creates file template line =>
    refine bind_congr_done fun v start valued => bind_congr_done fun t k resolved => ?_
    have inside := same _ _ (.created valued resolved)
    rw [bind_apply, bind_apply, captured_apply, captured_apply]
    unfold around
    rw [bind_apply, bind_apply, detached_apply, detached_apply]
    unfold around
    rw [inside]

/-- A node that ended with some fuel ends so with all that it needs. -/
theorem node_complete_of_run {fuel : Nat} {n : Node} {m : Machine}
    (ended : node setting (run setting fuel) owner n m ≠ .outOfFuel) :
    node setting (complete setting) owner n m = node setting (run setting fuel) owner n m := by
  let runs : Option Nat → Task → Render Unit := fun i => i.elim (complete setting) (run setting)
  have meets : ∀ task, settling.Meets task fun i => runs i task := by
    intro task
    have settles := settles_complete setting task
    cases task <;> exact fun m => settles m
  have settles : Settles fun i => node setting (runs i) owner n :=
    (compatible_settling setting).node meets owner n
  obtain ⟨least, here⟩ := settles m
  have same : node setting (run setting fuel) owner n m =
      if least ≤ fuel then node setting (complete setting) owner n m else .outOfFuel := here fuel
  rw [same] at ended ⊢
  split at ended
  · rename_i enough
    rw [if_pos enough]
  · exact absurd rfl ended

end Nodes

end Render

/-! ### Points -/

/-- An iteration of a loop that the loop came to, and that found an item. -/
structure Round (setting : Setting) where
  /-- The loop. -/
  loop : Loop
  /-- The machine in which the loop began. -/
  start : Machine
  /-- The iterations before this one. -/
  index : Nat
  /-- The machine in which the iteration began. -/
  begun : Machine
  /-- The item that was found. -/
  item : Value
  /-- The loop was told how many items the list had when it began. -/
  counted : loop.count = start.host.heap.count loop.list
  /-- The loop came to the iteration. -/
  reached : loop.Reaches setting start index begun
  /-- The iteration found the item. -/
  inside : loop.item? index begun = some item

/-- The number of items of the list when the iteration began. -/
def Round.total {setting : Setting} (round : Round setting) : Nat :=
  round.begun.host.heap.count round.loop.list

/-- The machine from which the body is rendered. -/
def Round.entered {setting : Setting} (round : Round setting) : Machine :=
  round.loop.entered setting round.index round.item round.begun

/-- Where a render is when it turns to nodes. -/
structure Point (setting : Setting) where
  /-- The iterations that are going on, innermost first. -/
  rounds : List (Round setting)
  /-- The template that the nodes are from. -/
  owner : Template
  /-- The nodes that are left. -/
  nodes : List Node
  /-- The machine from which they are rendered. -/
  machine : Machine

section Points

variable {setting : Setting}

/-- The first point in a template whose render is entered. -/
def Point.first (rounds : List (Round setting)) (t : Template) (m : Machine) : Point setting :=
  ⟨rounds, t, t.nodes, { m with active := m.active ++ [t.name] }⟩

/-- From one point a render may come to the other: when the first of the nodes is done it comes to
those after it, and before that it comes to the nodes, the template or the iterations that the first
node begins. -/
inductive Enters : Point setting → Point setting → Prop
  | onward {rounds : List (Round setting)} {owner : Template} {first : Node} {rest : List Node}
    {m n : Machine} (goesOn : Render.isLast first = false)
    (rendered : Render.node setting (Render.complete setting) owner first m = .done () n) :
    Enters ⟨rounds, owner, first :: rest, m⟩ ⟨rounds, owner, rest, n⟩
  | nodes {rounds : List (Round setting)} {owner source : Template} {first : Node}
    {rest inner : List Node} {m k : Machine}
    (begins : Render.Begins setting owner first m (.nodes source inner) k) :
    Enters ⟨rounds, owner, first :: rest, m⟩ ⟨rounds, source, inner, k⟩
  | template {rounds : List (Round setting)} {owner t : Template} {first : Node}
    {rest : List Node} {m k : Machine}
    (begins : Render.Begins setting owner first m (.template t) k)
    (other : t.name ∉ k.active) (room : k.active.length < setting.config.maxDepth) :
    Enters ⟨rounds, owner, first :: rest, m⟩ (.first rounds t k)
  | round {rounds : List (Round setting)} {owner : Template} {first : Node} {rest : List Node}
    {m : Machine} (round : Round setting)
    (begins : Render.Begins setting owner first m
      (round.loop.rest (Render.begin round.loop.reversed round.loop.count) 0)
      { round.start with context := round.start.context.push }) :
    Enters ⟨rounds, owner, first :: rest, m⟩
      ⟨round :: rounds, round.loop.owner, round.loop.body, round.entered⟩

/-- The render of a template comes to the point. -/
def Template.Comes (t : Template) (setting : Setting) (m : Machine) (point : Point setting) :
    Prop :=
  Relation.ReflTransGen Enters (.first [] t { m with active := [], chain := [], outcomes := #[] })
    point

/-! ### Every node begins at a point -/

/-- A set of points that a render cannot leave admits all nodes that are begun at its points. -/
structure Covers (reached : Point setting → Prop) (admits : Node → Machine → Prop) : Prop where
  /-- From a point that is reached only such points are entered. -/
  closed : ∀ {point next : Point setting}, reached point → Enters point next → reached next
  /-- The first node of a point that is reached is admitted. -/
  admitted : ∀ {rounds owner first rest m}, reached ⟨rounds, owner, first :: rest, m⟩ →
    admits first m

/-- All points are in the set that the task leads to from the machine. -/
inductive Due (reached : Point setting → Prop) (rounds : List (Round setting)) :
    Task → Machine → Prop
  | nodes {owner : Template} {ns : List Node} {m : Machine}
    (here : reached ⟨rounds, owner, ns, m⟩) : Due reached rounds (.nodes owner ns) m
  | template {t : Template} {m : Machine}
    (here : t.name ∉ m.active → m.active.length < setting.config.maxDepth →
      reached (.first rounds t m)) : Due reached rounds (.template t) m
  | rest {loop : Loop} {start m : Machine} {k : Nat} {context : Context} {cursor : Cursor}
    (counted : loop.count = start.host.heap.count loop.list)
    (before : loop.Reaches setting start k m) (opened : loop.Opened setting m.context context)
    (position : cursor.position = loop.position k)
    (here : ∀ round : Round setting, round.loop = loop → round.start = start →
      reached ⟨round :: rounds, loop.owner, loop.body, round.entered⟩) :
    Due reached rounds (loop.rest cursor k) { m with context }

variable {reached : Point setting → Prop} {admits : Node → Machine → Prop}

/-- What the first node begins is due. -/
theorem Covers.due (covers : Covers reached admits) {rounds : List (Round setting)}
    {owner : Template} {first : Node} {rest : List Node} {m k : Machine} {task : Task}
    (here : reached ⟨rounds, owner, first :: rest, m⟩)
    (begins : Render.Begins setting owner first m task k) : Due reached rounds task k := by
  cases begins with
  | @iterations var expr reversed body otherwise _ start value list valued listed filled =>
    obtain ⟨loop, same⟩ : ∃ loop : Loop,
      ⟨owner, var, reversed, body, list, start.host.heap.count list⟩ = loop := ⟨_, rfl⟩
    have task : loop.rest (Render.begin loop.reversed loop.count) 0 = .iterate owner var reversed
        body list (Render.begin reversed (start.host.heap.count list)) 0 := by
      subst same
      rfl
    rw [← task]
    refine .rest (by subst same; rfl) .entry .fresh Loop.position_begin fun round ofLoop at_ => ?_
    subst at_ ofLoop
    refine covers.closed here (.round round ?_)
    rw [task]
    exact .iterations valued listed filled
  | otherwise valued bare => exact .nodes (covers.closed here (.nodes (.otherwise valued bare)))
  | branch valued => exact .nodes (covers.closed here (.nodes (.branch valued)))
  | block => exact .nodes (covers.closed here (.nodes .block))
  | parent resolved =>
    exact .template fun other room =>
      covers.closed here (.template (.parent resolved) other room)
  | included resolved =>
    exact .template fun other room =>
      covers.closed here (.template (.included resolved) other room)
  | created valued resolved =>
    exact .template fun other room =>
      covers.closed here (.template (.created valued resolved) other room)

open Render in
/-- A run that is screened by what covers it is the run. -/
theorem Covers.screenedRun_eq [∀ node, DecidablePred (admits node)]
    (covers : Covers reached admits) {fuel : Nat} {rounds : List (Round setting)} {task : Task}
    {m : Machine} (due : Due reached rounds task m) :
    screenedRun setting admits fuel task m = run setting fuel task m := by
  induction fuel generalizing rounds task m with
  | zero => rfl
  | succ fuel ih =>
    cases due with
    | @nodes owner ns _ here =>
      show screenedNodes setting admits (screenedRun setting admits fuel) owner ns m =
        nodes setting (run setting fuel) owner ns m
      induction ns generalizing m with
      | nil => rfl
      | cons first rest rest_ih =>
        have same : guarded (admits first)
            (node setting (screenedRun setting admits fuel) owner first) m =
              node setting (run setting fuel) owner first m := by
          rw [guarded, if_pos (covers.admitted here)]
          exact node_congr fun task k begins => ih (covers.due here begins)
        rw [screenedNodes, nodes, bind_apply, bind_apply, same]
        cases ended : node setting (run setting fuel) owner first m with
        | done v n =>
          dsimp only
          split
          · rfl
          · rename_i goesOn
            have returns : node setting (run setting fuel) owner first m ≠ .outOfFuel := by
              simp [ended]
            have done := node_complete_of_run returns
            exact rest_ih (covers.closed here (.onward (by simpa using goesOn) (done.trans ended)))
        | failed error n => rfl
        | outOfFuel => rfl
    | @template t _ here =>
      show template setting (screenedRun setting admits fuel) t m =
        template setting (run setting fuel) t m
      rw [template_apply, template_apply]
      split
      · rfl
      · rename_i other
        split
        · rfl
        · rename_i room
          unfold entering around
          rw [ih (.nodes (here other (Nat.lt_of_not_le room)))]
    | @rest loop start m k context cursor counted before opened position here =>
      show iterate setting (screenedRun setting admits fuel) loop.owner loop.var loop.reversed
          loop.body loop.list cursor k { m with context } =
        iterate setting (run setting fuel) loop.owner loop.var loop.reversed loop.body loop.list
          cursor k { m with context }
      rw [iterate_apply, iterate_apply]
      have found : cursor.current ({ m with context } : Machine).host.heap loop.list =
          loop.item? k m := Loop.current_eq position m
      rw [found]
      cases inside : loop.item? k m with
      | none => rfl
      | some item =>
        dsimp only
        rw [Loop.bound_eq opened item]
        have body := ih (.nodes (here ⟨loop, start, k, m, item, counted, before, inside⟩ rfl rfl))
        have same : screenedRun setting admits fuel (.nodes loop.owner loop.body)
            (loop.entered setting k item m) =
              run setting fuel (.nodes loop.owner loop.body) (loop.entered setting k item m) := body
        rw [bind_apply, bind_apply, same]
        cases ended : run setting fuel (.nodes loop.owner loop.body)
            (loop.entered setting k item m) with
        | done v n =>
          have rendered : loop.BodyEnds setting (loop.entered setting k item m) (.done () n) :=
            ⟨by simp, fuel, ended⟩
          have opened : loop.Opened setting m.context n.context := Loop.opened_of_body rendered
          exact ih (@Due.rest _ _ _ _ _ { n with context := m.context } _ n.context _ counted
            (before.next inside rendered) opened (Loop.position_advance position) here)
        | failed error n => rfl
        | outOfFuel => rfl

/-- Whatever the fuel, the nodes that the render of a template begins are those to which it comes,
each of them at the first place of a point. -/
theorem Template.always_comes (setting : Setting) (fuel : Nat) (t : Template) (m : Machine) :
    t.Always (fun node k => ∃ point, t.Comes setting m point ∧
      point.nodes.head? = some node ∧ point.machine = k) setting fuel m := by
  classical
  have covers : Covers (t.Comes setting m) fun node k => ∃ point, t.Comes setting m point ∧
      point.nodes.head? = some node ∧ point.machine = k :=
    ⟨fun before enters => before.tail enters, fun here => ⟨_, here, rfl, rfl⟩⟩
  exact covers.screenedRun_eq (.template fun _ _ => .refl)

end Points

end TextTemplate

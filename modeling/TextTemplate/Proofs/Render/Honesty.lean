import TextTemplate.Proofs.Render.Point
/-!
# Which text a sink refused

A render writes where it begins a text or a variable, and nowhere else. So if it fails since a text
was refused, then the text is the one that such a node writes, and the sink is still as it was when
the node was begun. Texts that are captured for a file go to a sink that takes all of them, so it is
never one of those. Main statement: a refused text is what the first node writes of a point to which
the render comes (`Template.refused_at_point`).
-/
namespace TextTemplate

/-- The text that a node writes itself: a text is written as it is, and a variable as its value is
shown. The others leave the writing to what is in them. -/
def Node.written? (host : Host) (m : Machine) : Node → Option String
  | .text s => some s
  | .variable expr => some (Render.shown m.context (expr.eval host m.context m.host).1)
  | _ => none

namespace Render

variable {α β : Type} {setting : Setting} {admits : Node → Machine → Prop} {m : Machine}

/-- The sink refuses what a node writes that was begun with this very sink and is admitted. -/
def Refused (host : Host) (admits : Node → Machine → Prop) (sink : Sink) : Prop :=
  ∃ node k text, admits node k ∧ node.written? host k = some text ∧ k.sink = sink ∧
    sink.accepts sink.written text = false

/-- The sink keeps to its rule, and the render fails for a refused text only where an admitted node
writes one that is refused. -/
def Honest (host : Host) (admits : Node → Machine → Prop) (x : Render α) : Prop := ∀ m, (x m).Holds
  (fun _ n => n.sink.accepts = m.sink.accepts)
  (fun error n => n.sink.accepts = m.sink.accepts ∧
    (error = .refused → Refused host admits n.sink)) True

/-- What leaves the sink as it is and does not fail is honest. -/
theorem honest_of_done {x : Render α} (done : ∀ m, ∃ v n, x m = .done v n ∧ n.sink = m.sink) :
    Honest setting.host admits x := by
  intro m
  obtain ⟨v, n, ended, same⟩ := done m
  rw [ended]
  exact congrArg Sink.accepts same

/-- What fails with another error where it starts is honest. -/
theorem honest_fail {error : RenderError} (other : error ≠ .refused) :
    Honest setting.host admits (fail error : Render α) :=
  fun _ => ⟨rfl, fun same => absurd same other⟩

/-- Two honest renders in turn are honest. -/
theorem Honest.bind {x : Render α} {f : α → Render β} (first : Honest setting.host admits x)
    (second : ∀ v, Honest setting.host admits (f v)) : Honest setting.host admits (x >>= f) := by
  intro m
  rw [holds_bind]
  refine (first m).mono (fun v n same => ?_) (fun _ _ => id) id
  rw [← same]
  exact second v n

/-- It is honest to enter a state and leave it if both leave the sink alone. -/
theorem Honest.around {body : Render α} (inside : Honest setting.host admits body)
    {enter leave : Machine → Machine} (entered : ∀ m, (enter m).sink = m.sink)
    (left : ∀ n, (leave n).sink = n.sink) :
    Honest setting.host admits (around enter leave body) := by
  intro m
  rw [holds_around]
  have here := inside (enter m)
  rw [entered] at here
  refine here.mono (fun _ n same => ?_) (fun _ n told => ?_) id
  · rw [left]
    exact same
  · rw [left]
    exact told

/-- Putting the chain aside leaves the sink alone. -/
theorem Honest.detached {body : Render Unit} (inside : Honest setting.host admits body) :
    Honest setting.host admits (detached body) :=
  (honest_of_done fun m => ⟨_, m, rfl, rfl⟩).bind fun _ => inside.around (fun _ => rfl) fun _ => rfl

/-- The sink that captures refuses no text, so nothing is refused inside. -/
theorem Honest.captured {body : Render Unit} (inside : Honest setting.host admits body) :
    Honest setting.host admits (captured body) := by
  intro m
  rw [holds_captured]
  refine (inside _).mono (fun _ _ _ => rfl) (fun _ n told => ⟨rfl, fun same => ?_⟩) id
  obtain ⟨_, _, text, -, -, -, refuses⟩ := told.2 same
  rw [told.1] at refuses
  cases refuses

/-- A scope that is not closed in order is another error. -/
theorem Honest.inScope {body : Render Unit} (inside : Honest setting.host admits body) :
    Honest setting.host admits (inScope body) := by
  intro m
  have here := inside { m with context := m.context.push }
  unfold Render.inScope
  cases ended : body { m with context := m.context.push } with
  | outOfFuel => trivial
  | done v n =>
    rw [ended] at here
    dsimp only
    cases n.context.pop with
    | ok context => exact here
    | error fault => exact ⟨here, nofun⟩
  | failed error n =>
    rw [ended] at here
    dsimp only
    cases n.context.pop with
    | ok context => exact here
    | error fault => exact ⟨here.1, nofun⟩

/-- An error of loading is no refusal. -/
theorem honest_load (name : String) : Honest setting.host admits (load setting name) := by
  intro m
  rw [holds_load, Library.load_eq]
  cases m.library.get? (Library.normalise name) with
  | some t => rfl
  | none =>
    dsimp only
    cases fetched : Library.fetch setting.config m.files (Library.normalise name) with
    | ok t => rfl
    | error error =>
      rcases Library.fetch_error fetched with ⟨_, rfl⟩ | ⟨_, rfl⟩ | ⟨_, rfl⟩ <;> exact ⟨rfl, nofun⟩

/-- To resolve a template is honest: no text is written. -/
theorem honest_resolve (expr : Expr) : Honest setting.host admits (resolve setting expr) :=
  have evaluated : Honest setting.host admits (evaluate setting expr) :=
    honest_of_done fun m => ⟨_, { m with host := (expr.eval setting.host m.context m.host).2 }, rfl,
      rfl⟩
  evaluated.bind fun v => honest_load v.text

/-- A text that is written by an admitted node is taken, or it is the one that is refused. -/
theorem holds_emit_written {node : Node} {k : Machine} {text : String} (admitted : admits node k)
    (written : node.written? setting.host k = some text) (same : m.sink = k.sink) :
    (emit text m).Holds (fun _ n => n.sink.accepts = k.sink.accepts)
      (fun error n => n.sink.accepts = k.sink.accepts ∧
        (error = .refused → Refused setting.host admits n.sink)) True := by
  have rule : m.sink.accepts = k.sink.accepts := congrArg Sink.accepts same
  rw [holds_emit]
  split
  · exact rule
  · rename_i refuses
    exact ⟨rule, fun _ =>
      ⟨node, k, text, admitted, written, same.symm, by simpa using refuses⟩⟩

section Step

variable {run : Task → Render Unit} (inside : ∀ task, Honest setting.host admits (run task))

include inside

/-- A node is honest that is admitted, if the tasks inside it are. -/
theorem honest_guarded [∀ node, DecidablePred (admits node)] (owner : Template) (n : Node) :
    Honest setting.host admits (guarded (admits n) (node setting run owner n)) := by
  have evaluated : ∀ expr, Honest setting.host admits (evaluate setting expr) := fun expr =>
    honest_of_done fun m => ⟨_, _, rfl, rfl⟩
  have found : ∀ {γ : Type} (f : Machine → γ), Honest setting.host admits (reads f) := fun f =>
    honest_of_done fun m => ⟨_, m, rfl, rfl⟩
  intro m
  unfold guarded
  split
  · rename_i admitted
    cases n with
    | text s => exact holds_emit_written admitted rfl rfl
    | «variable» expr => exact holds_emit_written admitted rfl rfl
    | forEach var expr reversed body otherwise =>
      refine (evaluated expr).bind (fun v => ?_) m
      cases v.list? with
      | none => exact inside _
      | some list =>
        refine (found _).bind fun count => ?_
        split
        · exact (inside _).inScope
        · exact inside _
    | condition test negated yes no =>
      refine (evaluated test).bind (fun v => (found _).bind fun holds => ?_) m
      split <;> exact inside _
    | block name body => exact (found _).bind (fun chosen => inside _) m
    | inherits expr =>
      have overrides : ∀ t, Honest setting.host admits (overridden owner (run (.template t))) :=
        fun t => (inside _).around (fun _ => rfl) fun _ => rfl
      exact (honest_resolve expr).bind overrides m
    | includes expr => exact (honest_resolve expr).bind (fun t => (inside _).detached) m
    | creates file template line =>
      refine (evaluated file).bind (fun named => (honest_resolve template).bind fun t =>
        (inside _).detached.captured.bind fun content => ?_) m
      exact honest_of_done fun k => ⟨_, _, create_eq owner line named.text content k, rfl⟩
  · trivial

/-- Nodes that are screened are honest. -/
theorem honest_screenedNodes [∀ node, DecidablePred (admits node)] (owner : Template)
    (ns : List Node) : Honest setting.host admits (screenedNodes setting admits run owner ns) := by
  induction ns with
  | nil => exact honest_of_done fun m => ⟨_, m, rfl, rfl⟩
  | cons first rest ih =>
    refine (honest_guarded inside owner first).bind fun _ => ?_
    split
    · exact honest_of_done fun m => ⟨_, m, rfl, rfl⟩
    · exact ih

end Step

/-- A run is honest whose nodes are screened. -/
theorem honest_screenedRun [∀ node, DecidablePred (admits node)] (fuel : Nat) (task : Task) :
    Honest setting.host admits (screenedRun setting admits fuel task) := by
  induction fuel generalizing task with
  | zero => exact fun _ => trivial
  | succ fuel ih =>
    cases task with
    | nodes owner ns => exact honest_screenedNodes ih owner ns
    | template t =>
      refine (honest_of_done fun m => ⟨_, m, rfl, rfl⟩).bind fun active => ?_
      split
      · exact honest_fail (by simp)
      · split
        · exact honest_fail (by simp)
        · exact (ih (.nodes t t.nodes)).around (fun _ => rfl) fun _ => rfl
    | iterate owner var reversed body list cursor index =>
      intro m
      have later := (ih (.nodes owner body)).bind fun _ =>
        ih (.iterate owner var reversed body list (advance reversed cursor) (index + 1))
      show (iterate setting (screenedRun setting admits fuel) owner var reversed body list cursor
        index m).Holds _ _ True
      rw [iterate_apply]
      cases cursor.current m.host.heap list with
      | none => rfl
      | some item => exact later (bound setting var item list index m)

end Render

/-- If a text was refused, then the render came to a point whose first node writes it, and the sink,
which is still the one of that point, refuses it by the rule that it had from the start. -/
theorem Template.refused_at_point {setting : Setting} {fuel : Nat} {t : Template} {m n : Machine}
    (failed : t.render setting fuel m = .failed .refused n) :
    ∃ point node text, t.Comes setting m point ∧ point.nodes.head? = some node ∧
      node.written? setting.host point.machine = some text ∧ n.sink = point.machine.sink ∧
      n.sink.accepts = m.sink.accepts ∧ n.sink.accepts n.sink.written text = false := by
  classical
  have screened := (Template.always_comes setting fuel t m).screenedRun_eq
  have honest : Render.Honest setting.host (fun node k => ∃ point, t.Comes setting m point ∧
      point.nodes.head? = some node ∧ point.machine = k) (Render.screenedRun setting _ fuel
        (.template t)) := Render.honest_screenedRun fuel (.template t)
  replace honest := honest { m with active := [], chain := [], outcomes := #[] }
  rw [screened, failed] at honest
  obtain ⟨rule, told⟩ := honest
  obtain ⟨node, k, text, ⟨point, comes, first, rfl⟩, written, same, refuses⟩ := told rfl
  exact ⟨point, node, text, comes, first, written, same.symm, rule, refuses⟩

end TextTemplate

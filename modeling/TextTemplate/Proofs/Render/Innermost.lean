import TextTemplate.Proofs.Render.Point
/-!
# The innermost loop

Wherever a render comes, the context is the one in which the innermost iteration that is going on
began its body; a loop that has ended, an included template and a block that overrides another leave
no trace in it. So where loops bind `forloop`, it tells which iteration that is, and how many items
the list had when it began. Main statement: `Template.forloop_innermost`.
-/
namespace TextTemplate

/-! ### Contexts -/

section Contexts

variable {setting : Setting}

/-- The context around the nodes of a point: that of the innermost iteration, or the one in which
the render began if no iteration is going on. -/
def Point.around (point : Point setting) (outer : Context) : Context :=
  match point.rounds with
  | [] => outer
  | round :: _ => round.entered.context

/-- What a node begins, but for the iterations of a loop, it begins in the context of its own. -/
theorem Render.Begins.context_eq {owner : Template} {n : Node} {m k : Machine} {task : Task}
    (begins : Render.Begins setting owner n m task k)
    (whole : ∀ owner var reversed body list cursor index,
      task ≠ .iterate owner var reversed body list cursor index) : k.context = m.context := by
  have resolves : ∀ {expr : Expr} {m k : Machine} {t : Template},
      Render.resolve setting expr m = .done t k → k.context = m.context := fun resolved =>
    ((Render.steady_resolve _).returns resolved).context
  have evaluates : ∀ {expr : Expr} {m k : Machine} {v : Value},
      Render.evaluate setting expr m = .done v k → k.context = m.context := fun valued =>
    ((Render.steady_evaluate _).returns valued).context
  cases begins with
  | iterations => exact absurd rfl (whole _ _ _ _ _ _ _)
  | otherwise valued => exact evaluates valued
  | branch valued => exact evaluates valued
  | block => rfl
  | parent resolved | included resolved =>
    have back := resolves resolved
    exact back
  | created valued resolved => exact (resolves resolved).trans (evaluates valued)

/-- From point to point a render is in the context of the innermost iteration. -/
theorem context_of_enters {point next : Point setting} {outer : Context}
    (enters : Enters point next) (here : point.machine.context = point.around outer) :
    next.machine.context = next.around outer := by
  cases enters with
  | onward goesOn rendered =>
    have back := (Render.steady_node _ _).returns rendered
    exact back.context.trans here
  | nodes begins => exact (begins.context_eq nofun).trans here
  | template begins => exact (begins.context_eq nofun).trans here
  | round round begins => rfl

/-- Wherever a render comes, it is in the context of the innermost iteration. -/
theorem Template.Comes.context_eq {t : Template} {m : Machine} {point : Point setting}
    (comes : t.Comes setting m point) : point.machine.context = point.around m.context := by
  induction comes with
  | refl => rfl
  | tail before enters ih => exact context_of_enters enters ih

end Contexts

/-! ### What `forloop` tells -/

/-- In a context `forloop` describes the iteration after `k` others of a loop over a list of `n`
items. A countdown stops at zero, and reading a field changes nothing. -/
structure Context.Describes (host : Host) (context : Context) (k n : Nat) : Prop where
  /-- The iterations are counted from one. -/
  counter : ∀ state, (Operand.path "forloop" ["counter"]).eval host context state =
    (.ofCount (k + 1), state)
  /-- The iterations are counted from zero. -/
  counter0 : ∀ state, (Operand.path "forloop" ["counter0"]).eval host context state =
    (.ofCount k, state)
  /-- They are counted down to one at the last item. -/
  revcounter : ∀ state, (Operand.path "forloop" ["revcounter"]).eval host context state =
    (.ofCount (n - k), state)
  /-- They are counted down to zero at the last item. -/
  revcounter0 : ∀ state, (Operand.path "forloop" ["revcounter0"]).eval host context state =
    (.ofCount (n - k - 1), state)
  /-- The first iteration is told. -/
  first : ∀ state, (Operand.path "forloop" ["first"]).eval host context state =
    (.ofBool (k = 0), state)
  /-- The iteration of the last item is told. -/
  last : ∀ state, (Operand.path "forloop" ["last"]).eval host context state =
    (.ofBool (n ≤ k + 1), state)

/-- Where `forloop` is bound to the standing of a loop it describes that. -/
theorem Context.describes_of_get {context : Context} {info : LoopInfo} (host : Host)
    (bound : context.get "forloop" = .ofLoop info) :
    context.Describes host info.index info.total := by
  have settled : ∀ (name : String) (state : HostState),
      (info.field name).settle host state = (info.field name, state) := by
    intro name state
    unfold LoopInfo.field
    split <;> rfl
  have field : ∀ (name : String) (state : HostState),
      (Operand.path "forloop" [name]).eval host context state = (info.field name, state) := by
    intro name state
    rw [Operand.eval, bound]
    exact settled name state
  exact {
    counter := field "counter"
    counter0 := field "counter0"
    revcounter := field "revcounter"
    revcounter0 := fun state => by rw [Nat.sub_sub]; exact field "revcounter0" state
    first := fun state => by rw [← beq_eq_decide]; exact field "first" state
    last := field "last" }

namespace Round

variable {setting : Setting} (round : Round setting)

/-- An iteration binds `forloop`, also if that is the name of its variable. -/
theorem get_forloop (wanted : setting.config.loopMetadata = true) :
    round.entered.context.get "forloop" = .ofLoop ⟨round.index, round.total⟩ := by
  simp [Round.entered, Loop.entered, Loop.inner, wanted, Context.get, Context.get?_set, Round.total]

/-- If the list has as many items as when the loop began, the iteration is one of as many. -/
theorem index_lt (same : round.total = round.loop.count) : round.index < round.loop.count := by
  obtain ⟨p, position, here⟩ := Option.bind_eq_some_iff.mp round.inside
  have below : p < round.total := (Array.getElem?_eq_some_iff.mp here).1
  unfold Loop.position at position
  split at position
  · split at position
    · assumption
    · cases position
  · cases position
    rwa [same] at below

end Round

/-- Wherever a render comes, `forloop` describes the innermost iteration that is going on, as it was
when that began: the iterations before it and the items of the list. If these are as many as when
the loop began, the iteration is one of as many, and it is the last exactly if its number says so.
Outside of all loops the context is the one that was given. The places to which a render comes are
all those at which it begins a node, whatever the fuel. -/
theorem Template.forloop_innermost (setting : Setting)
    (wanted : setting.config.loopMetadata = true) (t : Template) (m : Machine) :
    (∀ fuel, t.Always (fun node k => ∃ point, t.Comes setting m point ∧
      point.nodes.head? = some node ∧ point.machine = k) setting fuel m) ∧
    ∀ point, t.Comes setting m point →
      (point.rounds = [] → point.machine.context = m.context) ∧
      ∀ round outer, point.rounds = round :: outer →
        point.machine.context.Describes setting.host round.index round.total ∧
        (round.total = round.loop.count → round.index < round.loop.count ∧
          (round.total ≤ round.index + 1 ↔ round.index = round.loop.count - 1)) := by
  refine ⟨fun fuel => Template.always_comes setting fuel t m, fun point comes => ⟨?_, ?_⟩⟩
  · intro none_
    rw [comes.context_eq, Point.around, none_]
  · intro round outer innermost
    have context : point.machine.context = round.entered.context := by
      rw [comes.context_eq, Point.around, innermost]
    refine ⟨?_, fun same => ?_⟩
    · rw [context]
      exact Context.describes_of_get _ (round.get_forloop wanted)
    · have inside := round.index_lt same
      exact ⟨inside, by omega⟩

/-- A loop that writes nothing. -/
def Node.idle : Node := .forEach "y" ⟨.path "xs" [], []⟩ false [] []

/-- A template that goes backwards through a list, through it again for every item, and on to
another template. -/
def Template.rows : Template where
  name := "rows"
  nodes := [.forEach "x" ⟨.path "xs" [], []⟩ true
    [.idle, .includes ⟨.literal (.text "countdown"), []⟩] []]
  blocks := ∅

/-- A template that writes how many items are left. -/
def Template.countdown : Template :=
  ⟨"countdown", [.variable ⟨.path "forloop" ["revcounter"], []⟩], ∅⟩

/-- A setting in which loops bind `forloop`. -/
def Setting.counting : Setting := ⟨.silent, { Config.default with loopMetadata := true }⟩

/-- A machine with a list of two texts that knows the template which is included, while the other
one is being rendered. -/
def Machine.rows : Machine :=
  { Machine.start (Table.insert ∅ "countdown" .countdown) (Context.set ∅ "xs" (.ofList ⟨0⟩))
      ⟨#[#[.ofText "a", .ofText "b"]], #[]⟩ with active := ["rows"] }

/-- The loop over the list. -/
def Loop.rows : Loop :=
  ⟨.rows, "x", true, [.idle, .includes ⟨.literal (.text "countdown"), []⟩], ⟨0⟩, 2⟩

/-- The machine in which its second iteration renders the body, if the first ended in the given
one. -/
def Machine.row (n : Machine) : Machine :=
  Loop.rows.entered .counting 1 (.ofText "a") { n with context := Machine.rows.context }

/-- In the template that is included for the last item, after the loop inside has ended, `forloop`
describes the second of two iterations. -/
theorem Template.forloop_innermost_rows : ∃ point, Template.rows.Comes .counting .rows point ∧
    point.owner.name = "countdown" ∧ point.machine.context.Describes .silent 1 2 := by
  -- the first iteration is done, in the second the loop inside ends, and the template is found
  obtain ⟨_, n, done, items, passes⟩ : ∃ v n,
      Render.run .counting 20 (.nodes Loop.rows.owner Loop.rows.body)
        (Loop.rows.entered .counting 0 (.ofText "b") .rows) = .done v n ∧
      n.host.heap.items ⟨0⟩ = #[.ofText "a", .ofText "b"] ∧
      ((Render.node .counting (Render.run .counting 20) .rows .idle >>= fun _ =>
          Render.resolve .counting ⟨.literal (.text "countdown"), []⟩) n.row).Holds
        (fun t l => t.name = "countdown" ∧ l.active = ["rows"]) (fun _ _ => False) False :=
    Ending.Holds.exists_done (by decide +kernel)
  obtain ⟨t, l, finds, name, active⟩ := passes.exists_done
  obtain ⟨_, k, idled, found⟩ := Render.done_bind.mp finds
  let round : Round .counting := {
    loop := .rows
    start := .rows
    index := 1
    begun := { n with context := Machine.rows.context }
    item := .ofText "a"
    counted := rfl
    reached := .next .entry rfl ⟨nofun, 20, done⟩
    inside := by simp [Loop.item?, Loop.position, Loop.rows, items] }
  have total : round.total = 2 := by simp [Round.total, Heap.count, round, Loop.rows, items]
  have ended := (Render.node_complete_of_run (by rw [idled]; nofun)).trans idled
  have comes : Template.rows.Comes .counting .rows (.first [round] t { l with chain := [] }) := by
    have begins : Render.Begins .counting .rows (.forEach "x" ⟨.path "xs" [], []⟩ true _ []) .rows
        (Loop.rows.rest (Render.begin true 2) 0) { Machine.rows with context := .push _ } :=
      .iterations rfl rfl (by decide)
    refine .tail (.tail (.tail .refl (.round round begins)) (.onward rfl ended))
      (.template (.included found) ?_ ?_)
    · simp [name, active]
    · simp only [active]
      decide
  refine ⟨_, comes, name, ?_⟩
  rw [← total]
  exact (((Template.forloop_innermost .counting rfl .rows .rows).2 _ comes).2 round [] rfl).1

end TextTemplate

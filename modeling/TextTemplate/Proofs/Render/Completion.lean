import TextTemplate.Proofs.Render.Frame
import Mathlib.Tactic.ByContra
/-!
# Renders without fuel

Fuel decides only how far a render gets: with more of it a render that ended ends in the same way
(`run_mono`). So a task has an ending of its own, which every sufficient fuel gives; `complete` is
this ending, or want of fuel if no fuel suffices. It satisfies the equation of a step whose inner
tasks are complete, so complete renders are reasoned about without fuel; where a proof needs an
induction over the iterations of a loop, `Loop` has it.
-/
namespace TextTemplate.Render

variable {α β : Type} {setting : Setting}

/-- From some fuel on, which may depend on the machine, the renders of a family end like its limit,
and before they want fuel. -/
def Settles (x : Option Nat → Render α) : Prop :=
  ∀ m, ∃ n, ∀ k, x (some k) m = if n ≤ k then x none m else .outOfFuel

/-- What does not depend on the fuel settles at once. -/
theorem settles_const (x : Render α) : Settles fun _ => x := fun _ => ⟨0, fun _ => rfl⟩

/-- A sequence settles if its parts do. -/
theorem Settles.bind {x : Option Nat → Render α} {f : Option Nat → α → Render β}
    (first : Settles x) (second : ∀ v, Settles fun i => f i v) : Settles fun i => x i >>= f i := by
  intro m
  obtain ⟨n, here⟩ := first m
  cases ended : x none m with
  | done v after =>
    obtain ⟨later, there⟩ := second v after
    refine ⟨max n later, fun k => ?_⟩
    have both : (max n later ≤ k) = (n ≤ k ∧ later ≤ k) := propext Nat.max_le
    simp only [bind_apply, here, ended, both]
    by_cases enough : n ≤ k <;> simp [enough, there]
  | failed error after =>
    refine ⟨n, fun k => ?_⟩
    simp only [bind_apply, here, ended]
    by_cases enough : n ≤ k <;> simp [enough]
  | outOfFuel =>
    refine ⟨n, fun k => ?_⟩
    simp only [bind_apply, here, ended]
    by_cases enough : n ≤ k <;> simp [enough]

/-- What is done around a render that settles does not unsettle it. -/
theorem Settles.around {body : Option Nat → Render α} (inside : Settles body)
    (enter leave : Machine → Machine) : Settles fun i => around enter leave (body i) := by
  intro m
  obtain ⟨n, here⟩ := inside (enter m)
  refine ⟨n, fun k => ?_⟩
  simp only [Render.around, here]
  by_cases enough : n ≤ k <;> simp [enough]

/-- A render without the overriding templates settles if it does with them. -/
theorem Settles.detached {body : Option Nat → Render Unit} (inside : Settles body) :
    Settles fun i => detached (body i) :=
  (settles_const _).bind fun _ => inside.around _ _

/-- A capture settles if the render that is captured does. -/
theorem Settles.captured {body : Option Nat → Render Unit} (inside : Settles body) :
    Settles fun i => captured (body i) :=
  (settles_const _).bind fun _ => (inside.bind fun _ => settles_const _).around _ _

/-- A render in a scope of its own settles if it does without. -/
theorem Settles.inScope {body : Option Nat → Render Unit} (inside : Settles body) :
    Settles fun i => inScope (body i) := by
  intro m
  obtain ⟨n, here⟩ := inside { m with context := m.context.push }
  refine ⟨n, fun k => ?_⟩
  simp only [Render.inScope, here]
  by_cases enough : n ≤ k <;> simp [enough]

/-- A template settles if its body does. -/
theorem Settles.template {body : Option Nat → Render Unit} (inside : Settles body) (t : Template) :
    Settles fun i => template setting (fun _ => body i) t := by
  refine (settles_const _).bind fun active => ?_
  split
  · exact settles_const _
  · split
    · exact settles_const _
    · exact inside.around _ _

/-- The trait of having a limit. -/
def settling : Trait (Option Nat) where
  whole := Settles
  inner := Settles
  entered _ := Settles

/-- The steps of a render settle if the renders they ask for do. -/
theorem compatible_settling (setting : Setting) : settling.Compatible fun _ => setting where
  pure _ := settles_const _
  bind := Settles.bind
  emit _ := settles_const _
  evaluate _ := settles_const _
  shown _ := settles_const _
  heap _ := settles_const _
  blockBody _ _ _ := settles_const _
  inherits _ _ _ inside := (settles_const _).bind fun t => (inside t).around _ _
  includes _ _ inside := (settles_const _).bind fun t => (inside t).detached
  captures _ _ inside := (settles_const _).bind fun t => (inside t).detached.captured
  create _ _ _ _ := settles_const _
  template t _ inside := Settles.template inside t
  inScope := Settles.inScope
  inner := id
  innerBind := Settles.bind
  bindName _ _ := settles_const _
  bindLoop _ _ := settles_const _

/-- A step has a limit if the tasks inside it have one. -/
theorem settles_step (setting : Setting) {runs : Option Nat → Task → Render Unit}
    (inside : ∀ task, Settles fun i => runs i task) (task : Task) :
    Settles fun i => step setting (runs i) task := by
  have meets : ∀ {task : Task} {x : Option Nat → Render Unit},
      settling.Meets task x ↔ Settles x := by
    intro task x
    cases task <;> exact Iff.rfl
  exact meets.mp ((compatible_settling setting).step (fun task => meets.mpr (inside task)) task)

/-- The runs of a task up to a fuel settle at the run with that fuel. -/
theorem settles_run (setting : Setting) (fuel : Nat) (task : Task) :
    Settles fun i => run setting ((i.map fun k => min k fuel).getD fuel) task := by
  induction fuel generalizing task with
  | zero => exact fun _ => ⟨0, fun k => by simp⟩
  | succ fuel ih =>
    have stepped := settles_step setting ih task
    intro m
    obtain ⟨n, here⟩ := stepped m
    refine ⟨n + 1, fun k => ?_⟩
    cases k with
    | zero => simp [run, starve]
    | succ k =>
      have here := here k
      simp only [Option.map_some, Option.getD_some, Option.map_none, Option.getD_none] at here ⊢
      rw [Nat.add_min_add_right, run, here]
      simp [run]

/-- More fuel does not change how a run ends that ended. -/
theorem run_mono {fuel more : Nat} {task : Task} {m : Machine}
    (ended : run setting fuel task m ≠ .outOfFuel) (le : fuel ≤ more) :
    run setting more task m = run setting fuel task m := by
  obtain ⟨n, here⟩ := settles_run setting more task m
  have here := here fuel
  simp only [Option.map_some, Option.getD_some, Option.map_none, Option.getD_none,
    Nat.min_eq_left le] at here
  by_cases enough : n ≤ fuel
  · rw [here, if_pos enough]
  · rw [if_neg enough] at here
    exact absurd here ended

open Classical in
/-- The ending of a task with all the fuel that it needs. -/
noncomputable def complete (setting : Setting) (task : Task) : Render Unit := fun m =>
  if ends : ∃ fuel, run setting fuel task m ≠ .outOfFuel then run setting ends.choose task m
  else .outOfFuel

/-- A run that ended gives the complete render. -/
theorem complete_of_run {fuel : Nat} {task : Task} {m : Machine}
    (ended : run setting fuel task m ≠ .outOfFuel) :
    complete setting task m = run setting fuel task m := by
  have ends : ∃ fuel, run setting fuel task m ≠ .outOfFuel := ⟨fuel, ended⟩
  rw [complete, dif_pos ends]
  rcases Nat.le_total fuel ends.choose with le | le
  · exact run_mono ended le
  · exact (run_mono ends.choose_spec le).symm

/-- A complete render that ended is a run. -/
theorem exists_run_of_complete {task : Task} {m : Machine}
    (ended : complete setting task m ≠ .outOfFuel) :
    ∃ fuel, run setting fuel task m = complete setting task m := by
  unfold complete at ended ⊢
  split at ended
  · rename_i ends
    exact ⟨ends.choose, by rw [dif_pos ends]⟩
  · exact absurd rfl ended

/-- A complete render ends as some run does. -/
theorem complete_eq_iff {task : Task} {m : Machine} {ending : Ending Unit}
    (ends : ending ≠ .outOfFuel) :
    complete setting task m = ending ↔ ∃ fuel, run setting fuel task m = ending := by
  constructor
  · rintro rfl
    exact exists_run_of_complete ends
  · rintro ⟨fuel, rfl⟩
    exact complete_of_run ends

/-- The runs of a task settle at its complete render. -/
theorem settles_complete (setting : Setting) (task : Task) :
    Settles fun i => i.elim (complete setting task) fun fuel => run setting fuel task := by
  intro m
  by_cases ended : complete setting task m = .outOfFuel
  · refine ⟨0, fun k => ?_⟩
    simp only [Option.elim_some, Option.elim_none, Nat.zero_le, if_true, ended]
    by_cases starved : run setting k task m = .outOfFuel
    · exact starved
    · exact absurd (complete_of_run starved ▸ ended) starved
  · obtain ⟨fuel, reached⟩ := exists_run_of_complete ended
    obtain ⟨n, here⟩ := settles_run setting fuel task m
    simp only [Option.map_some, Option.getD_some, Option.map_none, Option.getD_none] at here
    refine ⟨n, fun k => ?_⟩
    simp only [Option.elim_some, Option.elim_none, ← reached]
    rw [← reached] at ended
    rcases Nat.le_total k fuel with le | le
    · have here := here k
      rwa [Nat.min_eq_left le] at here
    · have enough : n ≤ fuel := by
        have here := here fuel
        rw [Nat.min_self] at here
        by_contra lacking
        rw [if_neg lacking] at here
        exact ended here
      rw [if_pos (Nat.le_trans enough le)]
      exact run_mono ended le

/-- With enough fuel, and with any more, a run is the complete render. -/
theorem run_of_complete (setting : Setting) (task : Task) (m : Machine) :
    ∃ n, ∀ fuel, n ≤ fuel → run setting fuel task m = complete setting task m := by
  obtain ⟨n, here⟩ := settles_complete setting task m
  refine ⟨n, fun fuel le => ?_⟩
  have here := here fuel
  rwa [if_pos le] at here

/-- A complete render is a step whose inner tasks are complete. -/
theorem complete_eq (task : Task) :
    complete setting task = step setting (complete setting) task := by
  funext m
  obtain ⟨n, here⟩ := settles_step setting (settles_complete setting) task m
  obtain ⟨k, there⟩ := settles_complete setting task m
  have here := here (max n k)
  have there := there (max n k + 1)
  simp only [Option.elim_some, Option.elim_none] at here there
  rw [if_pos (by omega)] at here there
  exact there.symm.trans here

/-- What holds of the ending of every run holds of the complete render. -/
theorem holds_complete {ok : Unit → Machine → Prop} {bad : RenderError → Machine → Prop}
    {starved : Prop} {task : Task} {m : Machine}
    (every : ∀ fuel, (run setting fuel task m).Holds ok bad starved) :
    (complete setting task m).Holds ok bad starved := by
  obtain ⟨n, here⟩ := run_of_complete setting task m
  have reached := every n
  rwa [here n n.le_refl] at reached

/-- A complete render of a template leaves the machine as a render leaves it. -/
theorem steady_complete_template (t : Template) :
    Steady setting.host (complete setting (.template t)) :=
  fun m => holds_complete fun fuel => steady_template fuel t m

/-- A complete render of nodes leaves the machine as a render leaves it. -/
theorem steady_complete_nodes (owner : Template) (ns : List Node) :
    Steady setting.host (complete setting (.nodes owner ns)) :=
  fun m => holds_complete fun fuel => steady_nodes fuel owner ns m

/-- A complete render leaves everything as it finds it which no render changes. -/
theorem steady_complete (task : Task) :
    (steadiness setting.host).Meets task fun _ => complete setting task := by
  cases task with
  | template t => exact steady_complete_template t
  | nodes owner ns => exact steady_complete_nodes owner ns
  | iterate owner var reversed body list cursor index =>
    exact fun m => holds_complete fun fuel =>
      leads_iterate fuel owner var reversed body list cursor index m

/-- So does a node whose parts are rendered completely. -/
theorem steady_node (owner : Template) (n : Node) :
    Steady setting.host (node setting (complete setting) owner n) :=
  (compatible_steadiness setting).node steady_complete owner n

/-- The iterations of a loop end off the list, or they are one iteration and the others. -/
theorem complete_iterate (owner : Template) (var : String) (reversed : Bool) (body : List Node)
    (list : ListRef) (cursor : Cursor) (index : Nat) (m : Machine) :
    complete setting (.iterate owner var reversed body list cursor index) m =
      match cursor.current m.host.heap list with
      | none => .done () m
      | some item =>
        (complete setting (.nodes owner body) >>= fun _ =>
          complete setting
            (.iterate owner var reversed body list (advance reversed cursor) (index + 1)))
          (bound setting var item list index m) := by
  rw [complete_eq, step]
  exact iterate_apply setting (complete setting) owner var reversed body list cursor index m

/-- No nodes are rendered by doing nothing. -/
theorem complete_nodes_nil (owner : Template) :
    complete setting (.nodes owner []) = Pure.pure () := by
  rw [complete_eq]
  rfl

/-- Nodes are the first of them, and then the others unless the first inherits. -/
theorem complete_nodes_cons (owner : Template) (first : Node) (rest : List Node) :
    complete setting (.nodes owner (first :: rest)) =
      node setting (complete setting) owner first >>= fun _ =>
        if isLast first then Pure.pure () else complete setting (.nodes owner rest) := by
  rw [complete_eq (.nodes owner rest), complete_eq]
  rfl

/-- A node that inherits renders the parent and is the last. -/
theorem complete_nodes_inherits (owner : Template) (parent : Expr) (after : List Node) :
    complete setting (.nodes owner (.inherits parent :: after)) =
      resolve setting parent >>= fun t => overridden owner (complete setting (.template t)) := by
  rw [complete_nodes_cons]
  exact bind_pure_unit

/-- Nodes none of which inherits are rendered, and then those after them. -/
theorem complete_nodes_append (owner : Template) {front : List Node}
    (goesOn : ∀ n ∈ front, isLast n = false) (back : List Node) :
    complete setting (.nodes owner (front ++ back)) =
      complete setting (.nodes owner front) >>= fun _ => complete setting (.nodes owner back) := by
  rw [complete_eq, complete_eq (.nodes owner front), complete_eq (.nodes owner back)]
  exact nodes_append setting (complete setting) owner goesOn back

/-- The iterations of a loop from the cursor on, no more of them than the fuel allows. -/
def rounds (setting : Setting) (body : Render Unit) (var : String) (reversed : Bool)
    (list : ListRef) : Nat → Cursor → Nat → Render Unit
  | 0, _, _ => starve
  | fuel + 1, cursor, index => do
    match ← reads fun m => cursor.current m.host.heap list with
    | none => return
    | some item =>
      bindName var item
      bindLoop setting list index
      body
      rounds setting body var reversed list fuel (advance reversed cursor) (index + 1)

section Rounds

variable {owner : Template} {var : String} {reversed : Bool} {body : List Node} {list : ListRef}
  {fuel : Nat} {cursor : Cursor} {index : Nat} {m : Machine}

/-- One round: at the end of the list nothing is done, before it the body and the other rounds. -/
theorem rounds_apply (setting : Setting) (x : Render Unit) (m : Machine) :
    rounds setting x var reversed list (fuel + 1) cursor index m =
      match cursor.current m.host.heap list with
      | none => .done () m
      | some item =>
        (x >>= fun _ =>
          rounds setting x var reversed list fuel (advance reversed cursor) (index + 1))
          (bound setting var item list index m) := by
  rw [rounds, bind_apply]
  unfold reads
  dsimp only
  cases cursor.current m.host.heap list with
  | none => rfl
  | some item =>
    unfold bindLoop bound
    cases setting.config.loopMetadata <;> rfl

/-- Rounds that end are the whole loop. -/
theorem complete_of_rounds
    (ended : rounds setting (complete setting (.nodes owner body)) var reversed list fuel cursor
      index m ≠ .outOfFuel) :
    complete setting (.iterate owner var reversed body list cursor index) m =
      rounds setting (complete setting (.nodes owner body)) var reversed list fuel cursor index
        m := by
  induction fuel generalizing cursor index m with
  | zero => exact absurd rfl ended
  | succ fuel ih =>
    rw [rounds_apply] at ended ⊢
    rw [complete_iterate]
    cases reported : cursor.current m.host.heap list with
    | none => rfl
    | some item =>
      simp only [reported, bind_apply] at ended ⊢
      cases inside : complete setting (.nodes owner body) (bound setting var item list index m) with
      | done v k =>
        simp only [inside] at ended ⊢
        exact ih ended
      | failed error k => rfl
      | outOfFuel => rfl

/-- A run of a loop that ends has no more rounds than it has fuel. -/
theorem rounds_of_run
    (ended : run setting fuel (.iterate owner var reversed body list cursor index) m ≠ .outOfFuel) :
    rounds setting (complete setting (.nodes owner body)) var reversed list fuel cursor index m =
      run setting fuel (.iterate owner var reversed body list cursor index) m := by
  induction fuel generalizing cursor index m with
  | zero => rfl
  | succ fuel ih =>
    rw [run, step, iterate_apply] at ended ⊢
    rw [rounds_apply]
    cases reported : cursor.current m.host.heap list with
    | none => rfl
    | some item =>
      simp only [reported, bind_apply] at ended ⊢
      have body_ended : run setting fuel (.nodes owner body) (bound setting var item list index m) ≠
          .outOfFuel := by
        intro starved
        rw [starved] at ended
        exact ended rfl
      rw [complete_of_run body_ended]
      cases inside : run setting fuel (.nodes owner body) (bound setting var item list index m) with
      | done v k =>
        simp only [inside] at ended ⊢
        exact ih ended
      | failed error k => rfl
      | outOfFuel => exact absurd inside body_ended

/-- With enough fuel, and with any more, the rounds of a loop are the whole loop. -/
theorem rounds_of_complete (setting : Setting) (owner : Template) (var : String) (reversed : Bool)
    (body : List Node) (list : ListRef) (cursor : Cursor) (index : Nat) (m : Machine) :
    ∃ n, ∀ fuel, n ≤ fuel →
      rounds setting (complete setting (.nodes owner body)) var reversed list fuel cursor index m =
        complete setting (.iterate owner var reversed body list cursor index) m := by
  obtain ⟨n, reached⟩ :=
    run_of_complete setting (.iterate owner var reversed body list cursor index) m
  refine ⟨n, fun fuel enough => ?_⟩
  by_cases starved : rounds setting (complete setting (.nodes owner body)) var reversed list fuel
      cursor index m = .outOfFuel
  · by_cases ended : run setting fuel (.iterate owner var reversed body list cursor index) m =
        .outOfFuel
    · rw [starved, ← reached fuel enough, ended]
    · rw [rounds_of_run ended, reached fuel enough]
  · exact (complete_of_rounds starved).symm

/-- The rounds of a loop may bind names in the innermost scope, as their bodies may not. -/
theorem leads_rounds {x : Render Unit} (steady : Steady setting.host x) (var : String)
    (reversed : Bool) (list : ListRef) (fuel : Nat) (cursor : Cursor) (index : Nat) :
    Within (Machine.Leads setting.host)
      (rounds setting x var reversed list fuel cursor index) := by
  induction fuel generalizing cursor index with
  | zero => exact fun _ => trivial
  | succ fuel ih =>
    intro m
    rw [rounds_apply]
    cases cursor.current m.host.heap list with
    | none => exact .refl setting.host m
    | some item =>
      have start : m.Leads setting.host (bound setting var item list index m) := by
        unfold bound
        cases setting.config.loopMetadata <;> exact { Machine.Leads.refl setting.host m with }
      have later := steady.leads.bind (fun _ => ih (advance reversed cursor) (index + 1))
        (fun _ _ _ => Machine.Leads.trans) (bound setting var item list index m)
      exact later.mono (fun _ _ => start.trans) (fun _ _ => start.trans) id

end Rounds

end TextTemplate.Render

import TextTemplate.Proofs.Render.Frame
/-!
# Screened renders

A screened run begins a node only in a machine in which a condition admits it; it ends as for want
of fuel where it would begin one in another machine. So what holds of every node that a render
begins and of the machine in which it does so (`Template.Always`) is told by a screened run that
ends like the render. A screened run that ends at all ends like the run, and like every run that is
screened by a weaker condition (`sparing_screenedRun`).
-/
namespace TextTemplate

namespace Render

variable {α β : Type}

section Definitions

/-- Do something if the condition allows the machine. -/
def guarded (allows : Machine → Prop) [DecidablePred allows] (x : Render α) : Render α := fun m =>
  if allows m then x m else .outOfFuel

variable (setting : Setting) (admits : Node → Machine → Prop) [∀ node, DecidablePred (admits node)]

/-- Render nodes in order like `nodes`, each of them guarded by its own condition. -/
def screenedNodes (run : Task → Render Unit) (owner : Template) : List Node → Render Unit
  | [] => pure ()
  | first :: rest => do
    guarded (admits first) (node setting run owner first)
    if isLast first then return else screenedNodes run owner rest

/-- Do a task like `step`, each node in it guarded by its own condition. -/
def screenedStep (run : Task → Render Unit) : Task → Render Unit
  | .nodes owner ns => screenedNodes setting admits run owner ns
  | task => step setting run task

/-- Do a task with the given fuel, each node guarded by its own condition. -/
def screenedRun : Nat → Task → Render Unit
  | 0, _ => starve
  | fuel + 1, task => screenedStep setting admits (screenedRun fuel) task

end Definitions

/-- The first render wants for fuel or ends like the second. -/
def Sparing (x y : Render α) : Prop := ∀ m, x m = .outOfFuel ∨ x m = y m

/-- A render ends like itself. -/
theorem sparing_refl (x : Render α) : Sparing x x := fun _ => .inr rfl

/-- A sequence is sparing if its parts are. -/
theorem Sparing.bind {x y : Render α} {f g : α → Render β} (first : Sparing x y)
    (second : ∀ v, Sparing (f v) (g v)) : Sparing (x >>= f) (y >>= g) := by
  intro m
  simp only [bind_apply]
  rcases first m with starved | same
  · rw [starved]
    exact .inl rfl
  · rw [same]
    cases y m with
    | done v n => exact second v n
    | failed error n => exact .inr rfl
    | outOfFuel => exact .inr rfl

/-- What is done around two renders keeps the first sparing. -/
theorem Sparing.around {x y : Render α} (inside : Sparing x y) (enter leave : Machine → Machine) :
    Sparing (around enter leave x) (around enter leave y) := by
  intro m
  simp only [Render.around]
  rcases inside (enter m) with starved | same
  · rw [starved]
    exact .inl rfl
  · rw [same]
    exact .inr rfl

/-- In scopes of their own renders stay sparing. -/
theorem Sparing.inScope {x y : Render Unit} (inside : Sparing x y) :
    Sparing (inScope x) (inScope y) := by
  intro m
  simp only [Render.inScope]
  rcases inside { m with context := m.context.push } with starved | same
  · rw [starved]
    exact .inl rfl
  · rw [same]
    exact .inr rfl

/-- Without the overriding templates renders stay sparing. -/
theorem Sparing.detached {x y : Render Unit} (inside : Sparing x y) :
    Sparing (detached x) (detached y) :=
  (sparing_refl _).bind fun _ => inside.around _ _

/-- Captured renders stay sparing. -/
theorem Sparing.captured {x y : Render Unit} (inside : Sparing x y) :
    Sparing (captured x) (captured y) :=
  (sparing_refl _).bind fun _ => (inside.bind fun _ => sparing_refl _).around _ _

/-- Two renders of a template are sparing if those of its body are. -/
theorem Sparing.template {x y : Render Unit} (inside : Sparing x y) (setting : Setting)
    (t : Template) :
    Sparing (template setting (fun _ => x) t) (template setting (fun _ => y) t) := by
  refine (sparing_refl _).bind fun active => ?_
  split
  · exact sparing_refl _
  · split
    · exact sparing_refl _
    · exact inside.around _ _

/-- The trait of two renders, the first of which may want for fuel where the second does not. -/
def sparing : Trait Bool where
  whole x := Sparing (x true) (x false)
  inner x := Sparing (x true) (x false)
  entered _ x := Sparing (x true) (x false)

/-- The steps of a render are sparing if the renders they ask for are. -/
theorem compatible_sparing (setting : Setting) : sparing.Compatible fun _ => setting where
  pure _ := sparing_refl _
  bind := Sparing.bind
  emit _ := sparing_refl _
  evaluate _ := sparing_refl _
  shown _ := sparing_refl _
  heap _ := sparing_refl _
  blockBody _ _ _ := sparing_refl _
  inherits _ _ _ inside := (sparing_refl _).bind fun t => (inside t).around _ _
  includes _ _ inside := (sparing_refl _).bind fun t => (inside t).detached
  captures _ _ inside := (sparing_refl _).bind fun t => (inside t).detached.captured
  create _ _ _ _ := sparing_refl _
  template t _ inside := Sparing.template inside setting t
  inScope := Sparing.inScope
  inner := id
  innerBind := Sparing.bind
  bindName _ _ := sparing_refl _
  bindLoop _ _ := sparing_refl _

section Guards

variable {setting : Setting}

/-- A stronger guard makes a render sparing. -/
theorem Sparing.guarded {strict loose : Machine → Prop} [DecidablePred strict]
    [DecidablePred loose] {x y : Render α} (inside : Sparing x y)
    (weaker : ∀ m, strict m → loose m) : Sparing (guarded strict x) (guarded loose y) := by
  intro m
  unfold Render.guarded
  by_cases allowed : strict m
  · rw [if_pos allowed, if_pos (weaker m allowed)]
    exact inside m
  · rw [if_neg allowed]
    exact .inl rfl

/-- A guarded render wants for fuel or ends like the render. -/
theorem sparing_guarded (allows : Machine → Prop) [DecidablePred allows] (x : Render α) :
    Sparing (Render.guarded allows x) x := by
  intro m
  unfold Render.guarded
  split
  · exact .inr rfl
  · exact .inl rfl

section Screens

variable {strict loose : Node → Machine → Prop} [∀ node, DecidablePred (strict node)]
  [∀ node, DecidablePred (loose node)]

/-- A step under a stronger condition is sparing, if what it asks for is. -/
theorem sparing_screenedStep (weaker : ∀ node m, strict node m → loose node m)
    {left right : Task → Render Unit} (inside : ∀ task, Sparing (left task) (right task))
    (task : Task) :
    Sparing (screenedStep setting strict left task) (screenedStep setting loose right task) := by
  have meets : ∀ task, sparing.Meets task fun i => (bif i then left else right) task := by
    intro task
    cases task <;> exact inside _
  cases task with
  | template t => exact (compatible_sparing setting).step meets (.template t)
  | iterate owner var reversed body list cursor index =>
    exact (compatible_sparing setting).step meets
      (.iterate owner var reversed body list cursor index)
  | nodes owner ns =>
    show Sparing (screenedNodes setting strict left owner ns)
      (screenedNodes setting loose right owner ns)
    induction ns with
    | nil => exact sparing_refl _
    | cons first rest ih =>
      have here : Sparing (node setting left owner first) (node setting right owner first) :=
        (compatible_sparing setting).node meets owner first
      refine (here.guarded (weaker first)).bind fun _ => ?_
      split
      · exact sparing_refl _
      · exact ih

/-- A screened run that ends, ends as it does with a weaker condition. -/
theorem sparing_screenedRun (weaker : ∀ node m, strict node m → loose node m) (fuel : Nat)
    (task : Task) :
    Sparing (screenedRun setting strict fuel task) (screenedRun setting loose fuel task) := by
  induction fuel generalizing task with
  | zero => exact sparing_refl _
  | succ fuel ih => exact sparing_screenedStep weaker ih task

/-- A condition that admits everything is none. -/
theorem screenedRun_true (fuel : Nat) (task : Task) :
    screenedRun setting (fun _ _ => True) fuel task = run setting fuel task := by
  have unscreened : ∀ (run : Task → Render Unit) owner ns,
      screenedNodes setting (fun _ _ => True) run owner ns = nodes setting run owner ns := by
    intro run owner ns
    induction ns with
    | nil => rfl
    | cons first rest ih =>
      have here : guarded (fun _ => True) (node setting run owner first) =
          node setting run owner first := by
        funext m
        exact if_pos trivial
      rw [screenedNodes, nodes, here, ih]
  induction fuel generalizing task with
  | zero => rfl
  | succ fuel ih =>
    have inside : screenedRun setting (fun _ _ => True) fuel = run setting fuel := funext ih
    rw [screenedRun, run, inside]
    cases task with
    | template t => rfl
    | iterate owner var reversed body list cursor index => rfl
    | nodes owner ns => exact unscreened _ owner ns

/-- A screened run is sparing of the run. -/
theorem sparing_run_of_screened (fuel : Nat) (task : Task) :
    Sparing (screenedRun setting strict fuel task) (run setting fuel task) := by
  have weaker : Sparing (screenedRun setting strict fuel task)
      (screenedRun setting (fun _ _ => True) fuel task) :=
    sparing_screenedRun (fun _ _ _ => trivial) fuel task
  rwa [screenedRun_true] at weaker

end Screens

/-- What is so wherever a render ends is so wherever it ends if it is guarded. -/
theorem Sparing.within {related : Machine → Machine → Prop} {x y : Render α}
    (sparing : Sparing x y) (always : Within related y) : Within related x := by
  intro m
  rcases sparing m with starved | same
  · rw [starved]
    trivial
  · rw [same]
    exact always m

/-- A screened run leaves the machine as a run does. -/
theorem steady_screenedRun {admits : Node → Machine → Prop} [∀ node, DecidablePred (admits node)]
    (fuel : Nat) (task : Task) :
    (steadiness setting.host).Meets task fun _ => screenedRun setting admits fuel task := by
  have back : (steadiness setting.host).Meets task fun _ => run setting fuel task :=
    steady_run fuel task
  cases task <;> exact (sparing_run_of_screened fuel _).within back

end Guards

end Render

open Classical in
/-- Whenever the render of a template begins a node, at any depth and in any of the templates that
it leads to, the node has the property with the machine. -/
def Template.Always (P : Node → Machine → Prop) (setting : Setting) (fuel : Nat) (t : Template)
    (m : Machine) : Prop :=
  Render.screenedRun setting P fuel (.template t)
    { m with active := [], chain := [], outcomes := #[] } = t.render setting fuel m

/-- A property that always holds screens nothing off, however it is decided. -/
theorem Template.Always.screenedRun_eq {P : Node → Machine → Prop}
    [decidable : ∀ node, DecidablePred (P node)] {setting : Setting} {fuel : Nat} {t : Template}
    {m : Machine} (always : t.Always P setting fuel m) :
    Render.screenedRun setting P fuel (.template t)
      { m with active := [], chain := [], outcomes := #[] } = t.render setting fuel m := by
  have same : decidable = fun node k => Classical.propDecidable (P node k) :=
    Subsingleton.elim _ _
  subst same
  exact always

/-- Whether a render ended, with an error or without one. -/
def Ending.isEnd {α : Type} : Ending α → Bool
  | .outOfFuel => false
  | _ => true

/-- It is enough that a run ends which is screened by a stronger condition. -/
theorem Template.always_of_screenedRun {P Q : Node → Machine → Prop}
    [∀ node, DecidablePred (P node)] {setting : Setting} {fuel : Nat} {t : Template} {m : Machine}
    (stronger : ∀ node k, P node k → Q node k)
    (ended : (Render.screenedRun setting P fuel (.template t)
      { m with active := [], chain := [], outcomes := #[] }).isEnd = true) :
    t.Always Q setting fuel m := by
  have enough : Render.screenedRun setting P fuel (.template t)
      { m with active := [], chain := [], outcomes := #[] } ≠ .outOfFuel := by
    intro starved
    rw [starved] at ended
    cases ended
  have render := (Render.sparing_run_of_screened fuel (.template t) _).resolve_left enough
  classical
  have loose := (Render.sparing_screenedRun stronger fuel (.template t) _).resolve_left enough
  exact loose.symm.trans render

/-- What follows from a property that always holds does so as well. -/
theorem Template.Always.mono {P Q : Node → Machine → Prop} {setting : Setting} {fuel : Nat}
    {t : Template} {m : Machine} (always : t.Always P setting fuel m)
    (weaker : ∀ node k, P node k → Q node k) : t.Always Q setting fuel m := by
  classical
  have loose : Render.Sparing (Render.screenedRun setting Q fuel (.template t))
      (Render.run setting fuel (.template t)) := Render.sparing_run_of_screened fuel (.template t)
  -- a looser run that starves lets the stricter one starve, and so the render
  rcases loose { m with active := [], chain := [], outcomes := #[] } with starved | same
  · rcases Render.sparing_screenedRun weaker fuel (.template t) _ with empty | alike
    · exact starved.trans (empty.symm.trans always)
    · exact alike.symm.trans always
  · exact same

end TextTemplate

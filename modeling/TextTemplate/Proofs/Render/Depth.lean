import TextTemplate.Proofs.Render.Frame
/-!
# The depth as a guard

How many templates may be rendered inside one another decides whether a render is stopped and
nothing else. Two renders that differ in that number alone do the same until the first of them is
stopped by it, and no part of a render recovers from being stopped. Main statement: a render that is
not too deep ends in the same way, in the same machine, with every larger number
(`Template.render_withDepth`).
-/
namespace TextTemplate

/-- The setting with another number of templates that may be rendered inside one another. -/
def Setting.withDepth (setting : Setting) (depth : Nat) : Setting :=
  { setting with config := { setting.config with maxDepth := depth } }

/-- A render was stopped since too many templates were rendered inside one another. -/
def Ending.TooDeep {α : Type} (ending : Ending α) : Prop :=
  ∃ limit name m, ending = .failed (.tooDeep limit name) m

namespace Render

variable {α β : Type} {setting : Setting}

/-- The first render is too deep, or it ends like the second. -/
def Confined (x y : Render α) : Prop := ∀ m, (x m).TooDeep ∨ x m = y m

/-- A render is confined to itself. -/
theorem confined_refl (x : Render α) : Confined x x := fun _ => .inr rfl

/-- Sequences are confined if their parts are. -/
theorem Confined.bind {x y : Render α} {f g : α → Render β} (first : Confined x y)
    (second : ∀ v, Confined (f v) (g v)) : Confined (x >>= f) (y >>= g) := by
  intro m
  rcases first m with ⟨limit, name, n, stopped⟩ | same
  · exact .inl ⟨limit, name, n, failed_bind stopped⟩
  · rw [bind_apply, bind_apply, same]
    cases y m with
    | done v n => exact second v n
    | failed error n => exact .inr rfl
    | outOfFuel => exact .inr rfl

/-- What is done around two renders keeps the first confined to the second. -/
theorem Confined.around {x y : Render α} (inside : Confined x y) (enter leave : Machine → Machine) :
    Confined (around enter leave x) (around enter leave y) := by
  intro m
  unfold Render.around
  rcases inside (enter m) with ⟨limit, name, n, stopped⟩ | same
  · exact .inl ⟨limit, name, leave n, by rw [stopped]⟩
  · rw [same]
    exact .inr rfl

/-- Without the overriding templates a render stays confined. -/
theorem Confined.detached {x y : Render Unit} (inside : Confined x y) :
    Confined (detached x) (detached y) :=
  (confined_refl _).bind fun _ => inside.around _ _

/-- A capture stays confined. -/
theorem Confined.captured {x y : Render Unit} (inside : Confined x y) :
    Confined (captured x) (captured y) :=
  (confined_refl _).bind fun _ => (inside.bind fun _ => confined_refl _).around _ _

/-- Being stopped is the error of a scope as well, since the scope can be closed. -/
theorem Confined.inScope {host : Host} {x y : Render Unit} (inside : Confined x y)
    (leads : Within (Machine.Leads host) x) (leads' : Within (Machine.Leads host) y) :
    Confined (inScope x) (inScope y) := by
  intro m
  rw [inScope_eq_around leads, inScope_eq_around leads']
  exact inside.around _ _ m

/-- A template that may be rendered may be with a larger number; that it is being rendered already
is found out first. -/
theorem Confined.template {x y : Render Unit} (inside : Confined x y) {depth more : Nat}
    (le : depth ≤ more) (t : Template) :
    Confined (template (setting.withDepth depth) (fun _ => x) t)
      (template (setting.withDepth more) (fun _ => y) t) := by
  intro m
  rw [template_apply, template_apply]
  by_cases cyclic : t.name ∈ m.active
  · rw [if_pos cyclic, if_pos cyclic]
    exact .inr rfl
  · rw [if_neg cyclic, if_neg cyclic]
    by_cases deep : depth ≤ m.active.length
    · exact .inl ⟨depth, t.name, m, if_pos deep⟩
    · have shallow : ¬ more ≤ m.active.length := by omega
      have left : ¬ (setting.withDepth depth).config.maxDepth ≤ m.active.length := deep
      have right : ¬ (setting.withDepth more).config.maxDepth ≤ m.active.length := shallow
      rw [if_neg left, if_neg right]
      exact inside.around _ _ m

/-- The trait of two renders, the first of which may be too deep where the second is not. -/
def confining : Trait Bool where
  whole x := Confined (x true) (x false)
  inner x := Confined (x true) (x false)
  entered _ x := Confined (x true) (x false)

/-- Two settings that differ in the depth, the first of them with the smaller one. -/
def depths (setting : Setting) (depth more : Nat) (first : Bool) : Setting :=
  setting.withDepth (bif first then depth else more)

/-- With a smaller limit every operation is confined to itself with a larger one. -/
theorem operable_confining (setting : Setting) {depth more : Nat} (le : depth ≤ more) :
    confining.Operable (depths setting depth more) where
  pure _ := confined_refl _
  bind := Confined.bind
  emit _ := confined_refl _
  evaluate _ := confined_refl _
  shown _ := confined_refl _
  heap _ := confined_refl _
  blockBody _ _ _ := confined_refl _
  inherits _ _ _ inside := (confined_refl _).bind fun t => (inside t).around _ _
  includes _ _ inside := (confined_refl _).bind fun t => (inside t).detached
  captures _ _ inside := (confined_refl _).bind fun t => (inside t).detached.captured
  create _ _ _ _ := confined_refl _
  template t _ inside := Confined.template inside le t
  inner := id
  innerBind := Confined.bind
  bindName _ _ := confined_refl _
  bindLoop _ _ := confined_refl _

/-- A run with the smaller depth is too deep, or it ends like the run with the larger one. -/
theorem confined_run {depth more : Nat} (le : depth ≤ more) (fuel : Nat) (task : Task) :
    Confined (run (setting.withDepth depth) fuel task)
      (run (setting.withDepth more) fuel task) := by
  have starved : ∀ task, confining.Meets task fun _ => starve := by
    intro task
    cases task <;> exact confined_refl _
  have confined := (operable_confining setting le).run (fun _ => rfl)
    (fun leads inside => Confined.inScope inside (leads true) (leads false)) starved fuel task
  cases task <;> exact confined

end Render

/-- The number of templates that may be rendered inside one another is a guard and nothing else: a
render that is not stopped by it ends with every larger number as it does with this one, with the
same error or with none, and in the same machine. -/
theorem Template.render_withDepth {setting : Setting} {depth more fuel : Nat} {t : Template}
    {m : Machine} (le : depth ≤ more)
    (shallow : ¬ (t.render (setting.withDepth depth) fuel m).TooDeep) :
    t.render (setting.withDepth more) fuel m = t.render (setting.withDepth depth) fuel m := by
  have confined : Render.Confined (Render.run (setting.withDepth depth) fuel (.template t))
      (Render.run (setting.withDepth more) fuel (.template t)) := Render.confined_run le fuel _
  have here := confined { m with active := [], chain := [], outcomes := #[] }
  exact (here.resolve_left shallow).symm

/-- A template that writes its name and includes another one. -/
def Template.announcing (name other : String) : Template where
  name := name
  nodes := [.text name, .includes ⟨.literal (.text other), []⟩]
  blocks := ∅

/-- A machine that knows two templates which include one another. -/
def Machine.ring : Machine :=
  .start (Table.insert (Table.insert ∅ "a" (.announcing "a" "b")) "b" (.announcing "b" "a")) ∅ ∅

/-- So it is where the smaller depth just suffices to find that templates include one another. -/
theorem Template.render_withDepth_announcing :
    ∃ n, (Template.announcing "a" "b").render (Setting.withDepth ⟨.silent, default⟩ 64) 20 .ring =
      .failed (.cycle ["a", "b", "a"]) n ∧ n.sink.text = "ab" := by
  obtain ⟨error, n, failed, rfl, text⟩ : ∃ error n, (Template.announcing "a" "b").render
      (Setting.withDepth ⟨.silent, default⟩ 2) 20 .ring = .failed error n ∧
      error = .cycle ["a", "b", "a"] ∧ n.sink.text = "ab" :=
    Ending.Holds.exists_failed (by decide +kernel)
  have shallow : ¬ ((Template.announcing "a" "b").render
      (Setting.withDepth ⟨.silent, default⟩ 2) 20 .ring).TooDeep := by
    rintro ⟨limit, name, k, stopped⟩
    rw [failed] at stopped
    cases stopped
  have same := Template.render_withDepth (by decide : 2 ≤ 64) shallow
  exact ⟨n, same.trans failed, text⟩

end TextTemplate

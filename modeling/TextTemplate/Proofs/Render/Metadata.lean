import TextTemplate.Proofs.Render.Visibility
/-!
# Loops with and without `forloop`

A setting may have every loop bind `forloop` beside its variable. The binding is seen in all that is
rendered inside the loop: in loops in it, in templates that are included, in bodies that override a
block. It changes nothing for templates that do not mention the name, even where a loop has a
variable of that name. Main statement: a render of known templates none of which mentions `forloop`
ends in the same way and in the same machine with the setting and without it
(`Template.render_withMetadata`).
-/
namespace TextTemplate

/-- The setting in which loops bind `forloop`, or the one in which they do not. -/
def Setting.withMetadata (setting : Setting) (bound : Bool) : Setting :=
  { setting with config := { setting.config with loopMetadata := bound } }

/-- Whether loops bind `forloop` does not matter to a library that does not mention it. -/
theorem Library.suits_withMetadata {library : Library} (unmentioned : ¬ library.Mentions "forloop")
    (setting : Setting) (bound other : Bool) :
    library.visible.Suits (setting.withMetadata bound) (setting.withMetadata other) :=
  ⟨rfl, rfl, rfl, .inr unmentioned⟩

/-- Binding `forloop` in loops adds nothing that templates see which do not mention it. If a render
of a known template ends in which loops bind it, or do not, and which asks for known templates
alone, then it ends in the same way if loops do not, or do: with the same error or with none, the
same text, the same files and outcomes, the same heap and the same journal. -/
theorem Template.render_withMetadata {setting : Setting} {fuel : Nat} {key : String} {t : Template}
    {m : Machine} {bound : Bool} (known : m.library.get? key = some t)
    (unmentioned : ¬ m.library.Mentions "forloop")
    (served : t.Always (Node.Served m.library setting.host) (setting.withMetadata bound) fuel m)
    (ended : (t.render (setting.withMetadata bound) fuel m).isEnd = true) (other : Bool) :
    t.render (setting.withMetadata other) fuel m =
      t.render (setting.withMetadata bound) fuel m := by
  have step : Render.InStep m.library.visible False Eq
      (Render.screenedRun (setting.withMetadata bound) (Node.Served m.library setting.host) fuel
        (.template t))
      (Render.run (setting.withMetadata other) fuel (.template t))
      { m with active := [], chain := [], outcomes := #[] }
      { m with active := [], chain := [], outcomes := #[] } :=
    Render.inStep_screenedRun_of_suits (m.library.trusts_served (setting.withMetadata bound))
      (Library.suits_withMetadata unmentioned setting bound other) False.elim fuel
      (Kin.agreeing (.refl _ m.context)) (.template (Library.reads_of_get? known))
  unfold Render.InStep at step
  rw [served.screenedRun_eq] at step
  cases first : t.render (setting.withMetadata bound) fuel m with
  | outOfFuel =>
    rw [first] at ended
    cases ended
  | done _ n =>
    rw [first] at step
    obtain ⟨_, n', second, -, kin, beside⟩ := step
    have second : t.render (setting.withMetadata other) fuel m = .done () n' := second
    have context : n'.context = n.context :=
      (Template.context_render (.inl second)).trans (Template.context_render (.inl first)).symm
    rw [second, kin.eq_of_beside beside rfl rfl rfl, context]
  | failed error n =>
    rw [first] at step
    obtain ⟨n', second, kin, beside⟩ := step
    have second : t.render (setting.withMetadata other) fuel m = .failed error n' := second
    have context : n'.context = n.context :=
      (Template.context_render (.inr ⟨error, second⟩)).trans
        (Template.context_render (.inr ⟨error, first⟩)).symm
    rw [second, kin.eq_of_beside beside rfl rfl rfl, context]

/-- A template that goes through a list inside a loop over the same list, whose variable has the
name in question, and includes another template there. -/
def Template.pairings : Template where
  name := "pairings"
  nodes := [.forEach "forloop" ⟨.path "xs" [], []⟩ false
    [.forEach "x" ⟨.path "xs" [], []⟩ true [.includes ⟨.literal (.text "entry"), []⟩] []] []]
  blocks := ∅

/-- A machine with a list of two texts that knows it and the template which it includes. -/
def Machine.pairing : Machine :=
  .start (Table.insert (Table.insert ∅ "pairings" .pairings) "entry" .entry)
    (Context.set ∅ "xs" (.ofList ⟨0⟩)) ⟨#[#[.ofText "a", .ofText "b"]], #[]⟩

/-- So it is where loops are nested and a loop has a variable named `forloop`. -/
theorem Template.render_withMetadata_pairings :
    ∃ n, Template.pairings.render (Setting.withMetadata ⟨.silent, default⟩ true) 20 .pairing =
        .done () n ∧
      Template.pairings.render (Setting.withMetadata ⟨.silent, default⟩ false) 20 .pairing =
        .done () n ∧ n.sink.text = "baba" := by
  obtain ⟨_, n, done, text⟩ : ∃ v n, Template.pairings.render
      (Setting.withMetadata ⟨.silent, default⟩ true) 20 .pairing = .done v n ∧
      n.sink.text = "baba" :=
    Ending.Holds.exists_done (by decide +kernel)
  have served : Template.pairings.Always (Node.Served Machine.pairing.library .silent)
      (Setting.withMetadata ⟨.silent, default⟩ true) 20 .pairing :=
    Template.always_of_screenedRun (fun _ _ => id) (by decide +kernel)
  have known : Machine.pairing.library.get? "pairings" = some Template.pairings := by
    simp [Machine.pairing, Machine.start]
  have unmentioned : ¬ Machine.pairing.library.Mentions "forloop" := by
    rintro ⟨key, t, known, mentions⟩
    simp only [Machine.pairing, Machine.start, Table.get?_insert] at known
    split at known
    · cases known
      simp [Template.Mentions, Node.Mentions, Template.entry, Node.all, Node.exprs] at mentions
    · split at known
      · cases known
        simp [Template.Mentions, Node.Mentions, Template.pairings, Node.all, Node.exprs]
          at mentions
      · cases known
  have ended : (Template.pairings.render (Setting.withMetadata ⟨.silent, default⟩ true) 20
      .pairing).isEnd = true := by
    rw [done]
    rfl
  have same := @Template.render_withMetadata ⟨.silent, default⟩ 20 "pairings" .pairings .pairing
    true known unmentioned served ended false
  exact ⟨n, done, same.trans done, text⟩

end TextTemplate

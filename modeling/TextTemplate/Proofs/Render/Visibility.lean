import TextTemplate.Proofs.Render.InStep
/-!
# What a render sees of its context

A render looks names up and nothing else: over which scopes they are spread, and what is bound to
names that no template mentions, makes no difference. Main statement: from two contexts that agree
on the names mentioned in the templates that are known, renders that ask for known templates alone
end in the same way and in the same machine but for the context (`Template.render_agreeing`).
-/
namespace TextTemplate

/-- A path in the forest starts from the name. -/
def Node.Mentions (forest : List Node) (name : String) : Prop :=
  ∃ node ∈ Node.allIn forest, ∃ expr ∈ node.exprs, ∃ fields, expr.operand = .path name fields

/-- A path in the template, or in a body that it has for a block, starts from the name. -/
def Template.Mentions (t : Template) (name : String) : Prop :=
  Node.Mentions t.nodes name ∨
    ∃ block body, t.blocks.get? block = some body ∧ Node.Mentions body name

/-- A path in one of the templates starts from the name. -/
def Library.Mentions (library : Library) (name : String) : Prop :=
  ∃ key t, library.get? key = some t ∧ t.Mentions name

/-- The expressions of a template in a library start from names that the library mentions. -/
theorem Library.reads_of_get? {library : Library} {key : String} {t : Template}
    (known : library.get? key = some t) : t.Reads library.Mentions where
  nodes node inside expr member _ fields starts :=
    ⟨key, t, known, .inl ⟨node, inside, expr, member, fields, starts⟩⟩
  blocks block body bound node inside expr member _ fields starts :=
    ⟨key, t, known, .inr ⟨block, body, bound, node, inside, expr, member, fields, starts⟩⟩

/-- The leeway of renders whose contexts agree on what a library mentions. -/
def Library.visible (library : Library) : Leeway where
  names := library.Mentions
  lines := Eq
  own := []
  library := library
  same_line _ := rfl

/-- Whoever is served by a library gets templates whose expressions start from names in it. -/
theorem Library.trusts_served (library : Library) (setting : Setting) :
    library.visible.Trusts setting (Node.Served library setting.host) := by
  intro node expr m t k served within operand resolved
  obtain ⟨name, other, -, known, there⟩ := Render.resolve_of_served within operand served
  rw [resolved] at there
  cases there
  exact Library.reads_of_get? known

namespace Kin

variable {library : Library} {m n m' n' : Machine}

/-- A machine is kin to itself in a context that agrees on what its library mentions. -/
theorem agreeing {m : Machine} {a b : Context} (agrees : a.Agrees m.library.Mentions b) :
    Kin m.library.visible { m with context := a, active := [], chain := [], outcomes := #[] }
      { m with context := b, active := [], chain := [], outcomes := #[] } where
  heap := rfl
  files := rfl
  context := agrees
  sink := .refl m.sink
  active := rfl
  chain := rfl
  reads _ member := absurd member List.not_mem_nil
  library := rfl
  own _ member := absurd member List.not_mem_nil
  knows := .refl m.library

/-- Kin machines differ in the context alone if the same was done on the way to them. -/
theorem eq_of_beside (kin : Kin library.visible m' n') (beside : Beside library.visible m n m' n')
    (sinks : m.sink = n.sink) (journals : m.host.journal = n.host.journal)
    (outcomes : m.outcomes = n.outcomes) : n' = { m' with context := n'.context } := by
  have sink : n'.sink = m'.sink := by
    obtain ⟨texts, left, right⟩ := beside.texts
    rw [left, right, sinks]
  have host : n'.host = m'.host := by
    have journal : n'.host.journal = m'.host.journal := by
      obtain ⟨acts, left, right⟩ := beside.journal
      rw [left, right, journals]
    have heap := kin.heap.symm
    obtain ⟨host⟩ := n'
    obtain ⟨host'⟩ := m'
    cases host
    cases host'
    simp_all
  have known : n'.library = m'.library := by
    have entries := kin.library
    simp only [Library.visible, List.not_mem_nil, not_false_eq_true, decide_true,
      List.filter_true] at entries
    exact congrArg Table.mk entries.symm
  have outcomes : n'.outcomes = m'.outcomes := by
    obtain ⟨more, more', left, right, akin⟩ := beside.outcomes
    have same : more = more' := by
      refine List.forall₂_eq_eq_eq ▸ akin.imp fun first second akin => ?_
      cases akin with
      | same outcome => rfl
      | nameless path owner lines => rw [show _ = _ from lines]
    rw [← Array.toList_inj, left, right, same, outcomes]
  have files := kin.files.symm
  have active := kin.active.symm
  have chain := kin.chain.symm
  cases n'
  cases m'
  simp_all

end Kin

/-- A context matters by the names that the known templates mention, its output directory and its
escaper. With another context that agrees on them, a render of a known template which asks for known
templates alone is done or fails with the same error, and the machine in which it ends is the same
but for the context: the text, the files and what became of them, the heap and all that was done. -/
theorem Template.render_agreeing {setting : Setting} {fuel : Nat} {key : String} {t : Template}
    {m : Machine} {a b : Context} (known : m.library.get? key = some t)
    (agrees : a.Agrees m.library.Mentions b)
    (served : t.Always (Node.Served m.library setting.host) setting fuel { m with context := a }) :
    (∀ n, t.render setting fuel { m with context := a } = .done () n →
      t.render setting fuel { m with context := b } = .done () { n with context := b }) ∧
    ∀ error n, t.render setting fuel { m with context := a } = .failed error n →
      t.render setting fuel { m with context := b } = .failed error { n with context := b } := by
  have step : Render.InStep m.library.visible False Eq
      (Render.screenedRun setting (Node.Served m.library setting.host) fuel (.template t))
      (Render.run setting fuel (.template t)) _ _ :=
    Render.inStep_screenedRun (m.library.trusts_served setting) False.elim fuel
      (Kin.agreeing agrees) (.template (Library.reads_of_get? known))
  unfold Render.InStep at step
  have screened : Render.screenedRun setting (Node.Served m.library setting.host) fuel (.template t)
      { m with context := a, active := [], chain := [], outcomes := #[] } =
      t.render setting fuel { m with context := a } := served.screenedRun_eq
  rw [screened] at step
  constructor
  · intro n done
    rw [done] at step
    obtain ⟨_, n', there, -, kin, beside⟩ := step
    have done' : t.render setting fuel { m with context := b } = .done () n' := there
    have context : n'.context = b := Template.context_render (.inl done')
    rw [done', kin.eq_of_beside beside rfl rfl rfl, context]
  · intro error n failed
    rw [failed] at step
    obtain ⟨n', there, kin, beside⟩ := step
    have failed' : t.render setting fuel { m with context := b } = .failed error n' := there
    have context : n'.context = b := Template.context_render (.inr ⟨error, failed'⟩)
    rw [failed', kin.eq_of_beside beside rfl rfl rfl, context]

/-- A template that writes a title and, for every item of a list, includes another one. -/
def Template.catalogue : Template where
  name := "catalogue"
  nodes := [.variable ⟨.path "title" [], []⟩, .forEach "x" ⟨.path "xs" [], []⟩ false
    [.includes ⟨.literal (.text "entry"), []⟩] []]
  blocks := ∅

/-- A template that writes what is bound to a name. -/
def Template.entry : Template := ⟨"entry", [.variable ⟨.path "x" [], []⟩], ∅⟩

/-- A machine with a list of two texts that knows both templates. -/
def Machine.catalogues : Machine :=
  .start (Table.insert (Table.insert ∅ "catalogue" .catalogue) "entry" .entry) ∅
    ⟨#[#[.ofText "a", .ofText "b"]], #[]⟩

/-- A context that binds a title and a list in one scope. -/
def Context.flat : Context := (Context.set ∅ "title" (.ofText "T")).set "xs" (.ofList ⟨0⟩)

/-- A context that binds them in two scopes, hides another list, and binds one name more. -/
def Context.layered : Context :=
  (((Context.set ∅ "xs" (.ofText "")).set "title" (.ofText "T")).push.set "xs" (.ofList ⟨0⟩)).set
    "price" (.ofText "9")

/-- So it is where the bindings are spread over different scopes, and a loop goes on binding. -/
theorem Template.render_agreeing_catalogue :
    ∃ n, Template.catalogue.render ⟨.silent, default⟩ 20
        { Machine.catalogues with context := .flat } = .done () n ∧
      Template.catalogue.render ⟨.silent, default⟩ 20
        { Machine.catalogues with context := .layered } = .done () { n with context := .layered } ∧
      n.sink.text = "Tab" := by
  obtain ⟨_, n, done, text⟩ : ∃ v n, Template.catalogue.render ⟨.silent, default⟩ 20
      { Machine.catalogues with context := .flat } = .done v n ∧ n.sink.text = "Tab" :=
    Ending.Holds.exists_done (by decide +kernel)
  have served : Template.catalogue.Always (Node.Served Machine.catalogues.library .silent)
      ⟨.silent, default⟩ 20 { Machine.catalogues with context := .flat } :=
    Template.always_of_screenedRun (fun _ _ => id) (by decide +kernel)
  have mentioned : ¬ Machine.catalogues.library.Mentions "price" := by
    rintro ⟨key, t, known, mentions⟩
    simp only [Machine.catalogues, Machine.start, Table.get?_insert] at known
    split at known
    · cases known
      simp [Template.Mentions, Node.Mentions, Template.entry, Node.all, Node.exprs] at mentions
    · split at known
      · cases known
        simp [Template.Mentions, Node.Mentions, Template.catalogue, Node.all, Node.exprs]
          at mentions
      · cases known
  have agrees : Context.flat.Agrees Machine.catalogues.library.Mentions .layered := by
    refine ⟨fun name inside => ?_, rfl, rfl⟩
    have other : "price" ≠ name := fun same => mentioned (same ▸ inside)
    simp only [Context.flat, Context.layered, Context.get, Context.get?_set, Context.get?_push,
      if_neg other]
    by_cases list : "xs" = name
    · rw [if_pos list, if_pos list]
    · rw [if_neg list, if_neg list, if_neg list]
  have known : Machine.catalogues.library.get? "catalogue" = some Template.catalogue := by
    simp [Machine.catalogues, Machine.start]
  have both := @Template.render_agreeing ⟨.silent, default⟩ 20 "catalogue" .catalogue .catalogues
    .flat .layered known agrees served
  exact ⟨n, done, both.1 n done, text⟩

end TextTemplate

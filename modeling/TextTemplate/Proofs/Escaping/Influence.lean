import TextTemplate.Proofs.Render.Lockstep
/-!
# What an escaper has influence on

Truths, lists, names of templates and of files come from values, and an escaper is asked only when a
value that is not raw is written. So with another escaper a render writes other texts in those
places and is otherwise the same. Main statement: of two renders that differ by the escaper alone,
both end with the same error or with none, invoke the same callables, write as many texts and create
files under the same paths, and each text is the same or one text after the one escaper and after
the other (`Template.render_escaping`).
-/
namespace TextTemplate

/-- The same text twice, or one text after the one escaper and after the other. No escaper leaves a
text as it is. -/
def Escaper.Variants (first second : Option Escaper) (text text' : String) : Prop :=
  text = text' ∨ ∃ s, text = first.getD id s ∧ text' = second.getD id s

/-- The context with another escaper. -/
def Context.escaping (context : Context) (escaper : Option Escaper) : Context :=
  { context with escaper }

/-- The machine with another escaper. -/
def Machine.escaping (m : Machine) (escaper : Option Escaper) : Machine :=
  { m with context := m.context.escaping escaper }

/-- On the way from `m` to `n` as much was done as on the way to `n'`, with the same texts or texts
that differ by the escapers. -/
structure Machine.Variants (first second : Option Escaper) (m n n' : Machine) : Prop where
  /-- The texts put out are one by one those of the other run, but for the escaper. -/
  texts : Grown (Escaper.Variants first second) m.sink.written.texts m.sink.written.texts
    n.sink.written.texts n'.sink.written.texts
  /-- The acts are one by one those of the other run, but for the escaper. -/
  journal : Grown (Act.Accord (Escaper.Variants first second)) m.host.journal m.host.journal
    n.host.journal n'.host.journal

namespace Render

/-- A value that is not raw is written as the escaper leaves its text. -/
theorem shown_eq (context : Context) (v : Value) :
    shown context v = if v.raw then v.text else context.escaper.getD id v.text := by
  obtain ⟨top, outer, outputDir, escaper⟩ := context
  cases escaper with
  | none => exact (ite_self v.text).symm
  | some escape => rfl

/-- Evaluation does not ask for the escaper. -/
theorem eval_escaping (host : Host) (context : Context) (escaper : Option Escaper) (expr : Expr)
    (state : HostState) :
    expr.eval host (context.escaping escaper) state = expr.eval host context state := by
  obtain ⟨operand, filters⟩ := expr
  cases operand <;> rfl

/-- Values are shown as one text after the one escaper and after the other, or alike if raw. -/
theorem variants_shown (context : Context) (first second : Option Escaper) (v : Value) :
    Escaper.Variants first second (shown (context.escaping first) v)
      (shown (context.escaping second) v) := by
  rw [shown_eq, shown_eq]
  cases v.raw with
  | true => exact .inl rfl
  | false => exact .inr ⟨v.text, rfl, rfl⟩

end Render

/-- The likeness of two renders that differ by the escaper alone. -/
def Escaper.likeness (setting : Setting) (library : Library) (first second : Option Escaper) :
    Likeness setting setting where
  library := library
  contexts a b := ∃ context : Context, a = context.escaping first ∧ b = context.escaping second
  texts := Escaper.Variants first second
  host := rfl
  maxDepth := rfl
  same _ := .inl rfl
  evaluates := by
    rintro _ _ ⟨context, rfl, rfl⟩ expr state
    rw [Render.eval_escaping, Render.eval_escaping]
  shows := by
    rintro _ _ ⟨context, rfl, rfl⟩ v
    exact Render.variants_shown context first second v
  places := by
    rintro _ _ ⟨context, rfl, rfl⟩
    rfl
  opens := by
    rintro _ _ ⟨context, rfl, rfl⟩
    exact ⟨context.push, rfl, rfl⟩
  binds := by
    rintro m n ⟨context, here, there⟩ heap var item list index
    unfold Render.bound
    rw [here, there, heap]
    split
    · exact ⟨(context.set var item).set "forloop" _, rfl, rfl⟩
    · exact ⟨context.set var item, rfl, rfl⟩

/-- Let a sink take every text, and let a render, with an escaper or without one, ask only for
templates that are known. With any other escaper, or without one, the render goes as it does with
the first: both are done or fail with the same error, and on their way they write as many texts,
invoke the same callables and create files under the same paths, all in the same order; each text,
and each piece of a file, is the same or one text after the one escaper and after the other. -/
theorem Template.render_escaping {setting : Setting} {fuel : Nat} {t : Template} {m : Machine}
    {first second : Option Escaper} (takes : ∀ before text, m.sink.accepts before text = true)
    (served : t.Always (Node.Served m.library setting.host) setting fuel (m.escaping first)) :
    (∀ n, t.render setting fuel (m.escaping first) = .done () n →
      ∃ n', t.render setting fuel (m.escaping second) = .done () n' ∧
        m.Variants first second n n') ∧
    ∀ error n, t.render setting fuel (m.escaping first) = .failed error n →
      ∃ n', t.render setting fuel (m.escaping second) = .failed error n' ∧
        m.Variants first second n n' := by
  have twins : Twins (Escaper.likeness setting m.library first second) (m.escaping first)
      (m.escaping second) :=
    { heap := rfl
      context := ⟨m.context, rfl, rfl⟩
      sink := ⟨rfl, fun before before' text text' _ _ => (takes _ _).trans (takes _ _).symm⟩
      active := rfl
      chain := rfl
      knows := .refl m.library
      knows' := .refl m.library }
  have abreast := Template.abreast_render twins served
  unfold Render.Abreast at abreast
  constructor
  · intro n done
    rw [done] at abreast
    obtain ⟨_, n', there, -, -, apace⟩ := abreast
    exact ⟨n', there, apace.texts, apace.journal⟩
  · intro error n failed
    rw [failed] at abreast
    obtain ⟨n', there, apace⟩ := abreast
    exact ⟨n', there, apace.texts, apace.journal⟩

/-- A template that writes a value, includes the template of that name, and creates a file of that
name from it. -/
def Template.poster : Template where
  name := "poster"
  nodes := [.variable ⟨.path "part" [], []⟩, .includes ⟨.path "part" [], []⟩,
    .creates ⟨.path "part" [], []⟩ ⟨.path "part" [], []⟩ 1]
  blocks := ∅

/-- A template with a name that means something in markup; it writes the value and a literal. -/
def Template.bold : Template where
  name := "<b>"
  nodes := [.variable ⟨.path "part" [], []⟩, .variable ⟨.literal (.text "&"), []⟩]
  blocks := ∅

/-- A machine that knows it, with its name as the value. -/
def Machine.posters : Machine :=
  .start (Table.insert ∅ "<b>" .bold) (Context.set ∅ "part" (.ofText "<b>")) ∅

/-- So it is where markup is the name of a template and of a file as well: the names stay as they
are with the escaper for markup, and so does the literal. -/
theorem Template.render_escaping_poster :
    ∃ n n', Template.poster.render ⟨.silent, default⟩ 20 (Machine.posters.escaping none) =
        .done () n ∧
      Template.poster.render ⟨.silent, default⟩ 20 (Machine.posters.escaping (some Escaper.html)) =
        .done () n' ∧
      Machine.posters.Variants none (some Escaper.html) n n' ∧
      n.sink.text = "<b><b>&" ∧ n'.sink.text = "&lt;b&gt;&lt;b&gt;&" ∧
      .created ⟨"<b>"⟩ "<b>&" ∈ n.host.journal.toList ∧
      .created ⟨"<b>"⟩ "&lt;b&gt;&" ∈ n'.host.journal.toList := by
  have takes : ∀ before text, Machine.posters.sink.accepts before text = true := fun _ _ => rfl
  have served : Template.poster.Always (Node.Served Machine.posters.library .silent)
      ⟨.silent, default⟩ 20 (Machine.posters.escaping none) :=
    Template.always_of_screenedRun (fun _ _ => id) (by decide +kernel)
  have plain : (match Template.poster.render ⟨.silent, default⟩ 20
      (Machine.posters.escaping none) with
      | .done _ n => some (n.sink.text, n.host.journal.toList)
      | _ => none) = some ("<b><b>&", [.wrote 0 "<b>", .wrote 0 "<b>", .wrote 0 "&",
        .wrote 1 "<b>", .wrote 1 "&", .created ⟨"<b>"⟩ "<b>&"]) := by
    decide +kernel
  have escaped : (match Template.poster.render ⟨.silent, default⟩ 20
      (Machine.posters.escaping (some Escaper.html)) with
      | .done _ n => some (n.sink.text, n.host.journal.toList)
      | _ => none) = some ("&lt;b&gt;&lt;b&gt;&", [.wrote 0 "&lt;b&gt;", .wrote 0 "&lt;b&gt;",
        .wrote 0 "&", .wrote 1 "&lt;b&gt;", .wrote 1 "&", .created ⟨"<b>"⟩ "&lt;b&gt;&"]) := by
    decide +kernel
  split at plain
  · rename_i n done
    obtain ⟨text, journal⟩ := Prod.mk.inj (Option.some.inj plain)
    have both := @Template.render_escaping ⟨.silent, default⟩ 20 .poster .posters none
      (some Escaper.html) takes served
    obtain ⟨n', done', variants⟩ := both.1 n done
    rw [done'] at escaped
    obtain ⟨text', journal'⟩ := Prod.mk.inj (Option.some.inj escaped)
    refine ⟨n, n', done, done', variants, text, text', ?_, ?_⟩
    · rw [journal]
      decide
    · rw [journal']
      decide
  · cases plain

end TextTemplate

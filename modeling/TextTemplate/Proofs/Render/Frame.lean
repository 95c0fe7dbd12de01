import TextTemplate.Proofs.Evaluation
import TextTemplate.Proofs.Render.Trait
import TextTemplate.Proofs.Template.Reading
/-!
# What a render leaves as it finds it

However a render ends, the names of the templates being rendered, the overriding templates and the
context are those that it started with; a template that was known is known still, and the outcomes
noted before come first. With callables that change no list, a list with items keeps them.
-/
namespace TextTemplate

/-- The same templates are being rendered and override, and what was known is known still. -/
structure Machine.Stays (m n : Machine) : Prop where
  /-- The same templates are being rendered. -/
  active : n.active = m.active
  /-- The same templates override. -/
  chain : n.chain = m.chain
  /-- A template that was known is known still, and is the same one. -/
  library : ∀ name t, m.library.get? name = some t → n.library.get? name = some t
  /-- A library of parsed templates is still one. -/
  parsed : m.library.Parsed → n.library.Parsed

/-- What every render leaves as it finds it, also one that may bind names in the innermost scope. -/
structure Machine.Leads (host : Host) (m n : Machine) : Prop extends m.Stays n where
  /-- The scopes around the innermost one are as they were. -/
  outer : n.context.outer = m.context.outer
  /-- The output directory is the same. -/
  outputDir : n.context.outputDir = m.context.outputDir
  /-- The escaper is the same. -/
  escaper : n.context.escaper = m.context.escaper
  /-- Where callables are calm no list that had items has others. -/
  items : host.Calm → ∀ list, m.host.heap.items list ≠ #[] →
    n.host.heap.items list = m.host.heap.items list
  /-- The outcomes of created files were only added to. -/
  outcomes : m.outcomes.toList <+: n.outcomes.toList

/-- What every render leaves as it finds it that closes the scopes which it opens. -/
structure Machine.Returns (host : Host) (m n : Machine) : Prop extends m.Leads host n where
  /-- The context is as it was. -/
  context : n.context = m.context

namespace Machine

variable {host : Host} {m n k : Machine}

/-- A machine that did nothing stays. -/
theorem Stays.refl (m : Machine) : m.Stays m := ⟨rfl, rfl, fun _ _ => id, id⟩

/-- A machine that stays twice stays. -/
theorem Stays.trans (first : m.Stays n) (second : n.Stays k) : m.Stays k where
  active := second.active.trans first.active
  chain := second.chain.trans first.chain
  library name t known := second.library name t (first.library name t known)
  parsed known := second.parsed (first.parsed known)

/-- A machine leads to itself. -/
theorem Leads.refl (host : Host) (m : Machine) : m.Leads host m :=
  { Stays.refl m with
    outer := rfl
    outputDir := rfl
    escaper := rfl
    items := fun _ _ _ => rfl
    outcomes := List.prefix_refl _ }

/-- What leads to a machine leads to where that one leads. -/
theorem Leads.trans (first : m.Leads host n) (second : n.Leads host k) : m.Leads host k :=
  { first.toStays.trans second.toStays with
    outer := second.outer.trans first.outer
    outputDir := second.outputDir.trans first.outputDir
    escaper := second.escaper.trans first.escaper
    items := fun calm list holds => by
      have kept := first.items calm list holds
      exact (second.items calm list (kept ▸ holds)).trans kept
    outcomes := first.outcomes.trans second.outcomes }

/-- A machine returns to itself. -/
theorem Returns.refl (host : Host) (m : Machine) : m.Returns host m := ⟨.refl host m, rfl⟩

/-- A machine that returns twice returns. -/
theorem Returns.trans (first : m.Returns host n) (second : n.Returns host k) : m.Returns host k :=
  ⟨first.toLeads.trans second.toLeads, second.context.trans first.context⟩

end Machine

namespace Render

variable {α β : Type} {host : Host} {setting : Setting}

/-- Wherever a render ends, the machine is related to the one that it started from. -/
def Within (related : Machine → Machine → Prop) (x : Render α) : Prop :=
  ∀ m, (x m).Holds (fun _ n => related m n) (fun _ n => related m n) True

/-- A sequence is within a transitive relation if its parts are. -/
theorem Within.bind {related : Machine → Machine → Prop} {x : Render α} {f : α → Render β}
    (first : Within related x) (second : ∀ v, Within related (f v))
    (trans : ∀ m n k, related m n → related n k → related m k) : Within related (x >>= f) := by
  intro m
  rw [holds_bind]
  refine (first m).mono (fun v n here => ?_) (fun _ _ here => here) id
  exact (second v n).mono (fun _ k => trans m n k here) (fun _ k => trans m n k here) id

/-- A render that leaves everything as it finds it which no render changes. -/
abbrev Steady (host : Host) : Render α → Prop := Within (Machine.Returns host)

/-- A steady render leads from its start to its end. -/
theorem Steady.leads {x : Render α} (steady : Steady host x) : Within (Machine.Leads host) x :=
  fun m => (steady m).mono (fun _ _ back => back.toLeads) (fun _ _ back => back.toLeads) id

/-- A sequence is steady if its parts are. -/
theorem Steady.bind {x : Render α} {f : α → Render β} (first : Steady host x)
    (second : ∀ v, Steady host (f v)) : Steady host (x >>= f) :=
  Within.bind first second fun _ _ _ => Machine.Returns.trans

/-- Where a steady render is done. -/
theorem Steady.returns {x : Render α} (steady : Steady host x) {m n : Machine} {v : α}
    (done : x m = .done v n) : m.Returns host n := by
  have back := steady m
  rwa [done] at back

/-- To read from the machine is steady. -/
theorem steady_reads (f : Machine → α) : Steady host (reads f) := fun m => .refl host m

/-- To write a text is steady. -/
theorem steady_emit (text : String) : Steady host (emit text) := by
  intro m
  rw [holds_emit]
  split
  · exact ⟨{ Machine.Leads.refl host m with }, rfl⟩
  · exact .refl host m

/-- To evaluate an expression is steady, whatever the callables do. -/
theorem steady_evaluate (expr : Expr) : Steady setting.host (evaluate setting expr) := fun m =>
  ⟨{ Machine.Leads.refl setting.host m with
    items := fun calm _ holds => expr.items_eval calm m.context holds }, rfl⟩

/-- To load a template is steady: the library only grows. -/
theorem steady_load (name : String) : Steady host (load setting name) := by
  intro m
  rw [holds_load]
  cases loaded : m.library.load setting.config m.files name with
  | error error => exact .refl host m
  | ok result =>
    obtain ⟨t, library⟩ := result
    refine ⟨{ Machine.Leads.refl host m with
      library := fun key known found => ?_, parsed := fun parsed => (parsed.load loaded).1 }, rfl⟩
    rcases Library.load_cases loaded with ⟨-, rfl⟩ | ⟨unknown, rfl, -⟩
    · exact found
    · have other : Library.normalise name ≠ key := by
        rintro rfl
        rw [unknown] at found
        cases found
      rw [Table.get?_insert, if_neg other]
      exact found

/-- To resolve a template is steady. -/
theorem steady_resolve (expr : Expr) : Steady setting.host (resolve setting expr) :=
  (steady_evaluate expr).bind fun v => steady_load v.text

/-- A template that is resolved to from a machine whose templates were read was read as well. -/
theorem parsed_of_resolve {expr : Expr} {t : Template} {m n : Machine}
    (parsed : m.library.Parsed) (resolved : resolve setting expr m = .done t n) :
    t.Parsed ∧ m.Stays n := by
  obtain ⟨v, k, evaluated, loaded⟩ := done_bind.mp resolved
  have before := (steady_evaluate expr).returns evaluated
  have after := before.trans ((steady_load v.text).returns loaded)
  obtain ⟨library, read, rfl⟩ := done_load loaded
  exact ⟨((before.parsed parsed).load read).2.2, after.toStays⟩

/-- A template that is known is loaded as it is. -/
theorem load_of_known {name : String} {t : Template} {m : Machine}
    (known : m.library.get? (Library.normalise name) = some t) :
    load setting name m = .done t m := by
  rw [load, Library.load_of_get? known]

/-- A template that is known is resolved to, whatever the expression invokes. -/
theorem resolve_of_known {expr : Expr} {t : Template} {m : Machine}
    (known : m.library.get?
      (Library.normalise (expr.eval setting.host m.context m.host).1.text) = some t) :
    resolve setting expr m =
      .done t { m with host := (expr.eval setting.host m.context m.host).2 } :=
  load_of_known (m := { m with host := (expr.eval setting.host m.context m.host).2 }) known

/-- A template that is fetched from a file becomes known under the name it was asked by. -/
theorem load_of_fetched {name : String} {t : Template} {m : Machine}
    (unknown : m.library.get? (Library.normalise name) = none)
    (fetched : Library.fetch setting.config m.files (Library.normalise name) = .ok t) :
    load setting name m =
      .done t { m with library := m.library.insert (Library.normalise name) t } := by
  rw [load, Library.load_eq, unknown]
  simp only [fetched]

/-- A template that cannot be fetched leaves the machine as it is. -/
theorem load_of_missing {name : String} {error : RenderError} {m : Machine}
    (unknown : m.library.get? (Library.normalise name) = none)
    (missing : Library.fetch setting.config m.files (Library.normalise name) = .error error) :
    load setting name m = .failed error m := by
  rw [load, Library.load_eq, unknown]
  simp only [missing]

/-- To create a file is steady: one outcome is added. -/
theorem steady_create (owner : Template) (line : Nat) (file content : String) :
    Steady host (create owner line file content) := by
  intro m
  rw [create_eq]
  refine ⟨{ Machine.Leads.refl host m with outcomes := ?_ }, rfl⟩
  simp

/-- A steady render without the overriding templates is steady. -/
theorem Steady.detached {body : Render Unit} (steady : Steady host body) :
    Steady host (detached body) := by
  intro m
  rw [holds_detached]
  have inside := steady { m with chain := [] }
  exact inside.mono
    (fun _ n back => ⟨{ back.toLeads with chain := rfl }, back.context⟩)
    (fun _ n back => ⟨{ back.toLeads with chain := rfl }, back.context⟩) id

/-- A steady render into a sink of its own is steady. -/
theorem Steady.captured {body : Render Unit} (steady : Steady host body) :
    Steady host (captured body) := by
  intro m
  rw [holds_captured]
  have inside := steady { m with sink := .unlimited (m.sink.level + 1) }
  exact inside.mono (fun _ n back => ⟨{ back.toLeads with }, back.context⟩)
    (fun _ n back => ⟨{ back.toLeads with }, back.context⟩) id

/-- A steady render with one more overriding template is steady. -/
theorem Steady.overridden {body : Render Unit} (steady : Steady host body) (t : Template) :
    Steady host (overridden t body) := by
  intro m
  rw [Render.overridden, holds_around]
  have inside := steady { m with chain := m.chain ++ [t] }
  exact inside.mono
    (fun _ n back => ⟨{ back.toLeads with chain := by simp [back.chain] }, back.context⟩)
    (fun _ n back => ⟨{ back.toLeads with chain := by simp [back.chain] }, back.context⟩) id

/-- A steady render inside a template is steady. -/
theorem Steady.entering {body : Render Unit} (steady : Steady host body) (t : Template) :
    Steady host (entering t body) := by
  intro m
  rw [Render.entering, holds_around]
  have inside := steady { m with active := m.active ++ [t.name] }
  exact inside.mono
    (fun _ n back => ⟨{ back.toLeads with active := by simp [back.active] }, back.context⟩)
    (fun _ n back => ⟨{ back.toLeads with active := by simp [back.active] }, back.context⟩) id

/-- A template is steady if its body is. -/
theorem Steady.template {body : Render Unit} (steady : Steady host body) (t : Template) :
    Steady host (template setting (fun _ => body) t) := by
  refine Steady.bind (steady_reads _) fun active => ?_
  split
  · exact fun m => .refl host m
  · split
    · exact fun m => .refl host m
    · exact steady.entering t

/-- Closing a scope drops what was bound in it, whatever that was. -/
theorem pop_of_leads {m n : Machine}
    (leads : Machine.Leads host { m with context := m.context.push } n) :
    n.context.pop = .ok m.context := by
  unfold Context.pop
  rw [leads.outer]
  simp only [leads.outputDir, leads.escaper]
  rfl

/-- A scope is a state that is entered and left, also after an error, if the render in it keeps what
is bound outside. -/
theorem inScope_eq_around {body : Render Unit} (leads : Within (Machine.Leads host) body)
    (m : Machine) :
    inScope body m = around (fun m => { m with context := m.context.push })
      (fun n => { n with context := m.context }) body m := by
  have back := leads { m with context := m.context.push }
  unfold inScope around
  cases ended : body { m with context := m.context.push } with
  | done v n =>
    rw [ended] at back
    simp only [pop_of_leads back]
  | failed error n =>
    rw [ended] at back
    simp only [pop_of_leads back]
  | outOfFuel => rfl

/-- A render in a scope of its own is steady, if it leaves the outer scopes alone. -/
theorem steady_inScope {body : Render Unit} (inside : Within (Machine.Leads host) body) :
    Steady host (inScope body) := by
  intro m
  rw [inScope_eq_around inside, holds_around]
  have closed : ∀ n, Machine.Leads host { m with context := m.context.push } n →
      m.Returns host { n with context := m.context } := fun n leads =>
    ⟨{ leads with outer := rfl, outputDir := rfl, escaper := rfl }, rfl⟩
  exact (inside _).mono (fun _ n => closed n) (fun _ n => closed n) id

/-- To bind a name changes the innermost scope only. -/
theorem leads_bindName (host : Host) (name : String) (v : Value) :
    Within (Machine.Leads host) (bindName name v) := fun m => { Machine.Leads.refl host m with }

/-- The trait of leaving everything as it is found which no render changes. -/
def steadiness (host : Host) : Trait Unit where
  whole x := Steady host (x ())
  inner x := Within (Machine.Leads host) (x ())
  entered _ x := Steady host (x ())

/-- The steps of a render are steady if the renders they ask for are. -/
theorem compatible_steadiness (setting : Setting) :
    (steadiness setting.host).Compatible fun _ => setting where
  pure v := fun m => .refl setting.host m
  bind := Steady.bind
  emit := steady_emit
  evaluate := steady_evaluate
  shown v := Steady.bind (steady_reads _) fun text => steady_emit text
  heap f := steady_reads _
  blockBody owner name body := steady_reads _
  inherits owner name x inside :=
    Steady.bind (steady_load name) fun t => (inside t).overridden owner
  includes name x inside :=
    Steady.bind (steady_load name) fun t => (inside t).detached
  captures name x inside :=
    Steady.bind (steady_load name) fun t => (inside t).detached.captured
  create := steady_create
  template t x whole := Steady.template whole t
  inScope inside := steady_inScope inside
  inner := Steady.leads
  innerBind first second := Within.bind first second fun _ _ _ => Machine.Leads.trans
  bindName := leads_bindName setting.host
  bindLoop list index := by
    unfold steadiness bindLoop
    split
    · exact Within.bind (fun m => .refl setting.host m)
        (fun count => leads_bindName setting.host _ _) fun _ _ _ => Machine.Leads.trans
    · exact fun m => .refl setting.host m

/-- Whatever the fuel, a task leaves everything as it finds it which no render changes. -/
theorem steady_run (fuel : Nat) (task : Task) :
    (steadiness setting.host).Meets task fun _ => run setting fuel task := by
  refine (compatible_steadiness setting).run (fun task => ?_) fuel task
  cases task <;> exact fun _ => trivial

/-- Every render of a template is steady. -/
theorem steady_template (fuel : Nat) (t : Template) :
    Steady setting.host (run setting fuel (.template t)) :=
  steady_run fuel (.template t)

/-- Every render of nodes is steady. -/
theorem steady_nodes (fuel : Nat) (owner : Template) (ns : List Node) :
    Steady setting.host (run setting fuel (.nodes owner ns)) :=
  steady_run fuel (.nodes owner ns)

/-- A loop leaves everything but the innermost scope as a steady render does. -/
theorem leads_iterate (fuel : Nat) (owner : Template) (var : String) (reversed : Bool)
    (body : List Node) (list : ListRef) (cursor : Cursor) (index : Nat) :
    Within (Machine.Leads setting.host)
      (run setting fuel (.iterate owner var reversed body list cursor index)) :=
  steady_run fuel (.iterate owner var reversed body list cursor index)

namespace Trait

variable {ι : Type}

/-- The renders of a trait that leave everything as they find it which no render changes. -/
def steadily (host : Host) (trait : Trait ι) : Trait ι where
  whole x := (∀ i, Steady host (x i)) ∧ trait.whole x
  inner x := (∀ i, Within (Machine.Leads host) (x i)) ∧ trait.inner x
  entered t x := (∀ i, Steady host (x i)) ∧ trait.entered t x

variable {trait : Trait ι} {settings : ι → Setting} {host : Host}

/-- Opening a scope has a trait if it does so for what leaves the scopes around it as they are. -/
theorem Operable.steadily (operable : trait.Operable settings)
    (one : ∀ i, (settings i).host = host)
    (opened : ∀ {x : ι → Render Unit}, (∀ i, Within (Machine.Leads host) (x i)) → trait.inner x →
      trait.whole fun i => inScope (x i)) : (trait.steadily host).Compatible settings := by
  have steady : ∀ i, (steadiness host).Compatible fun _ => settings i :=
    fun i => one i ▸ compatible_steadiness (settings i)
  exact {
    pure := fun v => ⟨fun i => (steady i).pure v, operable.pure v⟩
    bind := fun first second => ⟨fun i => (first.1 i).bind fun v => (second v).1 i,
      operable.bind first.2 fun v => (second v).2⟩
    emit := fun text => ⟨fun i => (steady i).emit text, operable.emit text⟩
    evaluate := fun expr => ⟨fun i => (steady i).evaluate expr, operable.evaluate expr⟩
    shown := fun v => ⟨fun i => (steady i).shown v, operable.shown v⟩
    heap := fun f => ⟨fun i => (steady i).heap f, operable.heap f⟩
    blockBody := fun owner name body =>
      ⟨fun i => (steady i).blockBody owner name body, operable.blockBody owner name body⟩
    inherits := fun owner name _ inside =>
      ⟨fun i => (steady_load name).bind fun t => ((inside t).1 i).overridden owner,
        operable.inherits owner name fun t => (inside t).2⟩
    includes := fun name _ inside =>
      ⟨fun i => (steady_load name).bind fun t => ((inside t).1 i).detached,
        operable.includes name fun t => (inside t).2⟩
    captures := fun name _ inside =>
      ⟨fun i => (steady_load name).bind fun t => ((inside t).1 i).detached.captured,
        operable.captures name fun t => (inside t).2⟩
    create := fun owner line file content => ⟨fun i => (steady i).create owner line file content,
      operable.create owner line file content⟩
    template := fun t _ inside =>
      ⟨fun i => (inside.1 i).template t, operable.template t inside.2⟩
    inScope := fun inside => ⟨fun i => steady_inScope (inside.1 i), opened inside.1 inside.2⟩
    inner := fun whole => ⟨fun i => (whole.1 i).leads, operable.inner whole.2⟩
    innerBind := fun first second =>
      ⟨fun i => (first.1 i).bind (fun v => (second v).1 i) fun _ _ _ => Machine.Leads.trans,
        operable.innerBind first.2 fun v => (second v).2⟩
    bindName := fun name v => ⟨fun i => (steady i).bindName name v, operable.bindName name v⟩
    bindLoop := fun list index =>
      ⟨fun i => (steady i).bindLoop list index, operable.bindLoop list index⟩ }

/-- Every run has a trait that the operations have, if the lack of fuel has it. -/
theorem Operable.run (operable : trait.Operable settings) (one : ∀ i, (settings i).host = host)
    (opened : ∀ {x : ι → Render Unit}, (∀ i, Within (Machine.Leads host) (x i)) → trait.inner x →
      trait.whole fun i => inScope (x i))
    (starved : ∀ task, trait.Meets task fun _ => starve) (fuel : Nat) (task : Task) :
    trait.Meets task fun i => Render.run (settings i) fuel task := by
  have idle : ∀ task, (trait.steadily host).Meets task fun _ => starve := by
    intro task
    have here := starved task
    cases task <;> exact ⟨fun _ _ => trivial, here⟩
  have both := (operable.steadily one opened).run idle fuel task
  cases task <;> exact both.2

end Trait

end Render

/-- The names of the templates being rendered and the overriding templates are the same, and what
became of files before comes first. -/
structure Machine.Restored (m n : Machine) : Prop where
  /-- The same templates are being rendered. -/
  active : n.active = m.active
  /-- The same templates override. -/
  chain : n.chain = m.chain
  /-- The outcomes of created files were only added to. -/
  outcomes : m.outcomes.toList <+: n.outcomes.toList

/-- What a machine leads to has its bookkeeping restored. -/
theorem Machine.Leads.restored {host : Host} {m n : Machine} (leads : m.Leads host n) :
    m.Restored n :=
  ⟨leads.active, leads.chain, leads.outcomes⟩

/-- From whatever machine a template, nodes, a loop or the creation of a file are rendered, and
wherever that ends, with an error or without one, the bookkeeping is restored. -/
theorem Render.bookkeeping_restored (setting : Setting) (fuel : Nat) :
    (∀ t, Within Machine.Restored (run setting fuel (.template t))) ∧
      (∀ owner ns, Within Machine.Restored (run setting fuel (.nodes owner ns))) ∧
      (∀ owner var list reversed body otherwise, Within Machine.Restored
        (node setting (run setting fuel) owner (.forEach var list reversed body otherwise))) ∧
      ∀ owner file template line, Within Machine.Restored
        (node setting (run setting fuel) owner (.creates file template line)) := by
  have restored : ∀ {x : Render Unit}, Steady setting.host x → Within Machine.Restored x :=
    fun steady m =>
      (steady m).mono (fun _ _ back => back.restored) (fun _ _ back => back.restored) id
  have nodes : ∀ owner n, Steady setting.host (node setting (run setting fuel) owner n) :=
    (compatible_steadiness setting).node (steady_run fuel)
  exact ⟨fun t => restored (steady_template fuel t),
    fun owner ns => restored (steady_nodes fuel owner ns),
    fun owner _ _ _ _ _ => restored (nodes owner _), fun owner _ _ _ => restored (nodes owner _)⟩

/-- A render that ends, with an error or without one, leaves every scope with every binding in it,
the output directory and the escaper as it found them. -/
theorem Template.context_render {setting : Setting} {fuel : Nat} {t : Template} {m n : Machine}
    (ended : t.render setting fuel m = .done () n ∨
      ∃ error, t.render setting fuel m = .failed error n) : n.context = m.context := by
  have back : (t.render setting fuel m).Holds (fun _ k => k.context = m.context)
      (fun _ k => k.context = m.context) True :=
    (Render.steady_template fuel t _).mono (fun _ _ returns => returns.context)
      (fun _ _ returns => returns.context) id
  rcases ended with done | ⟨error, failed⟩
  · rw [done] at back
    exact back
  · rw [failed] at back
    exact back

/-- A template that writes the items of a list once for every item of it. -/
def Template.square : Template where
  name := "square"
  nodes := [.forEach "x" ⟨.path "xs" [], []⟩ false
    [.forEach "y" ⟨.path "xs" [], []⟩ false [.variable ⟨.path "y" [], []⟩] []] []]
  blocks := ∅

/-- So it is where the sink refuses a text inside two loops. -/
theorem Template.context_render_square :
    ∃ n, Template.square.render ⟨.silent, default⟩ 20
      { Machine.start ∅ (Context.set ∅ "xs" (.ofList ⟨0⟩))
          ⟨#[#[.ofText "a", .ofText "b"]], #[]⟩ with sink := .limited 3 } = .failed .refused n ∧
      n.sink.text = "aba" ∧ n.context = Context.set ∅ "xs" (.ofList ⟨0⟩) := by
  have ended : (match Template.square.render ⟨.silent, default⟩ 20
      { Machine.start ∅ (Context.set ∅ "xs" (.ofList ⟨0⟩))
          ⟨#[#[.ofText "a", .ofText "b"]], #[]⟩ with sink := .limited 3 } with
      | .failed .refused m => some m.sink.text
      | _ => none) = some "aba" := by
    decide +kernel
  split at ended
  · rename_i n failed
    exact ⟨n, failed, Option.some.inj ended, Template.context_render (.inr ⟨_, failed⟩)⟩
  · cases ended

end TextTemplate

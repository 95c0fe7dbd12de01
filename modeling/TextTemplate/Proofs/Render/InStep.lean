import TextTemplate.Proofs.Render.Kinship
/-!
# Renders in step

Renders of akin tasks from kin machines stay in step: they end in kin machines, with the same error
or with none, and on their way they write the same texts, invoke the same callables, create the same
files and note the same outcomes but for the lines. The first render may be screened, so that what
it asks for can be known; then nothing is said of a render that the screen keeps from ending. Main
statement: `inStep_screenedRun`.
-/
namespace TextTemplate

/-- A node that is admitted asks for templates whose expressions start from names that mean the same
in both contexts. -/
def Leeway.Trusts (c : Leeway) (setting : Setting) (admits : Node → Machine → Prop) : Prop :=
  ∀ node expr m t k, admits node m → c.library.Within m.library → node.operand? = some expr →
    Render.resolve setting expr (node.asking setting.host m) = .done t k → t.Reads c.names

/-- Two settings differ at most in whether loops bind `forloop`, and in that only if the name may
mean anything. -/
structure Leeway.Suits (c : Leeway) (setting setting' : Setting) : Prop where
  /-- The callables do the same. -/
  host : setting.host = setting'.host
  /-- Templates are loaded from one directory. -/
  templateDir : setting.config.templateDir = setting'.config.templateDir
  /-- Templates may nest equally deep. -/
  maxDepth : setting.config.maxDepth = setting'.config.maxDepth
  /-- Loops bind `forloop` in both or in neither, unless the name may mean anything. -/
  metadata : setting.config.loopMetadata = setting'.config.loopMetadata ∨ ¬ c.names "forloop"

/-- A setting differs from itself in nothing. -/
theorem Leeway.Suits.refl (c : Leeway) (setting : Setting) : c.Suits setting setting :=
  ⟨rfl, rfl, rfl, .inl rfl⟩

/-- Settings that suit read the same templates from files. -/
theorem Leeway.Suits.fetch {c : Leeway} {setting setting' : Setting}
    (suits : c.Suits setting setting') (files : FileTree) (key : String) :
    Library.fetch setting.config files key = Library.fetch setting'.config files key := by
  unfold Library.fetch Library.readSource Library.path
  rw [suits.templateDir]

namespace Render

variable {α β γ δ : Type} {setting setting' : Setting} {c : Leeway} {unscreened : Prop}
  {m n : Machine}

/-- Two renders stay in step from `m` and `n`: if the first ends so does the second, in a kin
machine and with a related value or with the same error. Unless the first is screened, the second
starves if it does. -/
def InStep (c : Leeway) (unscreened : Prop) (values : α → β → Prop) (x : Render α) (y : Render β)
    (m n : Machine) : Prop :=
  (x m).Holds
    (fun v m' => ∃ w n', y n = .done w n' ∧ values v w ∧ Kin c m' n' ∧ Beside c m n m' n')
    (fun error m' => ∃ n', y n = .failed error n' ∧ Kin c m' n' ∧ Beside c m n m' n')
    (unscreened → y n = .outOfFuel)

section Laws

variable {values : α → β → Prop} {values' : γ → δ → Prop}

/-- Renders that are both done stay in step, if that leaves them kin. -/
theorem InStep.of_done {x : Render α} {y : Render β} {v : α} {w : β} {m' n' : Machine}
    (here : x m = .done v m') (there : y n = .done w n') (related : values v w)
    (kin : Kin c m' n') (beside : Beside c m n m' n') : InStep c unscreened values x y m n := by
  unfold InStep
  rw [here]
  exact ⟨w, n', there, related, kin, beside⟩

/-- Renders that both fail where they started stay in step. -/
theorem InStep.of_failed {x : Render α} {y : Render β} {error : RenderError}
    (here : x m = .failed error m) (there : y n = .failed error n) (kin : Kin c m n) :
    InStep c unscreened values x y m n := by
  unfold InStep
  rw [here]
  exact ⟨n, there, kin, .refl c m n⟩

/-- Renders that both want for fuel stay in step. -/
theorem inStep_starve : InStep c unscreened values (starve : Render α) (starve : Render β) m n :=
  fun _ => rfl

/-- What is read from kin machines stays in step, if it is related. -/
theorem inStep_reads {f : Machine → α} {g : Machine → β} (kin : Kin c m n)
    (related : values (f m) (g n)) : InStep c unscreened values (reads f) (reads g) m n :=
  .of_done rfl rfl related kin (.refl c m n)

/-- Renders in turn stay in step if the first do, and the second do wherever the first are done. -/
theorem InStep.bind {x : Render α} {y : Render β} {f : α → Render γ} {g : β → Render δ}
    (first : InStep c unscreened values x y m n)
    (second : ∀ v w m' n', x m = .done v m' → values v w → Kin c m' n' →
      InStep c unscreened values' (f v) (g w) m' n') :
    InStep c unscreened values' (x >>= f) (y >>= g) m n := by
  unfold InStep at first ⊢
  rw [holds_bind]
  cases ended : x m with
  | outOfFuel =>
    rw [ended] at first
    intro open_
    rw [bind_apply, first open_]
  | failed error m' =>
    rw [ended] at first
    obtain ⟨n', there, kin, beside⟩ := first
    exact ⟨n', failed_bind there, kin, beside⟩
  | done v m' =>
    rw [ended] at first
    obtain ⟨w, n', there, related, kin, beside⟩ := first
    refine (second v w m' n' ended related kin).mono ?_ ?_ ?_
    · rintro v' m'' ⟨w', n'', done, related', after, onward⟩
      exact ⟨w', n'', (bind_of_done there).trans done, related', after, beside.trans onward⟩
    · rintro error m'' ⟨n'', failed, after, onward⟩
      exact ⟨n'', (bind_of_done there).trans failed, after, beside.trans onward⟩
    · exact fun starved open_ => (bind_of_done there).trans (starved open_)

/-- States that are entered and left keep renders in step if they are kin on both ways. -/
theorem InStep.around {x : Render α} {y : Render β} {enter leave enter' leave' : Machine → Machine}
    (inside : InStep c unscreened values x y (enter m) (enter' n))
    (after : ∀ m' n', Kin c m' n' → Beside c (enter m) (enter' n) m' n' →
      Kin c (leave m') (leave' n') ∧ Beside c m n (leave m') (leave' n')) :
    InStep c unscreened values (around enter leave x) (around enter' leave' y) m n := by
  unfold InStep at inside ⊢
  rw [holds_around]
  refine inside.mono ?_ ?_ ?_
  · rintro v m' ⟨w, n', there, related, kin, beside⟩
    exact ⟨w, leave' n', done_around.mpr ⟨n', there, rfl⟩, related, after m' n' kin beside⟩
  · rintro error m' ⟨n', there, kin, beside⟩
    refine ⟨leave' n', ?_, after m' n' kin beside⟩
    rw [Render.around, there]
  · intro starved open_
    rw [Render.around, starved open_]

/-- Without the overriding templates renders stay in step. -/
theorem InStep.detached {x y : Render Unit} (kin : Kin c m n)
    (inside : InStep c unscreened Eq x y { m with chain := [] } { n with chain := [] }) :
    InStep c unscreened Eq (detached x) (detached y) m n := by
  unfold InStep
  rw [detached_apply, detached_apply]
  exact inside.around fun m' n' after beside =>
    ⟨{ after with chain := kin.chain, reads := kin.reads },
      ⟨beside.texts, beside.journal, beside.outcomes, beside.active⟩⟩

/-- With one more overriding template renders stay in step. -/
theorem InStep.overridden {x y : Render Unit} {t : Template}
    (inside : InStep c unscreened Eq x y { m with chain := m.chain ++ [t] }
      { n with chain := n.chain ++ [t] }) :
    InStep c unscreened Eq (overridden t x) (overridden t y) m n :=
  inside.around fun _ _ after beside =>
    ⟨{ after with
        chain := congrArg List.dropLast after.chain
        reads := fun t member => after.reads t (List.dropLast_subset _ member) },
      ⟨beside.texts, beside.journal, beside.outcomes, beside.active⟩⟩

/-- What is captured on both sides is the same text. -/
theorem InStep.captured {x y : Render Unit} (kin : Kin c m n)
    (inside : InStep c unscreened Eq x y { m with sink := .unlimited (m.sink.level + 1) }
      { n with sink := .unlimited (n.sink.level + 1) }) :
    InStep c unscreened Eq (captured x) (captured y) m n := by
  unfold InStep at inside ⊢
  rw [holds_captured]
  have level := kin.sink.level
  refine inside.mono ?_ ?_ ?_
  · rintro v m' ⟨w, n', there, -, after, beside⟩
    obtain ⟨texts, left, right⟩ := beside.texts
    have same : m'.sink.text = n'.sink.text := by rw [left, right]; rfl
    refine ⟨n'.sink.text, { n' with sink := n.sink }, ?_, same, { after with sink := kin.sink },
      ⟨[], rfl, rfl⟩, beside.journal, beside.outcomes, beside.active⟩
    rw [captured_apply]
    exact done_around.mpr ⟨n', done_bind.mpr ⟨w, n', there, rfl⟩, rfl⟩
  · rintro error m' ⟨n', there, after, beside⟩
    refine ⟨{ n' with sink := n.sink }, ?_, { after with sink := kin.sink }, ⟨[], rfl, rfl⟩,
      beside.journal, beside.outcomes, beside.active⟩
    rw [captured_apply, Render.around, failed_bind there]
  · intro starved open_
    rw [captured_apply, Render.around, bind_apply, starved open_]

/-- In scopes of their own renders stay in step, if they leave the outer scopes alone. -/
theorem InStep.inScope {host host' : Host} {x y : Render Unit}
    (leads : Within (Machine.Leads host) x) (leads' : Within (Machine.Leads host') y)
    (kin : Kin c m n)
    (inside : InStep c unscreened Eq x y { m with context := m.context.push }
      { n with context := n.context.push }) :
    InStep c unscreened Eq (inScope x) (inScope y) m n := by
  unfold InStep
  rw [inScope_eq_around leads, inScope_eq_around leads']
  exact inside.around fun m' n' after beside => ⟨{ after with context := kin.context },
    ⟨beside.texts, beside.journal, beside.outcomes, beside.active⟩⟩

end Laws

section Operations

variable (kin : Kin c m n)

include kin

/-- What is read from the heap is the same. -/
theorem inStep_heap (f : Heap → α) :
    InStep c unscreened Eq (reads fun m => f m.host.heap) (reads fun m => f m.host.heap) m n :=
  inStep_reads kin (congrArg f kin.heap)

/-- Writing the same text stays in step. -/
theorem inStep_emit (text : String) : InStep c unscreened Eq (emit text) (emit text) m n := by
  have taken : m.sink.accepts m.sink.written text = n.sink.accepts n.sink.written text :=
    kin.sink.accepts [] text
  by_cases accepts : m.sink.accepts m.sink.written text
  · refine .of_done (if_pos accepts) (if_pos (taken ▸ accepts)) rfl
      { kin with sink := kin.sink.writeAll [text] } ⟨⟨[text], rfl, rfl⟩, ?_, .refl _ _, rfl⟩
    rw [kin.sink.level]
    exact .push _ _ _
  · exact .of_failed (if_neg accepts) (if_neg (taken ▸ accepts)) kin

section Settings

variable (suits : c.Suits setting setting')

include suits

/-- An expression that starts from a name which means the same has one value on both sides, and the
same callables are invoked for it. -/
theorem inStep_evaluate {expr : Expr} (reads : expr.Reads c.names) :
    InStep c unscreened Eq (evaluate setting expr) (evaluate setting' expr) m n := by
  have called : ∀ (s t : HostState) (ref : CallableRef), s.heap = t.heap ∧
      Alongside m.host.journal n.host.journal s.journal t.journal →
      (s.invoked setting.host ref).heap = (t.invoked setting.host ref).heap ∧
        Alongside m.host.journal n.host.journal (s.invoked setting.host ref).journal
          (t.invoked setting.host ref).journal := by
    intro s t ref ⟨same, journal⟩
    exact ⟨by simp [HostState.invoked, same], journal.trans (.push _ _ _)⟩
  obtain ⟨value, same, journal⟩ := Expr.eval_related
    (fun s t => s.heap = t.heap ∧ Alongside m.host.journal n.host.journal s.journal t.journal)
    (fun _ _ both => both.1) called m.context expr ⟨kin.heap, .refl _ _⟩
  have there : expr.eval setting.host m.context n.host = expr.eval setting'.host n.context n.host :=
    (kin.context.eval reads setting.host n.host).trans (by rw [suits.host])
  rw [there] at value same journal
  exact .of_done rfl rfl value { kin with heap := same } ⟨⟨[], rfl, rfl⟩, journal, .refl _ _, rfl⟩

/-- The same template is loaded on both sides, or two that have the name of one being rendered. -/
theorem inStep_load (name : String) :
    InStep c unscreened (fun t t' => t = t' ∨ t.name = t'.name ∧ t.name ∈ m.active)
      (load setting name) (load setting' name) m n := by
  by_cases own : Library.normalise name ∈ c.own
  · obtain ⟨active, t, t', known, known', named, named'⟩ := kin.own _ own
    exact .of_done (load_of_known known) (load_of_known known')
      (.inr ⟨named.trans named'.symm, named.symm ▸ active⟩) kin (.refl c m n)
  · have same := kin.get? own
    cases known : m.library.get? (Library.normalise name) with
    | some t =>
      exact .of_done (load_of_known known) (load_of_known (same.symm.trans known)) (.inl rfl) kin
        (.refl c m n)
    | none =>
      have unknown := same.symm.trans known
      have both := suits.fetch n.files (Library.normalise name)
      rw [← kin.files] at both
      cases fetched : Library.fetch setting.config m.files (Library.normalise name) with
      | ok t =>
        rw [fetched, kin.files] at both
        exact .of_done (load_of_fetched known fetched)
          (load_of_fetched unknown both.symm) (.inl rfl) (kin.insert own known t)
          ⟨⟨[], rfl, rfl⟩, .refl _ _, .refl _ _, rfl⟩
      | error error =>
        rw [fetched, kin.files] at both
        exact .of_failed (load_of_missing known fetched)
          (load_of_missing unknown both.symm) kin

/-- The same template is asked for on both sides, or two that have the name of one being rendered.
-/
theorem inStep_resolve {expr : Expr} (reads : expr.Reads c.names) :
    InStep c unscreened (fun t t' => t = t' ∨ t.name = t'.name ∧ t.name ∈ m.active)
      (resolve setting expr) (resolve setting' expr) m n := by
  refine (inStep_evaluate kin suits reads).bind fun v w m' n' here same after => ?_
  subst same
  cases here
  exact inStep_load after suits _

end Settings

/-- Creating the same file stays in step, on lines that the leeway allows. -/
theorem inStep_create {owner owner' : Template} (named : owner.name = owner'.name)
    {line line' : Nat} (lines : c.lines line line') (file content : String) :
    InStep c unscreened Eq (create owner line file content) (create owner' line' file content)
      m n := by
  have path := kin.context.targetPath file
  have journal : Alongside m.host.journal n.host.journal
      (m.host.journal.push (.created (targetPath m.context file) content))
      (n.host.journal.push (.created (targetPath n.context file) content)) := by
    rw [path]
    exact .push _ _ _
  refine .of_done (create_eq owner line file content m) (create_eq owner' line' file content n) rfl
    { kin with files := ?_ } ⟨⟨[], rfl, rfl⟩, journal, .push _ _ ?_, rfl⟩
  · rw [path, kin.files]
    unfold stored
    split <;> rfl
  · rw [path, kin.files]
    unfold stored
    split
    · rw [← named]
      exact .nameless _ owner.name lines
    · exact .same _

end Operations

/-- In kin machines a body that overrides a block is the same, and else each side has its own. -/
theorem blockBody_of_kin (kin : Kin c m n) (owner owner' : Template) (name : String)
    (body body' : List Node) :
    (blockBody m.chain owner name body = (owner, body) ∧
      blockBody n.chain owner' name body' = (owner', body')) ∨
    ∃ t other, blockBody m.chain owner name body = (t, other) ∧
      blockBody n.chain owner' name body' = (t, other) ∧ t ∈ m.chain ∧
      t.blocks.get? name = some other := by
  unfold blockBody
  rw [← kin.chain]
  cases found : m.chain.findSome? fun t => (t.blocks.get? name).map (t, ·) with
  | none => exact .inl ⟨rfl, rfl⟩
  | some pair =>
    obtain ⟨t, member, bound⟩ := List.exists_of_findSome?_eq_some found
    obtain ⟨other, holds, rfl⟩ := Option.map_eq_some_iff.mp bound
    exact .inr ⟨t, other, rfl, rfl, member, holds⟩

/-- Asking for a template leaves those being rendered as they are. -/
theorem active_of_resolve {expr : Expr} {t : Template} {k : Machine}
    (done : resolve setting expr m = .done t k) : k.active = m.active :=
  ((steady_resolve expr).returns done).active

section Step

variable {admits : Node → Machine → Prop} [∀ node, DecidablePred (admits node)]
  (trusts : c.Trusts setting admits) (suits : c.Suits setting setting')
  {run run' : Task → Render Unit}
  (steady : ∀ task, (steadiness setting.host).Meets task fun _ => run task)
  (steady' : ∀ task, (steadiness setting'.host).Meets task fun _ => run' task)
  (inside : ∀ task task' m n, Kin c m n → task.Akin c m.active task' →
    InStep c unscreened Eq (run task) (run' task') m n)

include inside

/-- A template that was loaded, or two of one name that is being rendered, are kept in step. -/
theorem inStep_loaded {t t' : Template} (same : t = t' ∨ t.name = t'.name ∧ t.name ∈ m.active)
    (reads : t.Reads c.names) (kin : Kin c m n) :
    InStep c unscreened Eq (run (.template t)) (run' (.template t')) m n := by
  rcases same with rfl | ⟨named, active⟩
  · exact inside _ _ m n kin (.template reads)
  · exact inside _ _ m n kin (.entered named active)

variable {inheriting : Prop} {owner owner' : Template} (named : owner.name = owner'.name)
  (owned : inheriting → owner = owner' ∧ owner.Reads c.names)

include named owned

omit [∀ node, DecidablePred (admits node)] in
include suits steady steady' trusts in
/-- Akin nodes stay in step if the first of them is admitted. -/
theorem inStep_node (kin : Kin c m n) {node node' : Node} (akin : node.Akin c inheriting node')
    (admitted : admits node m) :
    InStep c unscreened Eq (Render.node setting run owner node)
      (Render.node setting' run' owner' node') m n := by
  cases akin with
  | text s => exact inStep_emit kin s
  | «variable» reads =>
    refine (inStep_evaluate kin suits reads).bind fun v w m' n' _ same after => ?_
    subst same
    refine (inStep_reads after (after.context.shown v)).bind
      fun text text' m'' n'' _ same last => ?_
    subst same
    exact inStep_emit last text
  | @forEach var list reversed body body' otherwise otherwise' reads items empty =>
    refine (inStep_evaluate kin suits reads).bind fun v w m' n' _ same after => ?_
    subst same
    have other : ∀ k l, Kin c k l → InStep c unscreened Eq (run (.nodes owner otherwise))
        (run' (.nodes owner' otherwise')) k l := fun k l kin =>
      inside _ _ k l kin (.nodes named owned empty)
    cases v.list? with
    | none => exact other m' n' after
    | some list =>
      refine (inStep_heap after (·.count list)).bind fun count count' m'' n'' _ same last => ?_
      subst same
      split
      · refine .inScope (steady (.iterate owner var reversed body list _ 0))
          (steady' (.iterate owner' var reversed body' list _ 0)) last ?_
        exact inside _ _ _ _ { last with context := last.context.push }
          (.iterate var reversed list _ 0 named owned items)
      · exact other m'' n'' last
  | @condition test negated yes yes' no no' reads first second =>
    refine (inStep_evaluate kin suits reads).bind fun v w m' n' _ same after => ?_
    subst same
    refine (inStep_heap after v.truth).bind fun holds holds' m'' n'' _ same last => ?_
    subst same
    split
    · exact inside _ _ m'' n'' last (.nodes named owned first)
    · exact inside _ _ m'' n'' last (.nodes named owned second)
  | @block name body body' bodies =>
    have both : InStep c unscreened
        (fun left right => left = blockBody m.chain owner name body ∧
          right = blockBody n.chain owner' name body')
        (reads fun m => blockBody m.chain owner name body)
        (reads fun m => blockBody m.chain owner' name body') m n := inStep_reads kin ⟨rfl, rfl⟩
    refine both.bind fun left right k l done values after => ?_
    obtain ⟨rfl, rfl⟩ := values
    rcases blockBody_of_kin kin owner owner' name body body' with
      ⟨here, there⟩ | ⟨t, other, here, there, member, bound⟩
    · rw [here, there]
      exact inside _ _ k l after (.nodes named owned bodies)
    · rw [here, there]
      have reads := kin.reads t member
      exact inside _ _ k l after (.nodes rfl (fun _ => ⟨rfl, reads⟩)
        (Node.akin_self (reads.blocks name other bound)))
  | @inherits parent reads allowed =>
    obtain ⟨rfl, ownerReads⟩ := owned allowed
    refine (inStep_resolve kin suits reads).bind fun t t' k l done same after => ?_
    have trusted := trusts _ parent m t k admitted kin.knows rfl done
    rw [← active_of_resolve done] at same
    refine .overridden (inStep_loaded inside same trusted { after with
      chain := by rw [after.chain]
      reads := fun other member => ?_ })
    rcases List.mem_append.mp member with before | new
    · exact after.reads other before
    · exact List.mem_singleton.mp new ▸ ownerReads
  | @includes template reads =>
    refine (inStep_resolve kin suits reads).bind fun t t' k l done same after => ?_
    have trusted := trusts _ template m t k admitted kin.knows rfl done
    rw [← active_of_resolve done] at same
    exact .detached after (inStep_loaded inside same trusted { after with
      chain := rfl
      reads := fun _ member => absurd member List.not_mem_nil })
  | @creates file template line line' names reads lines =>
    refine (inStep_evaluate kin suits names).bind fun file' w k l here same after => ?_
    subst same
    cases here
    refine (inStep_resolve after suits reads).bind fun t t' k l done same last => ?_
    have trusted := trusts _ template m t k admitted kin.knows rfl done
    rw [← active_of_resolve done] at same
    have fresh : Kin c { k with sink := .unlimited (k.sink.level + 1) }
        { l with sink := .unlimited (l.sink.level + 1) } :=
      { last with sink := ⟨congrArg (· + 1) last.sink.level, fun _ _ => rfl⟩ }
    have written := InStep.detached fresh (inStep_loaded inside same trusted { fresh with
      chain := rfl
      reads := fun _ member => absurd member List.not_mem_nil })
    refine (written.captured last).bind fun content content' k' l' _ same final => ?_
    subst same
    exact inStep_create final named lines _ content

include suits steady steady' trusts in
/-- Akin nodes in order stay in step if those of the first side are screened. -/
theorem inStep_screenedNodes (kin : Kin c m n) {ns ns' : List Node}
    (open_ : unscreened → ∀ node m, admits node m)
    (akin : List.Forall₂ (Node.Akin c inheriting) ns ns') :
    InStep c unscreened Eq (screenedNodes setting admits run owner ns)
      (nodes setting' run' owner' ns') m n := by
  induction akin generalizing m n with
  | nil => exact .of_done rfl rfl rfl kin (.refl c m n)
  | @cons first first' rest rest' akin later ih =>
    have here : InStep c unscreened Eq
        (guarded (admits first) (Render.node setting run owner first))
        (Render.node setting' run' owner' first') m n := by
      unfold InStep guarded
      split
      · rename_i admitted
        exact inStep_node trusts suits steady steady' inside named owned kin akin admitted
      · rename_i refused
        exact fun all => absurd (open_ all first m) refused
    have last : isLast first = isLast first' := by cases akin <;> rfl
    refine here.bind fun _ _ m' n' _ _ after => ?_
    rw [last]
    split
    · exact .of_done rfl rfl rfl after (.refl c m' n')
    · exact ih after

omit named owned in
include suits in
/-- A template stays in step with itself, if its expressions start from names it may start from. -/
theorem inStep_template (kin : Kin c m n) {t : Template} (reads : t.Reads c.names) :
    InStep c unscreened Eq (template setting run t) (template setting' run' t) m n := by
  unfold InStep
  rw [template_apply, template_apply, ← kin.active, suits.maxDepth]
  split
  · exact ⟨n, rfl, kin, .refl c m n⟩
  · split
    · exact ⟨n, rfl, kin, .refl c m n⟩
    · have start : Kin c { m with active := m.active ++ [t.name] }
          { n with active := n.active ++ [t.name] } :=
        { kin with
          active := by rw [kin.active]
          own := fun name own => (kin.own name own).imp (List.mem_append_left _) id }
      have nodes := inside (.nodes t t.nodes) (.nodes t t.nodes) _ _ start
        (.nodes rfl (fun _ => ⟨rfl, reads⟩) (Node.akin_self reads.nodes))
      refine InStep.around nodes fun m' n' after beside => ?_
      have active : m'.active.dropLast = m.active := by
        rw [beside.active]
        exact List.dropLast_concat
      refine ⟨{ after with
          active := congrArg List.dropLast after.active
          own := fun name own => ⟨?_, (after.own name own).2⟩ },
        beside.texts, beside.journal, beside.outcomes, active⟩
      rw [active]
      exact (kin.own name own).1

omit [∀ node, DecidablePred (admits node)] inside named owned in
include suits in
/-- Iterations bind the same, but for a `forloop` that may mean anything. -/
theorem kin_bound (kin : Kin c m n) (var : String) (item : Value) (list : ListRef) (index : Nat) :
    Kin c (bound setting var item list index m) (bound setting' var item list index n) := by
  refine { kin with context := ?_ }
  have same := kin.context.set var item
  unfold bound
  rw [kin.heap]
  rcases suits.metadata with alike | unread
  · rw [alike]
    split
    · exact same.set "forloop" _
    · exact same
  · split <;> split
    · exact same.set "forloop" _
    · exact same.set_left unread _
    · exact same.set_right unread _
    · exact same

include suits in
/-- Iterations stay in step. -/
theorem inStep_iterate (kin : Kin c m n) {body body' : List Node} (var : String) (reversed : Bool)
    (list : ListRef) (cursor : Cursor) (index : Nat)
    (akin : List.Forall₂ (Node.Akin c inheriting) body body') :
    InStep c unscreened Eq (iterate setting run owner var reversed body list cursor index)
      (iterate setting' run' owner' var reversed body' list cursor index) m n := by
  unfold InStep
  rw [iterate_apply, iterate_apply, kin.heap]
  cases cursor.current n.host.heap list with
  | none => exact ⟨(), n, rfl, rfl, kin, .refl c m n⟩
  | some item =>
    have start := kin_bound suits kin var item list index
    have rounds := (inside _ _ _ _ start (.nodes named owned akin)).bind fun _ _ m' n' _ _ after =>
      inside _ _ m' n' after
        (.iterate var reversed list (advance reversed cursor) (index + 1) named owned akin)
    exact rounds.mono
      (fun _ _ ⟨w, n', there, same, after, beside⟩ => ⟨w, n', there, same, after,
        beside.texts, beside.journal, beside.outcomes, beside.active⟩)
      (fun _ _ ⟨n', there, after, beside⟩ => ⟨n', there, after,
        beside.texts, beside.journal, beside.outcomes, beside.active⟩) id

end Step

/-- A run of one task stays in step with the run of an akin task from a kin machine, with a setting
that suits. -/
theorem inStep_screenedRun_of_suits {admits : Node → Machine → Prop}
    [∀ node, DecidablePred (admits node)] (trusts : c.Trusts setting admits)
    (suits : c.Suits setting setting') (open_ : unscreened → ∀ node m, admits node m) (fuel : Nat)
    {task task' : Task} (kin : Kin c m n) (akin : task.Akin c m.active task') :
    InStep c unscreened Eq (screenedRun setting admits fuel task) (run setting' fuel task')
      m n := by
  induction fuel generalizing task task' m n with
  | zero => exact inStep_starve
  | succ fuel ih =>
    have steady : ∀ task, (steadiness setting.host).Meets task fun _ =>
        screenedRun setting admits fuel task := steady_screenedRun fuel
    have steady' : ∀ task, (steadiness setting'.host).Meets task fun _ => run setting' fuel task :=
      steady_run fuel
    have inside : ∀ task task' m n, Kin c m n → task.Akin c m.active task' →
        InStep c unscreened Eq (screenedRun setting admits fuel task) (run setting' fuel task')
          m n :=
      fun task task' m n => ih
    cases akin with
    | template reads => exact inStep_template suits inside kin reads
    | @entered t t' named active =>
      show InStep c unscreened Eq (template setting _ t) (template setting' _ t') m n
      unfold InStep
      rw [template_apply, template_apply, ← kin.active, ← named, if_pos active, if_pos active]
      exact ⟨n, rfl, kin, .refl c m n⟩
    | nodes named owned akin =>
      exact inStep_screenedNodes trusts suits steady steady' inside named owned kin open_ akin
    | iterate var reversed list cursor index named owned akin =>
      exact inStep_iterate suits inside named owned kin var reversed list cursor index akin

/-- A run of one task stays in step with the run of an akin task from a kin machine. -/
theorem inStep_screenedRun {admits : Node → Machine → Prop} [∀ node, DecidablePred (admits node)]
    (trusts : c.Trusts setting admits) (open_ : unscreened → ∀ node m, admits node m) (fuel : Nat)
    {task task' : Task} (kin : Kin c m n) (akin : task.Akin c m.active task') :
    InStep c unscreened Eq (screenedRun setting admits fuel task) (run setting fuel task') m n :=
  inStep_screenedRun_of_suits trusts (.refl c setting) open_ fuel kin akin

/-- A run stays in step with the run of an akin task, and starves if that does. -/
theorem inStep_run (trusts : c.Trusts setting fun _ _ => True) (fuel : Nat) {task task' : Task}
    (kin : Kin c m n) (akin : task.Akin c m.active task') :
    InStep c True Eq (run setting fuel task) (run setting fuel task') m n := by
  rw [← screenedRun_true]
  exact inStep_screenedRun trusts (fun _ _ _ => trivial) fuel kin akin

end Render

end TextTemplate

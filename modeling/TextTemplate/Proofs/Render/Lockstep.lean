import TextTemplate.Proofs.Render.Comparison
import TextTemplate.Proofs.Render.Guarded
import TextTemplate.Proofs.Render.Request
import Mathlib.Data.List.Forall2
/-!
# Renders in lockstep

Two renders whose contexts and settings differ do their tasks in lockstep as long as every
expression has one value in both contexts: they find the same truths, lists and names, and what they
write differs only as the contexts show values differently. A `Likeness` says how the contexts and
the texts written are related, `Twins` what two machines have in common from which renders go on
alike, and `Apace` that two renders did alike on their way. Since the contents of files may differ,
no file may decide which template is rendered; so the nodes of the first render are served by a
library that both machines know. Main statement: if the first render ends so does the second, with
the same error or with none (`Template.abreast_render`).
-/
namespace TextTemplate

/-- Related elements were added at the end of two arrays. -/
def Grown {α β : Type} (related : α → β → Prop) (xs : Array α) (ys : Array β) (xs' : Array α)
    (ys' : Array β) : Prop :=
  ∃ more more', xs'.toList = xs.toList ++ more ∧ ys'.toList = ys.toList ++ more' ∧
    List.Forall₂ related more more'

namespace Grown

variable {α β : Type} {related : α → β → Prop} {xs xs' xs'' : Array α} {ys ys' ys'' : Array β}

/-- Nothing was added to either. -/
theorem refl (xs : Array α) (ys : Array β) : Grown related xs ys xs ys :=
  ⟨[], [], by simp, by simp, .nil⟩

/-- Related elements were added to both. -/
theorem push (xs : Array α) (ys : Array β) {x : α} {y : β} (here : related x y) :
    Grown related xs ys (xs.push x) (ys.push y) :=
  ⟨[x], [y], by simp, by simp, .cons here .nil⟩

/-- Two additions make one. -/
theorem trans (first : Grown related xs ys xs' ys') (second : Grown related xs' ys' xs'' ys'') :
    Grown related xs ys xs'' ys'' := by
  obtain ⟨early, early', grown, grown', before⟩ := first
  obtain ⟨late, late', further, further', after⟩ := second
  exact ⟨early ++ late, early' ++ late', by rw [further, grown, List.append_assoc],
    by rw [further', grown', List.append_assoc], List.rel_append before after⟩

end Grown

/-- Two texts are put together from related pieces. -/
def Pieced (texts : String → String → Prop) (text text' : String) : Prop :=
  ∃ pieces pieces', text = String.join pieces ∧ text' = String.join pieces' ∧
    List.Forall₂ texts pieces pieces'

/-- Two acts are the same, but for the texts that are written or put into files. -/
inductive Act.Accord (texts : String → String → Prop) : Act → Act → Prop
  | called (callable : CallableRef) : Accord texts (.called callable) (.called callable)
  | wrote (level : Nat) {text text' : String} (related : texts text text') :
    Accord texts (.wrote level text) (.wrote level text')
  | created (path : Path) {content content' : String} (pieced : Pieced texts content content') :
    Accord texts (.created path content) (.created path content')

/-- Two sinks of one level take or refuse related texts alike from here on. -/
structure Sink.Accord (texts : String → String → Prop) (sink sink' : Sink) : Prop where
  /-- Both stand at one nesting of captures. -/
  level : sink.level = sink'.level
  /-- After related texts each takes a text if the other takes a related one. -/
  accepts : ∀ before before' text text', List.Forall₂ texts before before' → texts text text' →
    sink.accepts (sink.written.append before) text =
      sink'.accepts (sink'.written.append before') text'

/-- How two renders, each with a setting of its own, are alike. -/
structure Likeness (left right : Setting) where
  /-- The templates that both machines know. -/
  library : Library
  /-- How the contexts are related. -/
  contexts : Context → Context → Prop
  /-- How the texts are related that are written. -/
  texts : String → String → Prop
  /-- The callables do the same. -/
  host : left.host = right.host
  /-- Templates may nest equally deep. -/
  maxDepth : left.config.maxDepth = right.config.maxDepth
  /-- A text is related to itself. -/
  same : ∀ text, texts text text
  /-- An expression has one value in related contexts. -/
  evaluates : ∀ {a b}, contexts a b → ∀ (expr : Expr) state,
    expr.eval left.host a state = expr.eval right.host b state
  /-- A value is shown as related texts. -/
  shows : ∀ {a b}, contexts a b → ∀ v, texts (Render.shown a v) (Render.shown b v)
  /-- Files are created under one directory. -/
  places : ∀ {a b}, contexts a b → a.outputDir = b.outputDir
  /-- Contexts stay related in a new scope. -/
  opens : ∀ {a b}, contexts a b → contexts a.push b.push
  /-- Contexts stay related when a loop binds its names. -/
  binds : ∀ {m n : Machine}, contexts m.context n.context → m.host.heap = n.host.heap →
    ∀ var item list index, contexts (Render.bound left var item list index m).context
      (Render.bound right var item list index n).context

section

variable {left right : Setting}

/-- What two machines have in common from which renders go on alike. -/
structure Twins (c : Likeness left right) (m n : Machine) : Prop where
  /-- The lists and records are the same. -/
  heap : m.host.heap = n.host.heap
  /-- The contexts are related. -/
  context : c.contexts m.context n.context
  /-- The sinks take related texts alike. -/
  sink : m.sink.Accord c.texts n.sink
  /-- The same templates are being rendered. -/
  active : m.active = n.active
  /-- The same templates override. -/
  chain : m.chain = n.chain
  /-- The first machine knows the templates of the library. -/
  knows : c.library.Within m.library
  /-- So does the second. -/
  knows' : c.library.Within n.library

/-- Two renders did alike on their way from `m` and `n` to `m'` and `n'`. -/
structure Apace (c : Likeness left right) (m n m' n' : Machine) : Prop where
  /-- Both wrote related texts. -/
  texts : Grown c.texts m.sink.written.texts n.sink.written.texts m'.sink.written.texts
    n'.sink.written.texts
  /-- Both did the same acts, but for texts that are related. -/
  journal : Grown (Act.Accord c.texts) m.host.journal n.host.journal m'.host.journal n'.host.journal

variable {c : Likeness left right} {m n m' n' m'' n'' : Machine}

/-- Two renders that did nothing did alike. -/
theorem Apace.refl (c : Likeness left right) (m n : Machine) : Apace c m n m n :=
  ⟨.refl _ _, .refl _ _⟩

/-- Renders that did alike twice did alike. -/
theorem Apace.trans (first : Apace c m n m' n') (second : Apace c m' n' m'' n'') :
    Apace c m n m'' n'' :=
  ⟨first.texts.trans second.texts, first.journal.trans second.journal⟩

end

namespace Render

variable {α β γ δ : Type} {left right : Setting} {c : Likeness left right} {m n : Machine}

/-- Two renders go on alike from `m` and `n`: if the first ends so does the second, with a related
value or with the same error. -/
def Abreast (c : Likeness left right) (values : α → β → Prop) (x : Render α) (y : Render β)
    (m n : Machine) : Prop :=
  (x m).Holds
    (fun v m' => ∃ w n', y n = .done w n' ∧ values v w ∧ Twins c m' n' ∧ Apace c m n m' n')
    (fun error m' => ∃ n', y n = .failed error n' ∧ Apace c m n m' n') True

section Laws

variable {values : α → β → Prop} {values' : γ → δ → Prop}

/-- Renders that are both done go on alike, if that leaves them twins. -/
theorem Abreast.of_done {x : Render α} {y : Render β} {v : α} {w : β} {m' n' : Machine}
    (here : x m = .done v m') (there : y n = .done w n') (related : values v w)
    (twins : Twins c m' n') (apace : Apace c m n m' n') : Abreast c values x y m n := by
  unfold Abreast
  rw [here]
  exact ⟨w, n', there, related, twins, apace⟩

/-- What is read from twins goes on alike, if it is related. -/
theorem abreast_reads {f : Machine → α} {g : Machine → β} (twins : Twins c m n)
    (related : values (f m) (g n)) : Abreast c values (reads f) (reads g) m n :=
  .of_done rfl rfl related twins (.refl c m n)

/-- Renders in turn go on alike if the first do, and the second do wherever the first are done. -/
theorem Abreast.bind {x : Render α} {y : Render β} {f : α → Render γ} {g : β → Render δ}
    (first : Abreast c values x y m n)
    (second : ∀ v w m' n', x m = .done v m' → values v w → Twins c m' n' →
      Abreast c values' (f v) (g w) m' n') : Abreast c values' (x >>= f) (y >>= g) m n := by
  unfold Abreast at first ⊢
  rw [holds_bind]
  cases ended : x m with
  | outOfFuel => trivial
  | failed error m' =>
    rw [ended] at first
    obtain ⟨n', there, apace⟩ := first
    exact ⟨n', failed_bind there, apace⟩
  | done v m' =>
    rw [ended] at first
    obtain ⟨w, n', there, related, twins, apace⟩ := first
    refine (second v w m' n' ended related twins).mono ?_ ?_ id
    · rintro v' m'' ⟨w', n'', later, related', after, onward⟩
      exact ⟨w', n'', (bind_of_done there).trans later, related', after, apace.trans onward⟩
    · rintro error m'' ⟨n'', later, onward⟩
      exact ⟨n'', (bind_of_done there).trans later, apace.trans onward⟩

/-- Where states are entered and left, the sinks and the host's states stay. -/
theorem Abreast.around {x y : Render α} {enter leave enter' leave' : Machine → Machine}
    (inside : Abreast c Eq x y (enter m) (enter' n))
    (after : ∀ m' n', Twins c m' n' → Twins c (leave m') (leave' n'))
    (outside : ∀ m' n', Apace c (enter m) (enter' n) m' n' → Apace c m n (leave m') (leave' n')) :
    Abreast c Eq (around enter leave x) (around enter' leave' y) m n := by
  unfold Abreast at inside ⊢
  rw [holds_around]
  refine inside.mono ?_ ?_ id
  · rintro v m' ⟨w, n', there, related, twins, apace⟩
    exact ⟨w, leave' n', done_around.mpr ⟨n', there, rfl⟩, related, after m' n' twins,
      outside m' n' apace⟩
  · rintro error m' ⟨n', there, apace⟩
    refine ⟨leave' n', ?_, outside m' n' apace⟩
    rw [Render.around, there]

/-- Without the overriding templates renders go on alike. -/
theorem Abreast.detached {x y : Render Unit} (twins : Twins c m n)
    (inside : Abreast c Eq x y { m with chain := [] } { n with chain := [] }) :
    Abreast c Eq (detached x) (detached y) m n := by
  unfold Abreast
  rw [detached_apply, detached_apply]
  exact inside.around (fun m' n' after => { after with chain := twins.chain })
    fun m' n' apace => ⟨apace.texts, apace.journal⟩

/-- With one more overriding template renders go on alike. -/
theorem Abreast.overridden {x y : Render Unit} {t : Template}
    (inside : Abreast c Eq x y { m with chain := m.chain ++ [t] }
      { n with chain := n.chain ++ [t] }) :
    Abreast c Eq (overridden t x) (overridden t y) m n :=
  inside.around (fun m' n' after => { after with chain := by rw [after.chain] })
    fun m' n' apace => ⟨apace.texts, apace.journal⟩

/-- Inside a template renders go on alike. -/
theorem Abreast.entering {x y : Render Unit} {t : Template}
    (inside : Abreast c Eq x y { m with active := m.active ++ [t.name] }
      { n with active := n.active ++ [t.name] }) :
    Abreast c Eq (entering t x) (entering t y) m n :=
  inside.around (fun m' n' after => { after with active := by rw [after.active] })
    fun m' n' apace => ⟨apace.texts, apace.journal⟩

/-- What is captured on both sides is put together from related texts. -/
theorem Abreast.captured {x y : Render Unit}
    (inside : Abreast c Eq x y { m with sink := .unlimited (m.sink.level + 1) }
      { n with sink := .unlimited (n.sink.level + 1) }) (twins : Twins c m n) :
    Abreast c (Pieced c.texts) (captured x) (captured y) m n := by
  unfold Abreast at inside ⊢
  rw [holds_captured]
  refine inside.mono ?_ ?_ id
  · rintro v m' ⟨w, n', there, -, after, apace⟩
    obtain ⟨pieces, pieces', here, here', related⟩ := apace.texts
    refine ⟨n'.sink.text, { n' with sink := n.sink }, ?_, ⟨pieces, pieces', ?_, ?_, related⟩,
      { after with sink := twins.sink }, ⟨.refl _ _, apace.journal⟩⟩
    · rw [captured_apply]
      exact done_around.mpr ⟨n', done_bind.mpr ⟨w, n', there, rfl⟩, rfl⟩
    · exact congrArg String.join here
    · exact congrArg String.join here'
  · rintro error m' ⟨n', there, apace⟩
    refine ⟨{ n' with sink := n.sink }, ?_, ⟨.refl _ _, apace.journal⟩⟩
    rw [captured_apply, Render.around, failed_bind there]

/-- In scopes of their own renders go on alike, if they leave the outer scopes alone. -/
theorem Abreast.inScope {host host' : Host} {x y : Render Unit}
    (leads : Within (Machine.Leads host) x) (leads' : Within (Machine.Leads host') y)
    (twins : Twins c m n) (inside : Abreast c Eq x y { m with context := m.context.push }
      { n with context := n.context.push }) : Abreast c Eq (inScope x) (inScope y) m n := by
  unfold Abreast
  rw [inScope_eq_around leads, inScope_eq_around leads']
  exact inside.around (fun m' n' after => { after with context := twins.context })
    fun m' n' apace => ⟨apace.texts, apace.journal⟩

end Laws

section Operations

variable (twins : Twins c m n)

include twins

/-- What is read from the heap is the same. -/
theorem abreast_heap (f : Heap → α) :
    Abreast c Eq (reads fun m => f m.host.heap) (reads fun m => f m.host.heap) m n :=
  abreast_reads twins (congrArg f twins.heap)

/-- Related texts are both taken or both refused. -/
theorem abreast_emit {text text' : String} (related : c.texts text text') :
    Abreast c Eq (emit text) (emit text') m n := by
  have taken := twins.sink.accepts [] [] text text' .nil related
  by_cases accepts : m.sink.accepts m.sink.written text
  · have accepts' : n.sink.accepts n.sink.written text' := by
      rw [← accepts]
      exact taken.symm
    refine .of_done (if_pos accepts) (if_pos accepts') rfl { twins with sink := ?_ }
      ⟨.push _ _ related, ?_⟩
    · refine ⟨twins.sink.level, fun before before' later later' all here => ?_⟩
      exact twins.sink.accepts (text :: before) (text' :: before') later later'
        (.cons related all) here
    · rw [twins.sink.level]
      exact .push _ _ (.wrote _ related)
  · have accepts' : ¬ n.sink.accepts n.sink.written text' := by
      intro takes
      exact accepts (taken.trans takes)
    unfold Abreast emit
    rw [if_neg accepts, if_neg accepts']
    exact ⟨n, rfl, .refl c m n⟩

/-- An expression has one value on both sides, and the same callables are invoked for it. -/
theorem abreast_evaluate (expr : Expr) :
    Abreast c Eq (evaluate left expr) (evaluate right expr) m n := by
  have called : ∀ (s t : HostState) (ref : CallableRef), s.heap = t.heap ∧
      Grown (Act.Accord c.texts) m.host.journal n.host.journal s.journal t.journal →
      (s.invoked left.host ref).heap = (t.invoked left.host ref).heap ∧
        Grown (Act.Accord c.texts) m.host.journal n.host.journal (s.invoked left.host ref).journal
          (t.invoked left.host ref).journal := by
    intro s t ref ⟨same, journal⟩
    exact ⟨by simp [HostState.invoked, same], journal.trans (.push _ _ (.called ref))⟩
  obtain ⟨value, same, journal⟩ := Expr.eval_related
    (fun s t => s.heap = t.heap ∧
      Grown (Act.Accord c.texts) m.host.journal n.host.journal s.journal t.journal)
    (fun _ _ both => both.1) called m.context expr ⟨twins.heap, .refl _ _⟩
  have there : expr.eval left.host m.context n.host = expr.eval right.host n.context n.host :=
    c.evaluates twins.context expr n.host
  rw [there] at value same journal
  exact .of_done rfl rfl value { twins with heap := same } ⟨.refl _ _, journal⟩

/-- A template that both libraries know is found on both sides. -/
theorem abreast_resolve {expr : Expr} {t : Template} (known : c.library.get?
    (Library.normalise (expr.eval left.host m.context m.host).1.text) = some t) :
    Abreast c Eq (resolve left expr) (resolve right expr) m n := by
  refine (abreast_evaluate twins expr).bind fun v w m' n' here same after => ?_
  subst same
  cases here
  exact .of_done (load_of_known (after.knows _ t known)) (load_of_known (after.knows' _ t known))
    rfl after (.refl c _ _)

/-- Files are created under one path from texts that are put together from related pieces. -/
theorem abreast_create (owner : Template) (line : Nat) (file : String) {content content' : String}
    (pieced : Pieced c.texts content content') :
    Abreast c Eq (create owner line file content) (create owner line file content') m n := by
  have path : targetPath m.context file = targetPath n.context file := by
    unfold targetPath
    rw [c.places twins.context]
  refine .of_done (create_eq owner line file content m) (create_eq owner line file content' n) rfl
    { twins with } ⟨.refl _ _, ?_⟩
  rw [path]
  exact .push _ _ (.created _ pieced)

end Operations

section Step

variable {run run' : Task → Render Unit} {owner : Template}
  (steady : ∀ task, (steadiness left.host).Meets task fun _ => run task)
  (steady' : ∀ task, (steadiness right.host).Meets task fun _ => run' task)
  (inside : ∀ task m n, Twins c m n → Abreast c Eq (run task) (run' task) m n)
  (twins : Twins c m n)

include inside twins

include steady steady' in
/-- A node goes on alike on both sides if it is served by the library that both know. -/
theorem abreast_node {node : Node} (served : node.Served c.library left.host m) :
    Abreast c Eq (Render.node left run owner node) (Render.node right run' owner node) m n := by
  -- what the node asks for is known, so no file is read, and the files may differ
  have asks : ∀ expr, node.operand? = some expr → ∃ t, c.library.get? (Library.normalise
      (expr.eval left.host (node.asking left.host m).context
        (node.asking left.host m).host).1.text) = some t := by
    intro expr operand
    exact Library.exists_of_isLoaded (served _ (Node.request?_of_operand operand left.host m))
  cases node with
  | text s => exact abreast_emit twins (c.same s)
  | «variable» expr =>
    refine (abreast_evaluate twins expr).bind fun v w m' n' _ same after => ?_
    subst same
    refine (abreast_reads after (c.shows after.context v)).bind
      fun text text' m'' n'' _ related last => ?_
    exact abreast_emit last related
  | forEach var expr reversed body otherwise =>
    refine (abreast_evaluate twins expr).bind fun v w m' n' _ same after => ?_
    subst same
    have empty := inside (.nodes owner otherwise) m' n' after
    cases v.list? with
    | none => exact empty
    | some list =>
      refine (abreast_heap after (·.count list)).bind fun count count' m'' n'' _ same last => ?_
      subst same
      split
      · refine .inScope (steady (.iterate owner var reversed body list _ 0))
          (steady' (.iterate owner var reversed body list _ 0)) last ?_
        exact inside _ _ _ { last with context := c.opens last.context }
      · exact inside (.nodes owner otherwise) m'' n'' last
  | condition test negated yes no =>
    refine (abreast_evaluate twins test).bind fun v w m' n' _ same after => ?_
    subst same
    refine (abreast_heap after v.truth).bind fun holds holds' m'' n'' _ same last => ?_
    subst same
    split
    · exact inside (.nodes owner yes) m'' n'' last
    · exact inside (.nodes owner no) m'' n'' last
  | block name body =>
    refine (abreast_reads twins (congrArg (blockBody · owner name body) twins.chain)).bind
      fun chosen chosen' m' n' _ same after => ?_
    subst same
    exact inside (.nodes chosen.1 chosen.2) m' n' after
  | inherits parent =>
    obtain ⟨t, known⟩ := asks parent rfl
    refine (abreast_resolve twins known).bind fun t t' m' n' _ same after => ?_
    subst same
    exact .overridden (inside (.template t) _ _ { after with chain := by rw [after.chain] })
  | includes template =>
    obtain ⟨t, known⟩ := asks template rfl
    refine (abreast_resolve twins known).bind fun t t' m' n' _ same after => ?_
    subst same
    exact .detached after (inside (.template t) _ _ { after with chain := rfl })
  | creates file template line =>
    obtain ⟨t, known⟩ := asks template rfl
    refine (abreast_evaluate twins file).bind fun named named' m' n' here same after => ?_
    subst same
    cases here
    refine (abreast_resolve after known).bind fun t t' m'' n'' _ same last => ?_
    subst same
    have fresh : Twins c { m'' with sink := .unlimited (m''.sink.level + 1) }
        { n'' with sink := .unlimited (n''.sink.level + 1) } :=
      { last with sink := ⟨congrArg (· + 1) last.sink.level, fun _ _ _ _ _ _ => rfl⟩ }
    have written := Abreast.detached fresh (inside (.template t) _ _ { fresh with chain := rfl })
    refine (written.captured last).bind fun content content' k l _ pieced final => ?_
    exact abreast_create final owner line _ pieced

include steady steady' in
/-- Nodes go on alike if those of the first side are served. -/
theorem abreast_screenedNodes (ns : List Node) :
    Abreast c Eq (screenedNodes left (Node.Served c.library left.host) run owner ns)
      (nodes right run' owner ns) m n := by
  induction ns generalizing m n with
  | nil => exact .of_done rfl rfl rfl twins (.refl c m n)
  | cons first rest ih =>
    have here : Abreast c Eq (guarded (first.Served c.library left.host)
        (Render.node left run owner first)) (Render.node right run' owner first) m n := by
      unfold Abreast guarded
      split
      · rename_i served
        exact abreast_node steady steady' inside twins served
      · trivial
    refine here.bind fun _ _ m' n' _ _ after => ?_
    split
    · exact .of_done rfl rfl rfl after (.refl c m' n')
    · exact ih after

/-- A template goes on alike in both if the renders it asks for do. -/
theorem abreast_template (t : Template) :
    Abreast c Eq (template left run t) (template right run' t) m n := by
  unfold Abreast
  rw [template_apply, template_apply, twins.active, c.maxDepth]
  split
  · exact ⟨n, rfl, .refl c m n⟩
  · split
    · exact ⟨n, rfl, .refl c m n⟩
    · refine Abreast.entering (inside (.nodes t t.nodes) _ _ { twins with active := ?_ })
      rw [twins.active]

/-- Iterations bind related contexts and go on alike. -/
theorem abreast_iterate (var : String) (reversed : Bool) (body : List Node) (list : ListRef)
    (cursor : Cursor) (index : Nat) :
    Abreast c Eq (iterate left run owner var reversed body list cursor index)
      (iterate right run' owner var reversed body list cursor index) m n := by
  unfold Abreast
  rw [iterate_apply, iterate_apply, twins.heap]
  cases cursor.current n.host.heap list with
  | none => exact ⟨(), n, rfl, rfl, twins, .refl c m n⟩
  | some item =>
    have start : Twins c (bound left var item list index m) (bound right var item list index n) :=
      { twins with context := c.binds twins.context twins.heap var item list index }
    have rounds := (inside (.nodes owner body) _ _ start).bind fun _ _ m' n' _ _ after =>
      inside (.iterate owner var reversed body list (advance reversed cursor) (index + 1)) _ _ after
    exact rounds.mono
      (fun _ _ ⟨w, n', there, same, after, apace⟩ =>
        ⟨w, n', there, same, after, apace.texts, apace.journal⟩)
      (fun _ _ ⟨n', there, apace⟩ => ⟨n', there, apace.texts, apace.journal⟩) id

end Step

/-- A run whose nodes are served by a library that both machines know goes on like the other run. -/
theorem abreast_screenedRun (c : Likeness left right) (fuel : Nat) (task : Task) (m n : Machine)
    (twins : Twins c m n) :
    Abreast c Eq (screenedRun left (Node.Served c.library left.host) fuel task)
      (run right fuel task) m n := by
  -- the contexts differ at every depth, so the tasks inside are abreast from all twins
  induction fuel generalizing task m n with
  | zero => trivial
  | succ fuel ih =>
    have steady : ∀ task, (steadiness left.host).Meets task fun _ =>
        screenedRun left (Node.Served c.library left.host) fuel task := steady_screenedRun fuel
    have steady' : ∀ task, (steadiness right.host).Meets task fun _ => run right fuel task :=
      steady_run fuel
    cases task with
    | template t => exact abreast_template ih twins t
    | nodes owner ns => exact abreast_screenedNodes steady steady' ih twins ns
    | iterate owner var reversed body list cursor index =>
      exact abreast_iterate ih twins var reversed body list cursor index

end Render

/-- Two renders of a template go on alike from twins if what the first asks for is known to both. -/
theorem Template.abreast_render {left right : Setting} {c : Likeness left right} {fuel : Nat}
    {t : Template} {m n : Machine} (twins : Twins c m n)
    (served : t.Always (Node.Served c.library left.host) left fuel m) :
    Render.Abreast c Eq (t.render left fuel) (t.render right fuel) m n := by
  have start : Twins c { m with active := [], chain := [], outcomes := #[] }
      { n with active := [], chain := [], outcomes := #[] } :=
    { twins with active := rfl, chain := rfl }
  have abreast := Render.abreast_screenedRun c fuel (.template t) _ _ start
  unfold Render.Abreast at abreast ⊢
  rw [served.screenedRun_eq] at abreast
  exact abreast.mono
    (fun _ _ ⟨w, n', there, same, after, apace⟩ =>
      ⟨w, n', there, same, after, apace.texts, apace.journal⟩)
    (fun _ _ ⟨n', there, apace⟩ => ⟨n', there, apace.texts, apace.journal⟩) id

end TextTemplate

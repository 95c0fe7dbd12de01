import TextTemplate.Proofs.Escaping.Callables
/-!
# What a render writes is escaped

With the escaper for markup, nothing with a meaning in markup gets into what a render writes, unless
it was there in a text or a literal of a template or in a raw value that the render met. A node is
begun where every binding is bare or was met, so if nothing raw is met and the templates are plain,
then it writes escaped texts only. Main statement: all that a render writes to its sink, and the
contents of all files that it creates, are then escaped, whether it is done or fails
(`Template.escaped_render`).
-/
namespace TextTemplate

/-- What is good was added at the end. -/
def Appended {α : Type} (good : α → Prop) (before after : Array α) : Prop :=
  ∃ more, after.toList = before.toList ++ more ∧ ∀ x ∈ more, good x

namespace Appended

variable {α : Type} {good : α → Prop} {xs ys zs : Array α}

/-- Nothing need be appended. -/
theorem refl (xs : Array α) : Appended good xs xs := ⟨[], by simp, nofun⟩

/-- What is appended to what was appended is appended. -/
theorem trans (first : Appended good xs ys) (second : Appended good ys zs) :
    Appended good xs zs := by
  obtain ⟨more, there, goods⟩ := first
  obtain ⟨further, here, others⟩ := second
  refine ⟨more ++ further, by rw [here, there, List.append_assoc], fun x member => ?_⟩
  exact (List.mem_append.mp member).elim (goods x) (others x)

/-- Something good may be appended. -/
theorem push (grown : Appended good xs ys) {x : α} (fine : good x) : Appended good xs (ys.push x) :=
  grown.trans ⟨[x], by simp, fun _ member => List.mem_singleton.mp member ▸ fine⟩

end Appended

/-- What an act writes, or puts into a file, is escaped. -/
def Act.Escaped : Act → Prop
  | .called _ => True
  | .wrote _ text => Text.Escaped text
  | .created _ content => Text.Escaped content

/-- On the way from one machine to the other, escaped texts alone were written and put into
files. -/
structure Machine.Adds (m n : Machine) : Prop where
  /-- To the sink. -/
  texts : Appended Text.Escaped m.sink.written.texts n.sink.written.texts
  /-- As the journal tells. -/
  journal : Appended Act.Escaped m.host.journal n.host.journal

/-- The templates that are known are plain, and nothing is raw that was met since the first
machine. -/
structure Machine.Clean (host : Host) (origin m : Machine) : Prop where
  /-- The known templates. -/
  library : m.library.Plain
  /-- What the context of the first machine leads to after the acts since. -/
  cooked : ∀ acts, origin.host.Comes host acts m.host →
    ∀ v, origin.context.Meets host origin.host.heap acts v → v.raw = false

/-- If the second machine is clean, then the first was, and escaped texts alone were added on the
way. -/
def Machine.Yields (host : Host) (origin m n : Machine) : Prop :=
  origin.Clean host n → origin.Clean host m ∧ m.Adds n

/-- What is asked of a machine from which a task is started: it has the escaper for markup, and the
templates whose blocks override are plain if the known ones are. -/
structure Machine.Prepared (m : Machine) : Prop where
  /-- The escaper. -/
  html : m.context.escaper = some Escaper.html
  /-- The templates whose blocks override. -/
  chain : m.library.Plain → ∀ t ∈ m.chain, t.Plain

/-- The templates and nodes of a task are plain. -/
def Task.Plain : Task → Prop
  | .template t => t.Plain
  | .nodes owner ns => owner.Plain ∧ Node.PlainIn ns
  | .iterate owner _ _ body _ _ _ => owner.Plain ∧ Node.PlainIn body

namespace Machine

variable {host : Host} {origin m n k : Machine}

/-- Nothing was added where nothing happened. -/
theorem Adds.refl (m : Machine) : m.Adds m := ⟨.refl _, .refl _⟩

/-- What is added on the way to a machine and from there on is added. -/
theorem Adds.trans (first : m.Adds n) (second : n.Adds k) : m.Adds k :=
  ⟨first.texts.trans second.texts, first.journal.trans second.journal⟩

/-- What is known stays known, so templates that are plain later were plain before. -/
theorem Stays.plain (stays : m.Stays n) (plain : n.library.Plain) : m.library.Plain :=
  fun key t known => plain key t (stays.library key t known)

/-- A machine is clean if one is to which it leads, since nothing known or met is forgotten. -/
theorem Clean.before (clean : origin.Clean host n) (stays : m.Stays n)
    (comes : ∃ acts, m.host.Comes host acts n.host) : origin.Clean host m where
  library := stays.plain clean.library
  cooked before led v meets := by
    obtain ⟨acts, on⟩ := comes
    exact clean.cooked (before ++ acts) (led.trans on) v (meets.later acts)

/-- The context of a clean machine leads to nothing raw if its bindings are bare or were met. -/
theorem Clean.harmless (clean : origin.Clean host m) (familiar : origin.Familiar host m) :
    m.Harmless where
  library := clean.library
  tame scope member name v found := by
    rcases familiar.sees scope member name v found with met | bare
    · intro w reached
      -- what is led to from a value that was met was met
      have met : origin.Met host m.host w := by
        induction reached with
        | refl => exact met
        | tail before part ih => exact ih.part part
      obtain ⟨acts, led, meets⟩ := met
      exact clean.cooked acts led w meets
    · exact Heap.only_of_flat bare.list bare.record bare.raw

/-- A machine yields itself. -/
theorem Yields.refl (m : Machine) : Yields host origin m m := fun clean => ⟨clean, .refl m⟩

/-- What is yielded by what is yielded is yielded. -/
theorem Yields.trans (first : Yields host origin m n) (second : Yields host origin n k) :
    Yields host origin m k := by
  intro clean
  obtain ⟨between, late⟩ := second clean
  obtain ⟨start, early⟩ := first between
  exact ⟨start, early.trans late⟩

/-- Where no templates override, none of them need be asked about. -/
theorem prepared_of_nil (html : m.context.escaper = some Escaper.html) (none : m.chain = []) :
    m.Prepared where
  html := html
  chain _ t within := by
    rw [none] at within
    cases within

/-- A render leaves a machine prepared. -/
theorem Prepared.leads (prepared : m.Prepared) (leads : m.Leads host n) : n.Prepared where
  html := leads.escaper.trans prepared.html
  chain plain := leads.chain ▸ prepared.chain (leads.toStays.plain plain)

end Machine

namespace Render

variable {α β : Type} {setting : Setting} {origin m n : Machine}

/-- Where a steady render is done, the machine is prepared still. -/
theorem prepared_of_done {host : Host} {x : Render α} {v : α} (prepared : m.Prepared)
    (steady : Steady host x) (done : x m = .done v n) : n.Prepared :=
  prepared.leads (steady.returns done).toLeads

/-- Wherever the render ends, if the machine is clean there, then escaped texts alone were written
and put into files. -/
def Escapes (host : Host) (origin : Machine) (x : Render α) (m : Machine) : Prop :=
  (x m).Holds (fun _ n => Machine.Yields host origin m n)
    (fun _ n => Machine.Yields host origin m n) True

/-- Reading adds nothing. -/
theorem escapes_reads (f : Machine → α) : Escapes setting.host origin (reads f) m := .refl m

/-- Two renders in turn add escaped texts if each does. -/
theorem Escapes.bind {x : Render α} {f : α → Render β} (first : Escapes setting.host origin x m)
    (second : ∀ v n, x m = .done v n → Escapes setting.host origin (f v) n) :
    Escapes setting.host origin (x >>= f) m := by
  unfold Escapes at first ⊢
  rw [holds_bind]
  cases ended : x m with
  | done v n =>
    rw [ended] at first
    exact (second v n ended).mono (fun _ _ => first.trans) (fun _ _ => first.trans) id
  | failed error n =>
    rw [ended] at first
    exact first
  | outOfFuel => trivial

/-- Where the render is done, what it came from is yielded. -/
theorem Escapes.yields {x : Render α} {v : α} (escapes : Escapes setting.host origin x m)
    (done : x m = .done v n) : Machine.Yields setting.host origin m n := by
  unfold Escapes at escapes
  rwa [done] at escapes

/-- A change of the machine that leaves alone what is known, what happened and what was written. -/
structure Aside (f : Machine → Machine) : Prop where
  /-- The known templates. -/
  library : ∀ m, (f m).library = m.library
  /-- The state of the host. -/
  host : ∀ m, (f m).host = m.host
  /-- The sink. -/
  sink : ∀ m, (f m).sink = m.sink

/-- A clean machine is clean after such a change. -/
theorem Aside.clean_iff {f : Machine → Machine} (aside : Aside f) {host : Host} :
    origin.Clean host (f m) ↔ origin.Clean host m := by
  constructor
  · rintro ⟨library, cooked⟩
    rw [aside.library] at library
    rw [aside.host] at cooked
    exact ⟨library, cooked⟩
  · rintro ⟨library, cooked⟩
    refine ⟨?_, ?_⟩
    · rwa [aside.library]
    · rwa [aside.host]

/-- A state may be entered and left that leaves aside what is written. -/
theorem Escapes.around {body : Render α} {enter leave : Machine → Machine}
    (inside : Escapes setting.host origin body (enter m)) (enters : Aside enter)
    (leaves : Aside leave) : Escapes setting.host origin (around enter leave body) m := by
  have outside : ∀ n, Machine.Yields setting.host origin (enter m) n →
      Machine.Yields setting.host origin m (leave n) := by
    intro n yields clean
    obtain ⟨before, texts, journal⟩ := yields (leaves.clean_iff.mp clean)
    rw [enters.sink] at texts
    rw [enters.host] at journal
    refine ⟨enters.clean_iff.mp before, ?_, ?_⟩
    · rwa [leaves.sink]
    · rwa [leaves.host]
  unfold Escapes at inside ⊢
  rw [holds_around]
  exact inside.mono (fun _ n => outside n) (fun _ n => outside n) id

/-- The chain may be put aside. -/
theorem Escapes.detached {body : Render Unit}
    (inside : Escapes setting.host origin body { m with chain := [] }) :
    Escapes setting.host origin (detached body) m := by
  unfold Escapes
  rw [detached_apply]
  exact inside.around ⟨fun _ => rfl, fun _ => rfl, fun _ => rfl⟩
    ⟨fun _ => rfl, fun _ => rfl, fun _ => rfl⟩

/-- A scope may be opened. -/
theorem Escapes.inScope {host : Host} {body : Render Unit}
    (leads : Within (Machine.Leads host) body)
    (inside : Escapes setting.host origin body { m with context := m.context.push }) :
    Escapes setting.host origin (inScope body) m := by
  unfold Escapes
  rw [inScope_eq_around leads]
  exact inside.around ⟨fun _ => rfl, fun _ => rfl, fun _ => rfl⟩
    ⟨fun _ => rfl, fun _ => rfl, fun _ => rfl⟩

/-- A text is added that is escaped if the machine is clean. -/
theorem escapes_emit {text : String} (escaped : origin.Clean setting.host m → Text.Escaped text) :
    Escapes setting.host origin (emit text) m := by
  unfold Escapes
  rw [holds_emit]
  split
  · intro clean
    have start : origin.Clean setting.host m :=
      clean.before ⟨rfl, rfl, fun _ _ => id, id⟩ ⟨[.wrote m.sink.level text], by simp, rfl⟩
    exact ⟨start, (Appended.refl _).push (escaped start), (Appended.refl _).push (escaped start)⟩
  · exact .refl m

/-- Evaluation does no more that can be seen than invoke callables. -/
theorem escapes_evaluate (expr : Expr) : Escapes setting.host origin (evaluate setting expr) m := by
  have steady : Steady setting.host (evaluate setting expr) := steady_evaluate expr
  have returns := steady.returns (m := m) rfl
  have told : m.Recounted setting.host
      { m with host := (expr.eval setting.host m.context m.host).2 } := journaled_evaluate expr m
  exact fun clean => ⟨clean.before returns.toStays told.comes, .refl _,
    expr.eval_kept (fun s => Appended Act.Escaped m.host.journal s.journal)
      (fun _ _ grown => grown.push trivial) m.context (.refl _)⟩

/-- Loading a template adds it to those that are known. -/
theorem escapes_load (name : String) : Escapes setting.host origin (load setting name) m := by
  cases loaded : load setting name m with
  | done t n =>
    have steady : Steady setting.host (load setting name) := steady_load name
    have returns := steady.returns loaded
    obtain ⟨library, -, rfl⟩ := done_load loaded
    unfold Escapes
    rw [loaded]
    exact fun clean => ⟨clean.before returns.toStays ⟨[], .refl _ _⟩, .refl _, .refl _⟩
  | failed error n =>
    have same : n = m := by
      unfold load at loaded
      split at loaded <;> cases loaded
      rfl
    unfold Escapes
    rw [loaded, same]
    exact .refl m
  | outOfFuel =>
    unfold Escapes
    rw [loaded]
    trivial

/-- So does resolving one. -/
theorem escapes_resolve (expr : Expr) : Escapes setting.host origin (resolve setting expr) m :=
  (escapes_evaluate expr).bind fun v _ _ => escapes_load v.text

/-- A template that is loaded is plain if the known ones are. -/
theorem plain_of_resolve {expr : Expr} {t : Template}
    (resolved : resolve setting expr m = .done t n) (plain : n.library.Plain) : t.Plain := by
  obtain ⟨v, k, -, loaded⟩ := done_bind.mp resolved
  obtain ⟨library, read, rfl⟩ := done_load loaded
  exact plain _ t (Library.get?_of_load read)

/-- What was captured is all that was written, so it may be the content of a file. -/
theorem escapes_captured {body : Render Unit} {f : String → Render β}
    (inside : Escapes setting.host origin body
      { m with sink := .unlimited (m.sink.level + 1) })
    (next : ∀ content n, (origin.Clean setting.host n → Text.Escaped content) →
      Escapes setting.host origin (f content) n) :
    Escapes setting.host origin (captured body >>= f) m := by
  have back : ∀ n, Machine.Yields setting.host origin
      { m with sink := .unlimited (m.sink.level + 1) } n →
      Machine.Yields setting.host origin m { n with sink := m.sink } := by
    intro n yields clean
    obtain ⟨before, adds⟩ := yields ⟨clean.library, clean.cooked⟩
    exact ⟨⟨before.library, before.cooked⟩, .refl _, adds.journal⟩
  unfold Escapes
  rw [holds_bind, holds_captured]
  refine inside.mono (fun _ n yields => ?_) (fun _ n => back n) fun _ => trivial
  have content : origin.Clean setting.host { n with sink := m.sink } →
      Text.Escaped n.sink.text := by
    intro clean
    obtain ⟨-, ⟨texts, written, escaped⟩, -⟩ := yields ⟨clean.library, clean.cooked⟩
    have all : n.sink.written.texts.toList = texts := written
    exact Text.escaped_join (all ▸ escaped)
  exact (next n.sink.text _ content).mono (fun _ _ => (back n yields).trans)
    (fun _ _ => (back n yields).trans) id

/-- A file is created with a content that is escaped if the machine is clean. -/
theorem escapes_create {content : String}
    (escaped : origin.Clean setting.host m → Text.Escaped content) (owner : Template) (line : Nat)
    (file : String) : Escapes setting.host origin (create owner line file content) m := by
  unfold Escapes
  rw [create_eq]
  intro clean
  have start : origin.Clean setting.host m :=
    clean.before ⟨rfl, rfl, fun _ _ => id, id⟩
      ⟨[.created (targetPath m.context file) content], by simp, rfl⟩
  exact ⟨start, .refl _, (Appended.refl _).push (escaped start)⟩

/-- What stands in the place of a block is plain if the overriding templates and the block are. -/
theorem plain_blockBody {chain : List Template} {owner : Template} {body : List Node}
    (overriding : ∀ t ∈ chain, t.Plain) (owned : owner.Plain) (plain : Node.PlainIn body)
    (name : String) : (blockBody chain owner name body).1.Plain ∧
      Node.PlainIn (blockBody chain owner name body).2 := by
  unfold blockBody
  cases found : chain.findSome? fun t => (t.blocks.get? name).map (t, ·) with
  | none => exact ⟨owned, plain⟩
  | some result =>
    obtain ⟨t, member, has⟩ := List.exists_of_findSome?_eq_some found
    obtain ⟨chosen, bound, rfl⟩ := Option.map_eq_some_iff.mp has
    exact ⟨overriding t member, (overriding t member).body name chosen bound⟩

section Step

variable {run : Task → Render Unit} {owner : Template} {ns : List Node}
  (steady : ∀ task, (steadiness setting.host).Meets task fun _ => run task)
  (inside : ∀ task m, m.Prepared → (m.library.Plain → task.Plain) →
    Escapes setting.host origin (run task) m)

include steady inside

/-- A plain node writes escaped texts only if it is begun where every binding is bare or was met. -/
theorem escapes_node (familiar : origin.Familiar setting.host m) (prepared : m.Prepared)
    (plain : m.library.Plain → owner.Plain ∧ Node.PlainIn ns) {node : Node} (member : node ∈ ns) :
    Escapes setting.host origin (Render.node setting run owner node) m := by
  have strings : m.library.Plain → ∀ s ∈ node.strings, Text.Plain s := fun known =>
    (plain known).2.strings member
  have held : ∀ body ∈ node.bodies, ∀ k, m.Stays k → k.Prepared →
      Escapes setting.host origin (run (.nodes owner body)) k := fun body holds k stays there =>
    inside (.nodes owner body) k there fun known =>
      ⟨(plain (stays.plain known)).1, (plain (stays.plain known)).2.inner member holds⟩
  have apart : ∀ t k, k.Prepared → (k.library.Plain → t.Plain) →
      Escapes setting.host origin (detached (run (.template t))) k := fun t k there loaded =>
    Escapes.detached (inside (.template t) _ (Machine.prepared_of_nil there.html rfl) loaded)
  cases node with
  | text s => exact escapes_emit fun clean => (strings clean.library s List.mem_cons_self).escaped
  | «variable» expr =>
    refine (escapes_evaluate expr).bind fun v n evaluated => ?_
    have yields : Machine.Yields setting.host origin m n := (escapes_evaluate expr).yields evaluated
    cases evaluated
    refine (escapes_reads _).bind fun text k read => ?_
    cases read
    refine escapes_emit fun clean => ?_
    have before := (yields clean).1
    exact escaped_shown prepared.html
      (expr.plainIfRaw_eval (before.harmless familiar) (strings before.library) _)
  | forEach var expr reversed body otherwise =>
    refine (escapes_evaluate expr).bind fun v n evaluated => ?_
    have there := prepared_of_done prepared (steady_evaluate expr) evaluated
    have stays := ((steady_evaluate expr).returns evaluated).toStays
    have empty := held otherwise (by simp [Node.bodies]) n stays there
    cases v.list? with
    | none => exact empty
    | some list =>
      refine (escapes_reads _).bind fun count k read => ?_
      cases read
      split
      · refine Escapes.inScope (steady (.iterate owner var reversed body list _ 0)) ?_
        refine inside _ _ ⟨there.html, there.chain⟩ fun known => ?_
        have before := plain (stays.plain known)
        exact ⟨before.1, before.2.inner member (by simp [Node.bodies])⟩
      · exact empty
  | condition test negated yes no =>
    refine (escapes_evaluate test).bind fun v n evaluated => ?_
    have there := prepared_of_done prepared (steady_evaluate test) evaluated
    have stays := ((steady_evaluate test).returns evaluated).toStays
    refine (escapes_reads _).bind fun holds k read => ?_
    cases read
    split
    · exact held yes (by simp [Node.bodies]) _ stays there
    · exact held no (by simp [Node.bodies]) _ stays there
  | block name body =>
    refine (escapes_reads _).bind fun chosen k read => ?_
    cases read
    refine inside _ _ prepared fun known => ?_
    have parts := (plain known).2.inner member (List.mem_cons_self : body ∈ [body])
    exact plain_blockBody (prepared.chain known) (plain known).1 parts name
  | inherits parent =>
    refine (escapes_resolve parent).bind fun t n resolved => ?_
    have there := prepared_of_done prepared (steady_resolve parent) resolved
    have stays := ((steady_resolve parent).returns resolved).toStays
    refine Escapes.around ?_ ⟨fun _ => rfl, fun _ => rfl, fun _ => rfl⟩
      ⟨fun _ => rfl, fun _ => rfl, fun _ => rfl⟩
    have loaded := plain_of_resolve resolved
    refine inside (.template t) _ ⟨there.html, fun known d within => ?_⟩ fun known => loaded known
    rcases List.mem_append.mp within with earlier | last
    · exact there.chain known d earlier
    · rw [List.mem_singleton.mp last]
      exact (plain (stays.plain known)).1
  | includes template =>
    refine (escapes_resolve template).bind fun t n resolved => ?_
    have there := prepared_of_done prepared (steady_resolve template) resolved
    exact apart t n there (plain_of_resolve resolved)
  | creates file template line =>
    refine (escapes_evaluate file).bind fun named k evaluated => ?_
    have first := prepared_of_done prepared (steady_evaluate file) evaluated
    refine (escapes_resolve template).bind fun t n resolved => ?_
    have there := prepared_of_done first (steady_resolve template) resolved
    have loaded := plain_of_resolve resolved
    exact escapes_captured (apart t _ ⟨there.html, there.chain⟩ loaded) fun content after escaped =>
      escapes_create escaped owner line named.text

/-- Plain nodes write escaped texts only if each is begun where every binding is bare or was met. -/
theorem escapes_screenedNodes [DecidablePred (origin.Familiar setting.host)]
    (prepared : m.Prepared) (plain : m.library.Plain → owner.Plain ∧ Node.PlainIn ns)
    {rest : List Node} (sub : rest ⊆ ns) :
    Escapes setting.host origin
      (screenedNodes setting (fun _ => origin.Familiar setting.host) run owner rest) m := by
  induction rest generalizing m with
  | nil => exact .refl m
  | cons first rest ih =>
    have here : Escapes setting.host origin
        (guarded (origin.Familiar setting.host) (node setting run owner first)) m := by
      unfold Escapes guarded
      split
      · rename_i familiar
        exact escapes_node steady inside familiar prepared plain (sub List.mem_cons_self)
      · trivial
    have back : Steady setting.host (node setting run owner first) :=
      (compatible_steadiness setting).node steady owner first
    refine here.bind fun _ n done => ?_
    have returns := Steady.returns ((sparing_guarded _ _).within back) done
    split
    · exact .refl n
    · exact ih (prepared.leads returns.toLeads) (fun known => plain (returns.toStays.plain known))
        fun node member => sub (List.mem_cons_of_mem _ member)

/-- Iterations write escaped texts only if the body does. -/
theorem escapes_iterate {var : String} {reversed : Bool} {body : List Node} {list : ListRef}
    {cursor : Cursor} {index : Nat} (prepared : m.Prepared)
    (plain : m.library.Plain → owner.Plain ∧ Node.PlainIn body) :
    Escapes setting.host origin
      (iterate setting run owner var reversed body list cursor index) m := by
  unfold Escapes
  rw [iterate_apply]
  cases cursor.current m.host.heap list with
  | none => exact .refl m
  | some item =>
    have html : (bound setting var item list index m).context.escaper = some Escaper.html := by
      rw [← prepared.html]
      unfold bound
      cases setting.config.loopMetadata <;> rfl
    have start : (bound setting var item list index m).Prepared := ⟨html, prepared.chain⟩
    have rounds := (inside (.nodes owner body) _ start plain).bind fun _ n done => by
      have back : Steady setting.host (run (.nodes owner body)) := steady (.nodes owner body)
      have returns := back.returns done
      exact inside (.iterate owner var reversed body list (advance reversed cursor) (index + 1)) n
        (start.leads returns.toLeads) fun known => plain (returns.toStays.plain known)
    have told : ∀ n, Machine.Yields setting.host origin (bound setting var item list index m) n →
        Machine.Yields setting.host origin m n := fun n yields clean =>
      ⟨⟨(yields clean).1.library, (yields clean).1.cooked⟩, (yields clean).2.texts,
        (yields clean).2.journal⟩
    exact rounds.mono (fun _ n => told n) (fun _ n => told n) id

omit steady in
/-- A plain template writes escaped texts only if its nodes do. -/
theorem escapes_template {t : Template} (prepared : m.Prepared)
    (plain : m.library.Plain → t.Plain) :
    Escapes setting.host origin (template setting run t) m := by
  refine (escapes_reads _).bind fun active n read => ?_
  cases read
  split
  · exact .refl m
  · split
    · exact .refl m
    · refine Escapes.around ?_ ⟨fun _ => rfl, fun _ => rfl, fun _ => rfl⟩
        ⟨fun _ => rfl, fun _ => rfl, fun _ => rfl⟩
      exact inside (.nodes t t.nodes) _ ⟨prepared.html, prepared.chain⟩ fun known =>
        ⟨plain known, (plain known).nodes⟩

end Step

/-- A run of a plain task writes escaped texts only if every node is begun where every binding is
bare or was met. -/
theorem escapes_screenedRun [DecidablePred (origin.Familiar setting.host)] (fuel : Nat)
    (task : Task) (m : Machine) (prepared : m.Prepared) (plain : m.library.Plain → task.Plain) :
    Escapes setting.host origin
      (screenedRun setting (fun _ => origin.Familiar setting.host) fuel task) m := by
  induction fuel generalizing task m with
  | zero => trivial
  | succ fuel ih =>
    have steady : ∀ task, (steadiness setting.host).Meets task fun _ =>
        screenedRun setting (fun _ => origin.Familiar setting.host) fuel task :=
      steady_screenedRun fuel
    cases task with
    | template t => exact escapes_template ih prepared plain
    | nodes owner ns =>
      exact escapes_screenedNodes steady ih prepared plain (List.Subset.refl ns)
    | iterate owner var reversed body list cursor index =>
      exact escapes_iterate steady ih prepared plain

end Render

/-- Let the escaper for markup be installed, let the template and all templates that the render
loads be plain, and let nothing be raw to which the context leads, at the start or by what the
callables that the render invokes add. Then all that the render writes to the sink is escaped, and
so is the content of every file that it creates, whether it is done or fails, and whatever the
callables answer. -/
theorem Template.escaped_render {setting : Setting} {fuel : Nat} {t : Template} {m n : Machine}
    {acts : List Act} (ended : t.render setting fuel m = .done () n ∨
      ∃ error, t.render setting fuel m = .failed error n)
    (plain : t.Plain) (known : n.library.Plain) (html : m.context.escaper = some Escaper.html)
    (journal : n.host.journal.toList = m.host.journal.toList ++ acts)
    (cooked : ∀ v, m.context.Meets setting.host m.host.heap acts v → v.raw = false) :
    ∃ texts, n.sink.written.texts.toList = m.sink.written.texts.toList ++ texts ∧
      Text.Escaped (String.join texts) ∧
      ∀ path content, .created path content ∈ acts → Text.Escaped content := by
  have prepared : Machine.Prepared { m with active := [], chain := [], outcomes := #[] } :=
    Machine.prepared_of_nil html rfl
  have clean : m.Clean setting.host n := by
    refine ⟨known, fun others led v meets => cooked v ?_⟩
    have same : others = acts := List.append_cancel_left (led.journal.symm.trans journal)
    rwa [← same]
  classical
  have escapes : Render.Escapes setting.host m (Render.screenedRun setting
      (fun _ => m.Familiar setting.host) fuel (.template t))
      { m with active := [], chain := [], outcomes := #[] } :=
    Render.escapes_screenedRun fuel (.template t) _ prepared fun _ => plain
  have screened := (t.always_familiar setting fuel m).screenedRun_eq
  unfold Render.Escapes at escapes
  rw [screened] at escapes
  have adds : Machine.Adds { m with active := [], chain := [], outcomes := #[] } n := by
    rcases ended with done | ⟨error, failed⟩
    · rw [done] at escapes
      exact (escapes clean).2
    · rw [failed] at escapes
      exact (escapes clean).2
  obtain ⟨⟨texts, written, escaped⟩, ⟨others, happened, fine⟩⟩ := adds
  have same : others = acts := List.append_cancel_left (happened.symm.trans journal)
  subst same
  exact ⟨texts, written, Text.escaped_join escaped, fun path content member => fine _ member⟩

/-- A template that writes the items of a list, each followed by what a callable answers, and
creates a file. -/
def Template.register : Template where
  name := "register"
  nodes := [.forEach "x" ⟨.path "xs" [], []⟩ false
    [.variable ⟨.path "x" [], [.add (.text ", ")]⟩, .variable ⟨.path "next" [], []⟩] [],
    .creates ⟨.literal (.text "mark"), []⟩ ⟨.literal (.text "mark"), []⟩ 1]
  blocks := ∅

/-- A template that writes a field of a record. -/
def Template.mark : Template where
  name := "mark"
  nodes := [.text "by ", .variable ⟨.path "user" ["name"], [.default (.text "nobody")]⟩]
  blocks := ∅

/-- A callable that answers with a quote and adds an ampersand to the list, which it lets grow to
two items. -/
def Setting.signing : Setting := ⟨.stock #[.append ⟨0⟩ (.ofText "&") 2 "\"; "], default⟩

/-- A context with the callable, a list that holds an angle bracket, and a record with an
apostrophe. -/
def Machine.signing : Machine :=
  .start (Table.insert ∅ "mark" Template.mark)
    { top := .ofList [("xs", .ofList ⟨0⟩), ("next", .ofCallable ⟨0⟩), ("user", .ofRecord ⟨0⟩)]
      outer := []
      outputDir := none
      escaper := some Escaper.html }
    ⟨#[#[.ofText "<"]], #[.ofList [("name", .ofText "O'Neil")]]⟩

/-- The callable adds a value that refers to nothing and is not raw. -/
theorem Setting.cooked_signing : Setting.signing.host.Cooked := by
  refine Host.cooked_stock fun callable member w given => ?_
  have only : callable = .append ⟨0⟩ (.ofText "&") 2 "\"; " := by simpa using member
  subst only
  rw [List.mem_singleton.mp given]
  exact Value.bare_ofText "&"

/-- So it is where markup is in a list and in a record, and a callable puts more of it into the list
and answers with it. -/
theorem Template.escaped_render_register :
    ∃ n acts, Template.register.render .signing 20 .signing = .done () n ∧
      n.sink.text = "&lt;, &quot;; &amp;, &quot;; " ∧ n.host.journal.toList = acts ∧
      .created ⟨"mark"⟩ "by O&#39;Neil" ∈ acts ∧
      ∃ texts, n.sink.written.texts.toList = texts ∧ Text.Escaped (String.join texts) ∧
        ∀ path content, .created path content ∈ acts → Text.Escaped content := by
  have plain : Template.register.Plain := ⟨by decide, fun _ _ bound => by cases bound⟩
  have ended : (match Template.register.render .signing 20 .signing with
      | .done _ n => some (n.sink.text, n.host.journal.toList, decide n.library.Unmarked)
      | _ => none) = some ("&lt;, &quot;; &amp;, &quot;; ",
        [.wrote 0 "&lt;, ", .called ⟨0⟩, .wrote 0 "&quot;; ", .wrote 0 "&amp;, ", .called ⟨0⟩,
          .wrote 0 "&quot;; ", .wrote 1 "by ", .wrote 1 "O&#39;Neil",
          .created ⟨"mark"⟩ "by O&#39;Neil"], true) := by
    decide +kernel
  have tame := Machine.Sheltered.tame (m := .signing) (by decide +kernel)
  split at ended
  · rename_i n done
    obtain ⟨text, found⟩ := Prod.mk.inj (Option.some.inj ended)
    obtain ⟨journal, unmarked⟩ := Prod.mk.inj found
    have known := Library.Unmarked.plain (of_decide_eq_true unmarked)
    refine ⟨n, _, done, text, journal, by simp, ?_⟩
    exact Template.escaped_render (.inl done) plain known rfl journal fun v meets =>
      (meets.tame Setting.cooked_signing tame).raw
  · cases ended

end TextTemplate

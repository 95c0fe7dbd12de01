import TextTemplate.Proofs.Render.Comparison
/-!
# Renders that do the same

Every operation of a step does the same from paired machines, so every task does, with any fuel and
also with all that it needs. The two machines may differ in the templates that are being rendered,
in what was written and noted before, and in the hidden templates.
-/
namespace TextTemplate

/-- A name that is known stays known wherever a render leads. -/
theorem Machine.Leads.knows {host : Host} {m n : Machine} (leads : m.Leads host n)
    {hidden : List String} (knows : m.Knows hidden) : n.Knows hidden := by
  obtain ⟨name, inside, t, known⟩ := knows
  exact ⟨name, inside, t, leads.library name t known⟩

namespace Render

variable {α β : Type} {c : Comparison} {hidden : List String}
  {post post' : Machine → Machine → Prop} {m n : Machine}

/-- Matching renders in turn match, if the second on the left never forgets a template. -/
theorem matches_bind {host : Host} {x y : Render α} {f g : α → Render β}
    (first : (x m).Matches hidden post (y n))
    (second : ∀ v m' n', x m = .done v m' → y n = .done v n' → post m' n' →
      (f v m').Matches hidden post' (g v n'))
    (leads : ∀ v, Within (Machine.Leads host) (f v)) :
    ((x >>= f) m).Matches hidden post' ((y >>= g) n) where
  forth w m'' done := by
    obtain ⟨v, m', left, later⟩ := done_bind.mp done
    rcases first.forth v m' left with knows | ⟨n', right, holds⟩
    · have back := leads v m'
      rw [later] at back
      exact .inl (back.knows knows)
    · rcases (second v m' n' left right holds).forth w m'' later with knows | ⟨n'', there, holds⟩
      · exact .inl knows
      · exact .inr ⟨n'', done_bind.mpr ⟨v, n', right, there⟩, holds⟩
  back w n'' done := by
    obtain ⟨v, n', right, later⟩ := done_bind.mp done
    rcases first.back v n' right with ⟨m', left, holds⟩ | ⟨error, m', left, guard⟩
    · rcases (second v m' n' left right holds).back w n'' later with
        ⟨m'', there, holds⟩ | ⟨error, m'', there, guard⟩
      · exact .inl ⟨m'', done_bind.mpr ⟨v, m', left, there⟩, holds⟩
      · refine .inr ⟨error, m'', ?_, guard⟩
        rw [bind_apply, left]
        exact there
    · exact .inr ⟨error, m', failed_bind left, guard⟩

/-- Matching renders match after both states were entered, if leaving them forgets no template. -/
theorem matches_around {x y : Render α} {enter leave enter' leave' : Machine → Machine}
    (inside : (x (enter m)).Matches hidden post (y (enter' n)))
    (after : ∀ v m' n', x (enter m) = .done v m' → y (enter' n) = .done v n' → post m' n' →
      post' (leave m') (leave' n'))
    (kept : ∀ k, (leave k).library = k.library) :
    (around enter leave x m).Matches hidden post' (around enter' leave' y n) where
  forth v k done := by
    obtain ⟨m', left, rfl⟩ := done_around.mp done
    rcases inside.forth v m' left with knows | ⟨n', right, holds⟩
    · refine .inl ?_
      unfold Machine.Knows
      rwa [kept]
    · exact .inr ⟨leave' n', done_around.mpr ⟨n', right, rfl⟩, after v m' n' left right holds⟩
  back v k done := by
    obtain ⟨n', right, rfl⟩ := done_around.mp done
    rcases inside.back v n' right with ⟨m', left, holds⟩ | ⟨error, m', left, guard⟩
    · exact .inl ⟨leave m', done_around.mpr ⟨m', left, rfl⟩, after v m' n' left right holds⟩
    · refine .inr ⟨error, leave m', ?_, guard⟩
      rw [around, left]

/-- Two renders do the same from paired machines. -/
def Relates (c : Comparison) (x y : Render α) : Prop :=
  ∀ m n, Paired c m n →
    (x m).Matches c.hidden (fun m' n' => Paired c m' n' ∧ Together c m n m' n') (y n)

/-- Two renders that are done at once do the same if the machines after them are paired. -/
theorem Relates.of_done {x y : Render α} (value : Machine → α) (left right : Machine → Machine)
    (done : ∀ m n, Paired c m n → x m = .done (value m) (left m) ∧ y n = .done (value m) (right n) ∧
      Paired c (left m) (right n) ∧ Together c m n (left m) (right n)) : Relates c x y := by
  intro m n paired
  obtain ⟨here, there, after, together⟩ := done m n paired
  rw [here, there]
  exact .done _ ⟨after, together⟩

/-- What does the same twice does the same in turn. -/
theorem Relates.bind {host : Host} {x y : Render α} {f g : α → Render β} (first : Relates c x y)
    (second : ∀ v, Relates c (f v) (g v)) (leads : ∀ v, Within (Machine.Leads host) (f v)) :
    Relates c (x >>= f) (y >>= g) := fun m n paired =>
  matches_bind (first m n paired) (fun v m' n' _ _ ⟨after, together⟩ =>
    (second v m' n' after).mono fun _ _ ⟨last, later⟩ => ⟨last, together.trans later⟩) leads

/-- Reading what both machines have in common does the same. -/
theorem relates_reads (f : Machine → α) (same : ∀ m n, Paired c m n → f m = f n) :
    Relates c (reads f) (reads f) :=
  Relates.of_done f id id fun m n paired => by
    refine ⟨rfl, ?_, paired, .refl c m n⟩
    rw [same m n paired]
    rfl

/-- Reading the heap does the same where there is one heap. -/
theorem relates_heap (one : c.heaps = Eq) (f : Heap → α) :
    Relates c (reads fun m => f m.host.heap) (reads fun m => f m.host.heap) :=
  relates_reads _ fun m n paired => by rw [paired.heap_eq one]

/-- Putting out a text does the same. -/
theorem relates_emit (text : String) : Relates c (emit text) (emit text) := by
  intro m n paired
  have taken := paired.sink.accepts [] text
  unfold emit
  rw [show m.sink.accepts m.sink.written text = n.sink.accepts n.sink.written text from taken]
  split
  · refine .done _ ⟨{ paired with sink := paired.sink.writeAll [text] }, ⟨[text], rfl, rfl⟩, ?_,
      fun _ => .refl _ _⟩
    rw [paired.sink.level]
    exact .push _ _ _
  · exact .failed _ _ _

/-- Evaluation finds the same on one heap and invokes the same callables. -/
theorem relates_evaluate (setting : Setting) (one : c.heaps = Eq) (expr : Expr) :
    Relates c (evaluate setting expr) (evaluate setting expr) := by
  intro m n paired
  have heap : m.host.heap = n.host.heap := paired.heap_eq one
  -- invoking a callable finds one heap and notes the same in both journals
  have called : ∀ (s t : HostState) (ref : CallableRef), s.heap = t.heap ∧
      Alongside m.host.journal n.host.journal s.journal t.journal →
      (s.invoked setting.host ref).heap = (t.invoked setting.host ref).heap ∧
        Alongside m.host.journal n.host.journal (s.invoked setting.host ref).journal
          (t.invoked setting.host ref).journal := by
    intro s t ref ⟨same, journal⟩
    exact ⟨by simp [HostState.invoked, same], journal.trans (.push _ _ _)⟩
  obtain ⟨value, same, journal⟩ := Expr.eval_related
    (fun s t => s.heap = t.heap ∧ Alongside m.host.journal n.host.journal s.journal t.journal)
    (fun _ _ both => both.1) called m.context expr ⟨heap, .refl _ _⟩
  unfold evaluate
  dsimp only
  rw [← paired.context, ← value]
  refine .done _ ⟨{ paired with heap := ?_, context := rfl }, ⟨[], rfl, rfl⟩, journal,
    fun _ => .refl _ _⟩
  rw [one]
  exact same

/-- A file is created alike, apart from the template that an outcome names. -/
theorem relates_create {owner other : Template} (owners : c.outcomes → owner = other) (line : Nat)
    (file content : String) :
    Relates c (create owner line file content) (create other line file content) := by
  intro m n paired
  have path : targetPath m.context file = targetPath n.context file := by rw [paired.context]
  have saved : ∀ owner, (stored owner line file (targetPath n.context file) content n.files).1 =
      (stored other line file (targetPath n.context file) content n.files).1 := by
    intro owner
    unfold stored
    split <;> rfl
  rw [create_eq, create_eq]
  dsimp only
  rw [path, paired.files]
  refine .done _ ⟨{ paired with files := saved owner }, ⟨[], rfl, rfl⟩, .push _ _ _, fun same => ?_⟩
  rw [owners same]
  exact .push _ _ _

/-- Binding a name does the same. -/
theorem relates_bindName (name : String) (v : Value) :
    Relates c (bindName name v) (bindName name v) := by
  intro m n paired
  have context : m.context.set name v = n.context.set name v := by rw [paired.context]
  exact .done _ ⟨{ paired with context := context }, { Together.refl c m n with }⟩

/-- What follows a load does the same if it does so for every template that is not hidden, and if it
is never done on the second side for a template that is being rendered. -/
theorem relates_load {setting : Setting} (name : String) {f g : Template → Render α}
    (leads : ∀ t, Within (Machine.Leads setting.host) (f t))
    (relates : ∀ t, t.name ∉ c.hidden → Relates c (f t) (g t))
    (never : ∀ t n, t.name ∈ n.active → ∀ v k, g t n ≠ .done v k) :
    Relates c (load setting name >>= f) (load setting name >>= g) := by
  intro m n paired
  by_cases hidden : Library.normalise name ∈ c.hidden
  · obtain ⟨other, known, named⟩ := paired.hidden _ hidden
    have right : (load setting name >>= g) n = g other n := by
      rw [bind_apply, load_of_known known]
    constructor
    · intro v k done
      obtain ⟨t, l, loaded, later⟩ := done_bind.mp done
      obtain ⟨library, read, rfl⟩ := done_load loaded
      have back := leads t { m with library }
      rw [later] at back
      exact .inl (back.knows ⟨_, hidden, t, Library.get?_of_load read⟩)
    · intro v k done
      rw [right] at done
      exact absurd done (never other n (named ▸ paired.entered _ hidden) v k)
  · have same := paired.get? hidden
    rw [bind_apply, bind_apply]
    cases known : m.library.get? (Library.normalise name) with
    | some t =>
      rw [load_of_known known, load_of_known (same ▸ known)]
      exact relates t (fun inside => hidden (paired.keyed _ t known inside)) m n paired
    | none =>
      cases fetched : Library.fetch setting.config m.files (Library.normalise name) with
      | error error =>
        rw [load_of_missing known fetched,
          load_of_missing (same ▸ known) (paired.files ▸ fetched)]
        exact .failed _ _ _
      | ok t =>
        rw [load_of_fetched known fetched,
          load_of_fetched (same ▸ known) (paired.files ▸ fetched)]
        obtain ⟨source, read⟩ := Library.parse_of_fetch fetched
        have named := (Source.regular_of_parse read).1
        exact (relates t (named ▸ hidden) _ _ (paired.insert known named hidden)).mono
          fun _ _ ⟨after, together⟩ => ⟨after, { together with }⟩

/-- With no templates overriding on either side, the chains before do not matter. -/
theorem Relates.detached {x y : Render Unit} (one : c.heaps = Eq) (inside : Relates c.level x y) :
    Relates c (detached x) (detached y) := by
  intro m n paired
  have heap : ∀ {g h : Heap}, c.heaps g h ↔ g = h := by rw [one]
  have start : Paired c.level { m with chain := [] } { n with chain := [] } :=
    { paired with heap := heap.mp paired.heap, chain := rfl }
  rw [detached_apply, detached_apply]
  exact matches_around (inside _ _ start) (fun _ m' n' _ _ ⟨after, together⟩ =>
    ⟨{ after with heap := heap.mpr after.heap, chain := paired.chain }, { together with }⟩)
    fun _ => rfl

/-- What two renders write is the same text if both start with nothing written. -/
theorem Relates.captured {x y : Render Unit} (inside : Relates c x y) :
    Relates c (captured x) (captured y) := by
  intro m n paired
  have start : Paired c { m with sink := .unlimited (m.sink.level + 1) }
      { n with sink := .unlimited (n.sink.level + 1) } :=
    { paired with sink := by rw [paired.sink.level]; exact .refl _ }
  have written : ((x >>= fun _ => reads (·.sink.text))
        { m with sink := .unlimited (m.sink.level + 1) }).Matches c.hidden
      (fun m' n' => Paired c m' n' ∧ Together c { m with sink := .unlimited (m.sink.level + 1) }
        { n with sink := .unlimited (n.sink.level + 1) } m' n')
      ((y >>= fun _ => reads (·.sink.text)) { n with sink := .unlimited (n.sink.level + 1) }) := by
    refine matches_bind (inside _ _ start) (fun _ m' n' _ _ both => ?_)
      fun _ k => Machine.Leads.refl .silent k
    obtain ⟨texts, left, right⟩ := both.2.texts
    have same : m'.sink.text = n'.sink.text := by rw [left, right, paired.sink.level]
    show Ending.Matches _ _ (.done m'.sink.text m') (.done n'.sink.text n')
    rw [same]
    exact .done _ both
  rw [captured_apply, captured_apply]
  exact matches_around written (fun _ m' n' _ _ ⟨after, together⟩ =>
    ⟨{ after with sink := paired.sink }, { together with texts := ⟨[], rfl, rfl⟩ }⟩) fun _ => rfl

/-- What does the same inside does the same under an overriding template. -/
theorem Relates.overridden {x y : Render Unit} (one : c.chains = Eq) (inside : Relates c x y)
    (t : Template) : Relates c (overridden t x) (overridden t y) := by
  intro m n paired
  have chain : ∀ {k l : List Template}, c.chains k l ↔ k = l := by rw [one]
  have same := chain.mp paired.chain
  have start : Paired c { m with chain := m.chain ++ [t] } { n with chain := n.chain ++ [t] } :=
    { paired with chain := chain.mpr (by rw [same]) }
  exact matches_around (inside _ _ start) (fun _ m' n' _ _ ⟨after, together⟩ =>
    ⟨{ after with chain := chain.mpr (by rw [chain.mp after.chain]) }, { together with }⟩)
    fun _ => rfl

/-- A template that is not hidden does the same if its nodes do: the first side has more templates
that are being rendered, so only its guards may be the first to stop. -/
theorem Relates.template {setting : Setting} {x y : Render Unit} (left : Steady setting.host x)
    (right : Steady setting.host y) (inside : Relates c x y) {t : Template}
    (visible : t.name ∉ c.hidden) :
    Relates c (template setting (fun _ => x) t) (template setting (fun _ => y) t) := by
  intro m n paired
  rw [template_apply, template_apply]
  split
  · exact .guarded (RenderError.isGuard_cycle _) _ _
  · rename_i fresh
    split
    · exact .guarded (RenderError.isGuard_tooDeep _ _) _ _
    · rename_i shallow
      have fresh' : t.name ∉ n.active := fun inside =>
        (paired.active _ inside).elim fresh visible
      have shallow' : ¬ setting.config.maxDepth ≤ n.active.length := fun full =>
        shallow (Nat.le_trans full paired.depth)
      rw [if_neg fresh', if_neg shallow']
      have start : Paired c { m with active := m.active ++ [t.name] }
          { n with active := n.active ++ [t.name] } :=
        { paired with
          depth := by simpa using paired.depth
          active := by
            intro name within
            rcases List.mem_append.mp within with earlier | last
            · exact (paired.active name earlier).imp (List.mem_append_left _) id
            · exact .inl (List.mem_append_right _ last)
          entered := fun name within => List.mem_append_left _ (paired.entered name within) }
      refine matches_around (inside _ _ start) (fun _ m' n' here there ⟨after, together⟩ => ?_)
        fun _ => rfl
      have here := (left.returns here).active
      have there := (right.returns there).active
      exact ⟨{ after with
        depth := by simpa [here, there] using paired.depth
        active := by simpa [here, there] using paired.active
        entered := by simpa [there] using paired.entered }, { together with }⟩

/-- A template that is being rendered is never done. -/
theorem template_not_done {setting : Setting} {run : Task → Render Unit} {t : Template}
    (inside : t.name ∈ n.active) (v : Unit) (k : Machine) :
    template setting run t n ≠ .done v k := by
  rw [template_apply, if_pos inside]
  simp

/-- What is done in a scope of its own is done inside, and the scope is closed. -/
theorem done_inScope {x : Render Unit} {k : Machine} :
    inScope x m = .done () k ↔ ∃ v l rest, x { m with context := m.context.push } = .done v l ∧
      l.context.pop = .ok rest ∧ { l with context := rest } = k := by
  unfold inScope
  cases ended : x { m with context := m.context.push } with
  | done v l => cases closed : l.context.pop <;> simp [closed]
  | failed error l => cases closed : l.context.pop <;> simp [closed]
  | outOfFuel => simp

/-- Renders that do the same inside a scope do the same as a whole. -/
theorem Relates.inScope {host : Host} {x y : Render Unit} (leads : Within (Machine.Leads host) x)
    (inside : Relates c x y) : Relates c (inScope x) (inScope y) := by
  intro m n paired
  have start : Paired c { m with context := m.context.push } { n with context := n.context.push } :=
    { paired with context := by rw [paired.context] }
  have here := inside _ _ start
  constructor
  · intro v k done
    obtain ⟨v, l, rest, left, closed, rfl⟩ := done_inScope.mp done
    rcases here.forth v l left with knows | ⟨n', right, after, together⟩
    · exact .inl knows
    · refine .inr ⟨{ n' with context := rest }, ?_, { after with context := rfl },
        { together with }⟩
      exact done_inScope.mpr ⟨v, n', rest, right, after.context ▸ closed, rfl⟩
  · intro v k done
    obtain ⟨v, l, rest, right, closed, rfl⟩ := done_inScope.mp done
    rcases here.back v l right with ⟨m', left, after, together⟩ | ⟨error, m', left, guard⟩
    · refine .inl ⟨{ m' with context := rest }, ?_, { after with context := rfl },
        { together with }⟩
      exact done_inScope.mpr ⟨v, m', rest, left, after.context ▸ closed, rfl⟩
    · refine .inr ⟨error, { m' with context := m.context }, ?_, guard⟩
      rw [inScope_eq_around leads, around, left]

/-- Binding the standing of a loop does the same where there is one heap. -/
theorem relates_bindLoop (setting : Setting) (one : c.heaps = Eq) (list : ListRef) (index : Nat) :
    Relates c (bindLoop setting list index) (bindLoop setting list index) := by
  unfold bindLoop
  split
  · exact Relates.bind (relates_heap one fun heap => heap.count list)
      (fun count => relates_bindName _ _) fun count => leads_bindName setting.host _ _
  · exact relates_reads _ fun _ _ _ => rfl

/-- The trait of doing the same as another render. -/
def agreement (host : Host) (c : Comparison) : Trait Bool where
  whole x := (∀ i, Steady host (x i)) ∧ Relates c.level (x false) (x true)
  inner x := (∀ i, Within (Machine.Leads host) (x i)) ∧ Relates c.level (x false) (x true)
  entered t x := (∀ i, Steady host (x i)) ∧
    (t.name ∉ c.hidden → Relates c.level (x false) (x true)) ∧
    ∀ n, t.name ∈ n.active → ∀ v k, x true n ≠ .done v k

section Nested

variable {setting : Setting} {x : Template → Bool → Render Unit} (one : c.heaps = Eq)
  (inside : ∀ t, (agreement setting.host c).entered t (x t))

include one inside

/-- Including does the same whichever templates override around it. -/
theorem relates_include (name : String) :
    Relates c (load setting name >>= fun t => detached (x t false))
      (load setting name >>= fun t => detached (x t true)) := by
  refine relates_load name (fun t => ((inside t).1 false).detached.leads)
    (fun t visible => Relates.detached one ((inside t).2.1 visible)) fun t n active v k done => ?_
  rw [detached_apply] at done
  obtain ⟨l, there, -⟩ := done_around.mp done
  exact (inside t).2.2 { n with chain := [] } active v l there

/-- What an included template writes is the same whichever templates override around it. -/
theorem relates_capture (name : String) :
    Relates c (load setting name >>= fun t => captured (detached (x t false)))
      (load setting name >>= fun t => captured (detached (x t true))) := by
  have alone : ∀ t, t.name ∉ c.hidden → Relates c (detached (x t false)) (detached (x t true)) :=
    fun t visible => Relates.detached one ((inside t).2.1 visible)
  refine relates_load name (fun t => ((inside t).1 false).detached.captured.leads)
    (fun t visible => (alone t visible).captured) fun t n active v k done => ?_
  rw [captured_apply] at done
  obtain ⟨l, there, -⟩ := done_around.mp done
  obtain ⟨w, l, there, -⟩ := done_bind.mp there
  rw [detached_apply] at there
  obtain ⟨l, there, -⟩ := done_around.mp there
  exact (inside t).2.2
    { n with sink := .unlimited (n.sink.level + 1), chain := [] } active w l there

end Nested

/-- Every operation of a step does the same. -/
theorem compatible_agreement (setting : Setting) (c : Comparison) :
    (agreement setting.host c).Compatible fun _ => setting := by
  have steady := compatible_steadiness setting
  constructor
  case inScope =>
    exact fun inside => ⟨fun i => steady_inScope (inside.1 i), inside.2.inScope (inside.1 false)⟩
  constructor
  case pure => exact fun v => ⟨fun _ => steady.pure v, relates_reads _ fun _ _ _ => rfl⟩
  case bind =>
    exact fun first second => ⟨fun i => (first.1 i).bind fun v => (second v).1 i,
      first.2.bind (fun v => (second v).2) fun v => ((second v).1 false).leads⟩
  case emit => exact fun text => ⟨fun _ => steady_emit text, relates_emit text⟩
  case evaluate =>
    exact fun expr => ⟨fun _ => steady_evaluate expr, relates_evaluate setting rfl expr⟩
  case shown =>
    have emits : ∀ text, Steady setting.host (emit text) := steady_emit
    exact fun v => ⟨fun _ => steady.shown v,
      Relates.bind (relates_reads _ fun m n paired => by rw [paired.context]) relates_emit
        fun text => (emits text).leads⟩
  case heap =>
    exact fun f => ⟨fun _ => steady.heap f, relates_heap (c := c.level) rfl f⟩
  case blockBody =>
    intro owner name body
    refine ⟨fun _ => steady.blockBody owner name body, relates_reads _ fun m n paired => ?_⟩
    have chain : m.chain = n.chain := paired.chain
    rw [chain]
  case inherits =>
    intro owner name x inside
    refine ⟨fun i => (steady_load name).bind fun t => ((inside t).1 i).overridden owner, ?_⟩
    refine relates_load name (fun t => (((inside t).1 false).overridden owner).leads)
      (fun t visible => ((inside t).2.1 visible).overridden rfl owner) fun t n active v k done => ?_
    obtain ⟨l, there, -⟩ := done_around.mp done
    exact (inside t).2.2 { n with chain := n.chain ++ [owner] } active v l there
  case includes =>
    exact fun name x inside =>
      ⟨fun i => (steady_load name).bind fun t => ((inside t).1 i).detached,
        relates_include (c := c.level) rfl inside name⟩
  case captures =>
    exact fun name x inside =>
      ⟨fun i => (steady_load name).bind fun t => ((inside t).1 i).detached.captured,
        relates_capture (c := c.level) rfl inside name⟩
  case create =>
    exact fun owner line file content =>
      ⟨fun _ => steady_create owner line file content,
        relates_create (fun _ => rfl) line file content⟩
  case template =>
    exact fun t x inside => ⟨fun i => (inside.1 i).template t,
      fun visible => Relates.template (inside.1 false) (inside.1 true) inside.2 visible,
      fun n active v k => template_not_done active v k⟩
  case inner => exact fun whole => ⟨fun i => (whole.1 i).leads, whole.2⟩
  case innerBind =>
    exact fun first second =>
      ⟨fun i => (first.1 i).bind (fun v => (second v).1 i) fun _ _ _ => Machine.Leads.trans,
      first.2.bind (fun v => (second v).2) fun v => (second v).1 false⟩
  case bindName => exact fun name v => ⟨fun _ => steady.bindName name v, relates_bindName name v⟩
  case bindLoop =>
    exact fun list index => ⟨fun _ => steady.bindLoop list index,
      relates_bindLoop setting rfl list index⟩

/-- Every task does the same with one fuel on both sides. -/
theorem agreement_run (setting : Setting) (c : Comparison) (fuel : Nat) (task : Task) :
    (agreement setting.host c).Meets task fun _ => run setting fuel task := by
  refine (compatible_agreement setting c).run (fun task => ?_) fuel task
  have steady : ∀ _ : Bool, Steady setting.host (starve : Render Unit) := fun _ _ => trivial
  have relates : Relates c.level (starve : Render Unit) starve := fun _ _ _ => .starved
  cases task with
  | template t => exact ⟨steady, fun _ => relates, fun n active v k => by simp [starve]⟩
  | nodes owner ns => exact ⟨steady, relates⟩
  | iterate owner var reversed body list cursor index => exact ⟨fun i => (steady i).leads, relates⟩

/-- Rendering a template that is not hidden does the same. -/
theorem relates_run_template (setting : Setting) (fuel : Nat) {t : Template}
    (visible : t.name ∉ c.hidden) :
    Relates c.level (run setting fuel (.template t)) (run setting fuel (.template t)) :=
  (agreement_run setting c fuel (.template t)).2.1 visible

/-- Renders that do the same however far they get do the same with all that they need. -/
theorem Relates.limit {x y : Render α} (every : ∀ m n, ∃ x' y' : Render α, Relates c x' y' ∧
    x' m = x m ∧ y' n = y n) : Relates c x y := by
  intro m n paired
  obtain ⟨x', y', relates, left, right⟩ := every m n
  rw [← left, ← right]
  exact relates m n paired

/-- Tasks that do the same with every fuel do the same with all the fuel that they need. -/
theorem Relates.complete {setting : Setting} {left right : Task}
    (every : ∀ fuel, Relates c (run setting fuel left) (run setting fuel right)) :
    Relates c (complete setting left) (complete setting right) := by
  refine .limit fun m n => ?_
  obtain ⟨first, here⟩ := run_of_complete setting left m
  obtain ⟨second, there⟩ := run_of_complete setting right n
  exact ⟨_, _, every (max first second), here _ (Nat.le_max_left first second),
    there _ (Nat.le_max_right first second)⟩

/-- Rendering a template that is not hidden does the same, with all the fuel that it needs. -/
theorem relates_complete_template (setting : Setting) {t : Template} (visible : t.name ∉ c.hidden) :
    Relates c.level (complete setting (.template t)) (complete setting (.template t)) :=
  Relates.complete fun fuel => relates_run_template setting fuel visible

/-- A template that is entered does the same, with all the fuel that it needs. -/
theorem agreement_complete (setting : Setting) (c : Comparison) (t : Template) :
    (agreement setting.host c).entered t fun _ => complete setting (.template t) :=
  ⟨fun _ => steady_complete_template t, relates_complete_template setting, fun n active v k => by
    rw [complete_eq]
    exact template_not_done active v k⟩

end Render

end TextTemplate

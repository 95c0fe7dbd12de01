import TextTemplate.Proofs.Escaping.Harmless
import TextTemplate.Proofs.Render.Journal
import TextTemplate.Proofs.Render.Point
/-!
# Which values a render meets

A context leads to its bindings, and to the items and fields of what it leads to. Callables may add
to these while a render goes on, so what it can meet is told by the context and the heap at the
start and by the callables that were invoked since (`Context.Meets`). A render makes no values of
its own but such as refer to nothing and are not raw (`Value.Bare`). Main statement: wherever a
render begins a node, every binding is bare or was met (`Template.always_familiar`).
-/
namespace TextTemplate

/-! ### Meeting values -/

/-- The heap after some acts: the callables among them were invoked, one after the other. -/
def Host.replay (host : Host) (heap : Heap) (acts : List Act) : Heap :=
  acts.foldl (fun heap act =>
    match act with
    | .called ref => (host.call ref [] heap).2
    | _ => heap) heap

/-- What the context leads to after some acts: its bindings, the items and fields of what it leads
to on the heap as it is then, and what it led to before. -/
inductive Context.Meets (context : Context) (host : Host) (heap : Heap) : List Act → Value → Prop
  /-- A binding. -/
  | bound {scope : Scope} {name : String} {v : Value} (member : scope ∈ context.scopes)
    (found : scope.get? name = some v) : Meets context host heap [] v
  /-- An item or a field. -/
  | part {acts : List Act} {v w : Value} (met : Meets context host heap acts v)
    (part : (host.replay heap acts).Part v w) : Meets context host heap acts w
  /-- A value that the context led to some acts ago. -/
  | later {acts : List Act} {v : Value} (met : Meets context host heap acts v) (more : List Act) :
    Meets context host heap (acts ++ more) v

/-- The value refers to no list and no record, and is not raw. -/
structure Value.Bare (v : Value) : Prop where
  /-- It refers to no list. -/
  list : ∀ ref, v.payload ≠ .list ref
  /-- It refers to no record. -/
  record : ∀ ref, v.payload ≠ .record ref
  /-- It is not raw. -/
  raw : v.raw = false

/-- The acts lead from one state of the host to the other. -/
structure HostState.Comes (host : Host) (start : HostState) (acts : List Act) (state : HostState) :
    Prop where
  /-- The journal goes on with them. -/
  journal : state.journal.toList = start.journal.toList ++ acts
  /-- The heap is as they leave it. -/
  heap : state.heap = host.replay start.heap acts

/-- The context of the first machine leads to the value after the acts since. -/
def Machine.Met (host : Host) (origin : Machine) (state : HostState) (v : Value) : Prop :=
  ∃ acts, origin.host.Comes host acts state ∧ origin.context.Meets host origin.host.heap acts v

/-- The value is bare or was met. -/
def Machine.Sees (host : Host) (origin : Machine) (state : HostState) (v : Value) : Prop :=
  origin.Met host state v ∨ v.Bare

/-- The second machine comes after the first, and each of its bindings is bare or was met. -/
structure Machine.Familiar (host : Host) (origin m : Machine) : Prop where
  /-- Acts lead from the first machine to the second. -/
  comes : ∃ acts, origin.host.Comes host acts m.host
  /-- What is bound in it. -/
  sees : ∀ scope ∈ m.context.scopes, ∀ name v, scope.get? name = some v → origin.Sees host m.host v

section States

variable {host : Host} {start s t : HostState} {acts more : List Act}

/-- Acts after acts go on from the heap that these leave. -/
theorem Host.replay_append (host : Host) (heap : Heap) (acts more : List Act) :
    host.replay heap (acts ++ more) = host.replay (host.replay heap acts) more :=
  List.foldl_append

/-- No acts lead from a state to itself. -/
theorem HostState.Comes.refl (host : Host) (s : HostState) : s.Comes host [] s :=
  ⟨(List.append_nil _).symm, rfl⟩

/-- Acts lead from state to state one after the other. -/
theorem HostState.Comes.trans (first : start.Comes host acts s) (second : s.Comes host more t) :
    start.Comes host (acts ++ more) t where
  journal := by rw [second.journal, first.journal, List.append_assoc]
  heap := by rw [second.heap, first.heap, Host.replay_append]

/-- A recount leaves the heap that its acts leave. -/
theorem Recount.heap_eq {before after : Scene} (recount : Recount host acts before after) :
    after.heap = host.replay before.heap acts := by
  induction recount with
  | nil => rfl
  | cons change later ih =>
    rw [ih]
    cases change <;> rfl

/-- A render that is told by the journal comes to the state in which it ends. -/
theorem Machine.Recounted.comes {m n : Machine} (recounted : m.Recounted host n) :
    ∃ acts, m.host.Comes host acts n.host := by
  obtain ⟨acts, told⟩ := recounted
  exact ⟨acts, told.journal, told.scene.heap_eq⟩

end States

section Values

variable {host : Host} {origin m : Machine} {s t : HostState} {v w : Value} {acts : List Act}

/-- What was met is met still after more acts. -/
theorem Machine.Met.later (met : origin.Met host s v) (comes : s.Comes host acts t) :
    origin.Met host t v := by
  obtain ⟨before, led, meets⟩ := met
  exact ⟨before ++ acts, led.trans comes, meets.later acts⟩

/-- The items and fields of what was met are met. -/
theorem Machine.Met.part (met : origin.Met host s v) (part : s.heap.Part v w) :
    origin.Met host s w := by
  obtain ⟨before, led, meets⟩ := met
  rw [led.heap] at part
  exact ⟨before, led, meets.part part⟩

/-- What is seen is seen still after more acts. -/
theorem Machine.Sees.later (sees : origin.Sees host s v) (comes : s.Comes host acts t) :
    origin.Sees host t v :=
  sees.imp (fun met => met.later comes) id

/-- The absent value is bare. -/
theorem Value.bare_absent : Value.absent.Bare := ⟨nofun, nofun, rfl⟩

/-- A text that is not raw is bare. -/
theorem Value.bare_ofText (text : String) : (Value.ofText text).Bare := ⟨nofun, nofun, rfl⟩

/-- A number is bare. -/
theorem Value.bare_ofWhole (n : Int64) : (Value.ofWhole n).Bare := ⟨nofun, nofun, rfl⟩

/-- Where a loop stands is bare. -/
theorem Value.bare_ofLoop (info : LoopInfo) : (Value.ofLoop info).Bare := ⟨nofun, nofun, rfl⟩

/-- What the standing of a loop tells is bare. -/
theorem LoopInfo.bare_field (info : LoopInfo) (name : String) : (info.field name).Bare := by
  unfold LoopInfo.field
  split <;> exact ⟨nofun, nofun, rfl⟩

/-- What a path finds in a value that is seen is seen. -/
theorem Machine.Sees.part? (sees : origin.Sees host s v) {field : String}
    (found : v.part? field s.heap = some w) : origin.Sees host s w := by
  unfold Value.part? at found
  split at found
  · rename_i ref refers
    cases found
    unfold Heap.field
    cases bound : (s.heap.fields ref).get? field with
    | none => exact .inr Value.bare_absent
    | some held =>
      rcases sees with met | bare
      · exact .inl (met.part (.field ref field refers bound))
      · exact absurd refers (bare.record ref)
  · cases found
    exact .inr (LoopInfo.bare_field _ field)
  · rename_i ref refers
    cases found
    split
    · rename_i position _
      unfold Heap.item
      cases inside : (s.heap.items ref)[position]? with
      | none => exact .inr Value.bare_absent
      | some held =>
        rcases sees with met | bare
        · exact .inl (met.part (.item ref refers (Array.mem_of_getElem? inside)))
        · exact absurd refers (bare.list ref)
    · exact .inr Value.bare_absent
  · cases found

/-- A value that is settled is seen: it is as it was, or a text that a callable answered. -/
theorem Machine.Sees.settle (sees : origin.Sees host s v) :
    origin.Sees host (v.settle host s).2 (v.settle host s).1 := by
  unfold Value.settle
  split
  · exact .inr (Value.bare_ofText _)
  · exact sees

/-- A path from a value that is seen ends in one that is seen. -/
theorem Machine.Sees.follow (fields : List String) (sees : origin.Sees host s v) :
    origin.Sees host (v.follow host fields s).2 (v.follow host fields s).1 := by
  induction fields generalizing v s with
  | nil => exact sees
  | cons field fields ih =>
    simp only [Value.follow]
    split
    · exact .inr Value.bare_absent
    · rename_i part found
      exact ih (sees.part? found).settle

/-- A binding, or the absent value, is seen. -/
theorem Machine.Familiar.get (familiar : origin.Familiar host m) (name : String) :
    origin.Sees host m.host (m.context.get name) :=
  Context.get_of_forall (.inr Value.bare_absent) fun scope member =>
    familiar.sees scope member name

/-- A filter that gives a list leaves the value as it is. -/
theorem Filter.apply_of_list {heap : Heap} {f : Filter} {list : ListRef}
    (listed : (f.apply heap v).list? = some list) : f.apply heap v = v := by
  cases f with
  | default fallback =>
    simp only [Filter.apply] at listed ⊢
    split at listed
    · cases fallback <;> cases listed
    · rename_i filled
      rw [if_neg filled]
  | length =>
    simp only [Filter.apply] at listed
    split at listed <;> cases listed
  | add term =>
    simp only [Filter.apply] at listed
    split at listed <;> cases listed

/-- Filters that give a list leave the value as it is. -/
theorem Filter.foldl_of_list {heap : Heap} {filters : List Filter} {list : ListRef}
    (listed : (filters.foldl (fun v f => f.apply heap v) v).list? = some list) :
    filters.foldl (fun v f => f.apply heap v) v = v := by
  induction filters generalizing v with
  | nil => rfl
  | cons f filters ih =>
    have later : filters.foldl (fun v f => f.apply heap v) (f.apply heap v) = f.apply heap v :=
      ih listed
    rw [List.foldl_cons, later] at listed
    rw [List.foldl_cons, later, Filter.apply_of_list listed]

/-- A value that refers to a list has it for its payload. -/
theorem Value.payload_of_list? {list : ListRef} (listed : v.list? = some list) :
    v.payload = .list list := by
  unfold Value.list? at listed
  split at listed
  · cases listed
    assumption
  · cases listed

/-- The list that an expression gives was met. -/
theorem Machine.Familiar.met_list (familiar : origin.Familiar host m) {expr : Expr}
    {list : ListRef} (listed : (expr.eval host m.context m.host).1.list? = some list) :
    origin.Met host (expr.eval host m.context m.host).2 (expr.eval host m.context m.host).1 := by
  simp only [Expr.eval] at listed ⊢
  have same := Filter.foldl_of_list listed
  rw [same] at listed ⊢
  have refers := Value.payload_of_list? listed
  cases shape : expr.operand with
  | literal l =>
    rw [shape] at refers
    cases l <;> cases refers
  | path name fields =>
    rw [shape] at refers
    have sees := (familiar.get name).settle.follow fields
    exact sees.resolve_right fun bare => bare.list list refers

end Values

/-! ### Points -/

section Points

variable {setting : Setting} {origin m n : Machine} {t : Template}

/-- What was bound is seen still where the context is the same and acts lead on. -/
theorem Machine.Familiar.onward {host : Host} (familiar : origin.Familiar host m)
    (context : n.context = m.context) (recounted : m.Recounted host n) :
    origin.Familiar host n := by
  obtain ⟨acts, on⟩ := recounted.comes
  obtain ⟨before, led⟩ := familiar.comes
  refine ⟨⟨before ++ acts, led.trans on⟩, fun scope member name v found => ?_⟩
  rw [context] at member
  exact (familiar.sees scope member name v found).later on

/-- Evaluation leaves the context as it is, and the journal tells it. -/
theorem Machine.Familiar.evaluate (familiar : origin.Familiar setting.host m) {expr : Expr}
    {v : Value} (valued : Render.evaluate setting expr m = .done v n) :
    origin.Familiar setting.host n := by
  have back := (Render.steady_evaluate expr).returns valued
  have journaled : Render.Journaled setting.host (Render.evaluate setting expr) :=
    Render.journaled_evaluate expr
  have told := journaled m
  rw [valued] at told
  exact familiar.onward back.context told

/-- So does resolving a template. -/
theorem Machine.Familiar.resolve (familiar : origin.Familiar setting.host m) {expr : Expr}
    (resolved : Render.resolve setting expr m = .done t n) : origin.Familiar setting.host n := by
  have back := (Render.steady_resolve expr).returns resolved
  have journaled : Render.Journaled setting.host (Render.resolve setting expr) :=
    Render.Journaled.bind (Render.journaled_evaluate expr) fun v => Render.journaled_load v.text
  have told := journaled m
  rw [resolved] at told
  exact familiar.onward back.context told

/-- A new scope binds nothing. -/
theorem Machine.Familiar.push {host : Host} (familiar : origin.Familiar host m) :
    origin.Familiar host { m with context := m.context.push } where
  comes := familiar.comes
  sees scope member name v found := by
    rcases List.mem_cons.mp member with rfl | outer
    · cases found
    · exact familiar.sees scope outer name v found

/-- A value that is seen may be bound. -/
theorem Machine.Familiar.set {host : Host} (familiar : origin.Familiar host m) {v : Value}
    (sees : origin.Sees host m.host v) (name : String) :
    origin.Familiar host { m with context := m.context.set name v } where
  comes := familiar.comes
  sees scope member other w found := by
    rcases List.mem_cons.mp member with rfl | outer
    · have bound : (m.context.top.insert name v).get? other = some w := found
      rw [Table.get?_insert] at bound
      split at bound
      · cases bound
        exact sees
      · exact familiar.sees m.context.top List.mem_cons_self other w bound
    · exact familiar.sees scope (List.mem_cons_of_mem _ outer) other w found

/-- What an iteration binds for an item that was met is seen. -/
theorem Machine.Familiar.entered {loop : Loop} {k : Nat} {item : Value}
    (familiar : origin.Familiar setting.host m) (met : origin.Met setting.host m.host item) :
    origin.Familiar setting.host (loop.entered setting k item m) := by
  have bound := familiar.push.set (.inl met) loop.var
  unfold Loop.entered Loop.inner
  dsimp only
  split
  · exact bound.set (.inr (Value.bare_ofLoop _)) "forloop"
  · exact bound

/-- The iterations of a loop lead from a familiar machine to familiar ones, and the list that the
loop goes through stays one that was met. -/
theorem Loop.Reaches.familiar {loop : Loop} {k : Nat} {list : Value}
    (reached : loop.Reaches setting m k n) (start : origin.Familiar setting.host m)
    (met : origin.Met setting.host m.host list) :
    origin.Familiar setting.host n ∧ origin.Met setting.host n.host list := by
  induction reached with
  | entry => exact ⟨start, met⟩
  | @next k m n item before inside rendered ih =>
    obtain ⟨familiar, there⟩ := ih
    obtain ⟨-, fuel, ended⟩ := rendered
    have journaled : Render.Journaled setting.host
        (Render.run setting fuel (.nodes loop.owner loop.body)) := Render.journaled_run fuel _
    have told := journaled (loop.entered setting k item m)
    rw [ended] at told
    obtain ⟨acts, journal, scene, sink, levels⟩ := told
    have recounted : m.Recounted setting.host { n with context := m.context } :=
      ⟨acts, journal, scene, sink, levels⟩
    obtain ⟨more, on⟩ := recounted.comes
    exact ⟨familiar.onward rfl recounted, there.later on⟩

/-- The item that an iteration finds was met, if the list was. -/
theorem Loop.met_item {loop : Loop} {k : Nat} {list item : Value} {host : Host}
    (refers : list.payload = .list loop.list) (met : origin.Met host m.host list)
    (inside : loop.item? k m = some item) : origin.Met host m.host item := by
  obtain ⟨position, -, found⟩ := Option.bind_eq_some_iff.mp inside
  exact met.part (.item loop.list refers (Array.mem_of_getElem? found))

/-- A node that is rendered leads on as the journal tells. -/
theorem Render.recounted_node {owner : Template} {first : Node}
    (goesOn : Render.isLast first = false)
    (rendered : Render.node setting (Render.complete setting) owner first m = .done () n) :
    m.Recounted setting.host n := by
  have alone : Render.complete setting (.nodes owner [first]) m = .done () n := by
    rw [Render.complete_nodes_cons, Render.bind_of_done rendered, goesOn,
      Render.complete_nodes_nil]
    rfl
  obtain ⟨fuel, ended⟩ := (Render.complete_eq_iff (by simp)).mp alone
  have journaled : Render.Journaled setting.host
      (Render.run setting fuel (.nodes owner [first])) := Render.journaled_run fuel _
  have told := journaled m
  rwa [ended] at told

/-- A machine is told by what it is after a scope was opened. -/
theorem Machine.eq_of_push
    (same : { m with context := m.context.push } = { n with context := n.context.push }) :
    m = n := by
  obtain ⟨host, library, files, ⟨top, outer, dir, escaper⟩, sink, active, chain, outcomes⟩ := m
  simp only [Context.push, Context.scopes, Machine.mk.injEq, Context.mk.injEq,
    List.cons.injEq] at same
  obtain ⟨rfl, rfl, rfl, ⟨-, ⟨rfl, rfl⟩, rfl, rfl⟩, rfl, rfl, rfl, rfl⟩ := same
  rfl

/-- A loop that begins goes through a list that was met. -/
theorem Machine.Familiar.begins_rest {owner : Template} {first : Node} {loop : Loop}
    {cursor : Cursor} (familiar : origin.Familiar setting.host m)
    (begins : Render.Begins setting owner first m (loop.rest cursor 0)
      { n with context := n.context.push }) :
    origin.Familiar setting.host n ∧
      ∃ list : Value, list.payload = .list loop.list ∧ origin.Met setting.host n.host list := by
  generalize begun : loop.rest cursor 0 = task at begins
  generalize opened : ({ n with context := n.context.push } : Machine) = k at begins
  cases begins with
  | @iterations var expr reversed body otherwise _ start value list valued listed filled =>
    have through : loop.list = list := by
      injection begun
    have same : n = start := Machine.eq_of_push opened
    have after := familiar.evaluate valued
    cases valued
    subst same through
    exact ⟨after, _, Value.payload_of_list? listed, familiar.met_list listed⟩
  | _ => cases begun

/-- A point whose machine is familiar leads to such points alone. -/
theorem Enters.familiar {point next : Point setting} (enters : Enters point next)
    (here : origin.Familiar setting.host point.machine) :
    origin.Familiar setting.host next.machine := by
  cases enters with
  | onward goesOn rendered =>
    have back := (Render.steady_node _ _).returns rendered
    exact here.onward back.context (Render.recounted_node goesOn rendered)
  | nodes begins =>
    cases begins with
    | otherwise valued bare => exact here.evaluate valued
    | branch valued => exact here.evaluate valued
    | block => exact here
  | template begins other room =>
    cases begins with
    | parent resolved | included resolved =>
      obtain ⟨comes, sees⟩ := here.resolve resolved
      exact ⟨comes, sees⟩
    | created valued resolved =>
      obtain ⟨comes, sees⟩ := (here.evaluate valued).resolve resolved
      exact ⟨comes, sees⟩
  | round round begins =>
    obtain ⟨start, list, refers, met⟩ := here.begins_rest begins
    obtain ⟨begun, there⟩ := round.reached.familiar start met
    exact begun.entered (Loop.met_item refers there round.inside)

/-- Every point to which a render comes has a familiar machine. -/
theorem Template.Comes.familiar {point : Point setting} (comes : t.Comes setting m point) :
    m.Familiar setting.host point.machine := by
  induction comes with
  | refl =>
    refine ⟨⟨[], .refl _ _⟩, fun scope member name v found => .inl ⟨[], .refl _ _, ?_⟩⟩
    exact .bound member found
  | tail before enters ih => exact enters.familiar ih

/-- Wherever a render begins a node, every binding is bare or was met. -/
theorem Template.always_familiar (setting : Setting) (fuel : Nat) (t : Template) (m : Machine) :
    t.Always (fun _ k => m.Familiar setting.host k) setting fuel m :=
  (t.always_comes setting fuel m).mono fun _ _ ⟨_, comes, _, same⟩ => same ▸ comes.familiar

end Points

end TextTemplate

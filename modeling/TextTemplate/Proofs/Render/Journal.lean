import TextTemplate.Proofs.Render.Comparison
/-!
# What the journal tells

The journal of a render tells everything that the surroundings can see of it. The heap is as the
callables in the journal leave it, the files and what became of them are as the creations in it
leave them, and the texts that the sink took are those noted with the sink's level. Main statement:
this holds wherever a render ends, with an error or without one (`Template.recounted_render`).
-/
namespace TextTemplate

/-- What acts change: the heap, the files, and what became of the files created. -/
structure Scene where
  /-- The lists and records. -/
  heap : Heap
  /-- The files and directories. -/
  files : FileTree
  /-- What became of the files that were created. -/
  outcomes : List SaveOutcome

/-- The scene of a machine. -/
def Machine.scene (m : Machine) : Scene := ⟨m.host.heap, m.files, m.outcomes.toList⟩

/-- What an act does to the scene. The text of a file without a name is not saved. -/
inductive Act.Changes (host : Host) : Act → Scene → Scene → Prop
  | called (ref : CallableRef) (s : Scene) :
    Changes host (.called ref) s { s with heap := (host.call ref [] s.heap).2 }
  | wrote (level : Nat) (text : String) (s : Scene) : Changes host (.wrote level text) s s
  | saved (path : Path) (content : String) (s : Scene) :
    Changes host (.created path content) s { s with
      files := (s.files.save path content).1
      outcomes := s.outcomes ++ [(s.files.save path content).2] }
  | nameless (path : Path) (content : String) (owner : String) (line : Nat) (s : Scene) :
    Changes host (.created path content) s { s with
      outcomes := s.outcomes ++ [.failed path (.emptyName owner line)] }

/-- What acts do to the scene, one after the other. -/
inductive Recount (host : Host) : List Act → Scene → Scene → Prop
  | nil (s : Scene) : Recount host [] s s
  | cons {act : Act} {acts : List Act} {s s' s'' : Scene} (change : act.Changes host s s')
    (later : Recount host acts s' s'') : Recount host (act :: acts) s s''

/-- What acts do, and then others, is what they do together. -/
theorem Recount.append {host : Host} {acts more : List Act} {s s' s'' : Scene}
    (first : Recount host acts s s') (second : Recount host more s' s'') :
    Recount host (acts ++ more) s s'' := by
  induction first with
  | nil s => exact second
  | cons change later ih => exact .cons change (ih second)

/-- What an act does is what the list of it does. -/
theorem Act.Changes.recount {host : Host} {act : Act} {s s' : Scene}
    (change : act.Changes host s s') : Recount host [act] s s' := .cons change (.nil s')

/-- What became of the files created before stays noted. -/
theorem Recount.outcomes {host : Host} {acts : List Act} {s s' : Scene}
    (recount : Recount host acts s s') : s.outcomes <+: s'.outcomes := by
  induction recount with
  | nil s => exact List.prefix_refl _
  | cons change later ih =>
    cases change with
    | called ref s => exact ih
    | wrote level text s => exact ih
    | saved path content s => exact (List.prefix_append _ _).trans ih
    | nameless path content owner line s => exact (List.prefix_append _ _).trans ih

/-- The text that an act writes at a level. -/
def Act.textAt? (level : Nat) : Act → Option String
  | .wrote at_ text => if at_ = level then some text else none
  | _ => none

/-- The texts that acts write at a level. -/
def textsAt (level : Nat) (acts : List Act) : List String := acts.filterMap (Act.textAt? level)

/-- Of two lists of acts the texts are those of the first and then those of the second. -/
@[simp] theorem textsAt_append (level : Nat) (acts more : List Act) :
    textsAt level (acts ++ more) = textsAt level acts ++ textsAt level more :=
  List.filterMap_append

/-- Acts that write at other levels alone write no text at this one. -/
theorem textsAt_eq_nil {level : Nat} {acts : List Act}
    (other : ∀ text, .wrote level text ∉ acts) : textsAt level acts = [] := by
  refine List.filterMap_eq_nil_iff.mpr fun act inside => ?_
  cases act with
  | wrote at_ text =>
    have differs : at_ ≠ level := by
      rintro rfl
      exact other text inside
    simp [Act.textAt?, differs]
  | _ => rfl

/-- The acts tell how a render came from one machine to another. -/
structure Machine.Recounts (host : Host) (acts : List Act) (m n : Machine) : Prop where
  /-- The acts are noted at the end of the journal. -/
  journal : n.host.journal.toList = m.host.journal.toList ++ acts
  /-- They change the scene of the first machine into that of the second. -/
  scene : Recount host acts m.scene n.scene
  /-- The sink took the texts that are noted with its level. -/
  sink : n.sink = m.sink.writeAll (textsAt m.sink.level acts)
  /-- No text went to a level further out. -/
  levels : ∀ level text, .wrote level text ∈ acts → m.sink.level ≤ level

/-- What the journal notes between two machines tells how a render came from one to the other. -/
def Machine.Recounted (host : Host) (m n : Machine) : Prop := ∃ acts, m.Recounts host acts n

namespace Machine

variable {host : Host} {m n k : Machine} {acts more : List Act}

/-- What was told in two parts is told as one. -/
theorem Recounts.trans (first : m.Recounts host acts n) (second : n.Recounts host more k) :
    m.Recounts host (acts ++ more) k where
  journal := by rw [second.journal, first.journal, List.append_assoc]
  scene := first.scene.append second.scene
  sink := by
    have level : n.sink.level = m.sink.level := by rw [first.sink]; rfl
    rw [second.sink, level, first.sink, Sink.writeAll_writeAll, textsAt_append]
  levels level text inside := by
    have same : n.sink.level = m.sink.level := by rw [first.sink]; rfl
    rcases List.mem_append.mp inside with early | late
    · exact first.levels level text early
    · exact same ▸ second.levels level text late

/-- Nothing of what the journal tells has changed. -/
theorem recounted_of_eq (state : n.host = m.host) (files : n.files = m.files)
    (sink : n.sink = m.sink) (outcomes : n.outcomes = m.outcomes) : m.Recounted host n := by
  have scene : n.scene = m.scene := by rw [scene, scene, state, files, outcomes]
  refine ⟨[], by simp [state], ?_, sink, fun _ _ inside => absurd inside List.not_mem_nil⟩
  rw [scene]
  exact .nil _

/-- A render that did nothing is told by no acts. -/
theorem Recounted.refl (host : Host) (m : Machine) : m.Recounted host m :=
  recounted_of_eq rfl rfl rfl rfl

/-- What was told up to a machine and on from there is told. -/
theorem Recounted.trans (first : m.Recounted host n) (second : n.Recounted host k) :
    m.Recounted host k := by
  obtain ⟨acts, early⟩ := first
  obtain ⟨more, late⟩ := second
  exact ⟨acts ++ more, early.trans late⟩

/-- One act that writes nothing. -/
theorem recounted_act {act : Act} (change : act.Changes host m.scene n.scene)
    (silent : ∀ level, act.textAt? level = none) (sink : n.sink = m.sink)
    (journal : n.host.journal = m.host.journal.push act) : m.Recounted host n := by
  refine ⟨[act], by simp [journal], change.recount, ?_, fun level text inside => ?_⟩
  · simp only [textsAt, List.filterMap_cons, silent, List.filterMap_nil]
    exact sink
  · obtain rfl := List.mem_singleton.mp inside
    simp [Act.textAt?] at silent

end Machine

/-- A change of the machine that concerns nothing which the journal tells. -/
structure Machine.Untold (f : Machine → Machine) : Prop where
  /-- The heap and the journal are as they were. -/
  host : ∀ m, (f m).host = m.host
  /-- The files are as they were. -/
  files : ∀ m, (f m).files = m.files
  /-- The sink is as it was. -/
  sink : ∀ m, (f m).sink = m.sink
  /-- The outcomes are as they were. -/
  outcomes : ∀ m, (f m).outcomes = m.outcomes

/-- A change that concerns nothing in the journal is told by no acts. -/
theorem Machine.Untold.recounted {f : Machine → Machine} (untold : Machine.Untold f) (host : Host)
    (m : Machine) : m.Recounted host (f m) :=
  recounted_of_eq (untold.host m) (untold.files m) (untold.sink m) (untold.outcomes m)

namespace Render

variable {α : Type} {host : Host} {setting : Setting}

/-- The journal tells how a render comes wherever it ends. -/
abbrev Journaled (host : Host) : Render α → Prop := Within (Machine.Recounted host)

/-- A sequence is told if its parts are. -/
theorem Journaled.bind {β : Type} {x : Render α} {f : α → Render β} (first : Journaled host x)
    (second : ∀ v, Journaled host (f v)) : Journaled host (x >>= f) :=
  Within.bind first second fun _ _ _ => Machine.Recounted.trans

/-- To read from the machine is told. -/
theorem journaled_reads (f : Machine → α) : Journaled host (reads f) := fun m => .refl host m

/-- A change that concerns nothing in the journal is told. -/
theorem journaled_modify {f : Machine → Machine} (untold : Machine.Untold f) :
    Journaled host (modify f) := fun m => untold.recounted host m

/-- To write a text is told by that act. -/
theorem journaled_emit (text : String) : Journaled host (emit text) := by
  intro m
  rw [holds_emit]
  split
  · refine ⟨[.wrote m.sink.level text], by simp, (Act.Changes.wrote _ _ _).recount, ?_, ?_⟩
    · simp [textsAt, Act.textAt?, Sink.writeAll, Output.append]
    · intro level other inside
      have same := List.mem_singleton.mp inside
      cases same
      exact Nat.le_refl _
  · exact .refl host m

/-- To evaluate an expression is told by the calls in it. -/
theorem journaled_evaluate (expr : Expr) : Journaled setting.host (evaluate setting expr) := by
  intro m
  -- a callable met on the way is the only thing that happens
  refine Expr.eval_kept (fun state => m.Recounted setting.host { m with host := state })
    (fun state ref before => before.trans ?_) m.context expr (.refl setting.host m)
  exact Machine.recounted_act (.called ref _) (fun _ => rfl) rfl rfl

/-- To load a template concerns nothing in the journal. -/
theorem journaled_load (name : String) : Journaled host (load setting name) := by
  intro m
  rw [holds_load]
  split
  · exact Machine.recounted_of_eq rfl rfl rfl rfl
  · exact .refl host m

/-- To create a file is told by that act. -/
theorem journaled_create (owner : Template) (line : Nat) (file content : String) :
    Journaled host (create owner line file content) := by
  intro m
  rw [create_eq]
  refine Machine.recounted_act
    (?_ : Act.Changes host (.created (targetPath m.context file) content) _ _)
    (fun _ => rfl) rfl rfl
  unfold stored
  by_cases nameless : file.isEmpty = true
  · simp only [nameless, if_true, Machine.scene, Array.toList_push]
    exact .nameless _ content owner.name line m.scene
  · simp only [nameless, Machine.scene, Array.toList_push]
    exact .saved _ content m.scene

/-- A state is entered and left without changing anything that the journal tells. -/
theorem Journaled.around {x : Render α} (inside : Journaled host x)
    {enter leave : Machine → Machine} (enters : Machine.Untold enter)
    (leaves : Machine.Untold leave) :
    Journaled host (around enter leave x) := by
  intro m
  rw [holds_around]
  have told : ∀ n, Machine.Recounted host (enter m) n → m.Recounted host (leave n) :=
    fun n within => ((enters.recounted host m).trans within).trans (leaves.recounted host n)
  exact (inside (enter m)).mono (fun _ n => told n) (fun _ n => told n) id

/-- The overriding templates concern nothing in the journal. -/
theorem untold_chain (change : List Template → List Template) :
    Machine.Untold fun m => { m with chain := change m.chain } :=
  ⟨fun _ => rfl, fun _ => rfl, fun _ => rfl, fun _ => rfl⟩

/-- The templates that are being rendered concern nothing in the journal. -/
theorem untold_active (change : List String → List String) :
    Machine.Untold fun m => { m with active := change m.active } :=
  ⟨fun _ => rfl, fun _ => rfl, fun _ => rfl, fun _ => rfl⟩

/-- The context concerns nothing in the journal. -/
theorem untold_context (change : Machine → Context) :
    Machine.Untold fun m => { m with context := change m } :=
  ⟨fun _ => rfl, fun _ => rfl, fun _ => rfl, fun _ => rfl⟩

/-- A render without the overriding templates is told as one with them. -/
theorem Journaled.detached {x : Render Unit} (inside : Journaled host x) :
    Journaled host (detached x) :=
  (journaled_reads _).bind fun chain =>
    inside.around (untold_chain fun _ => []) (untold_chain fun _ => chain)

/-- A render with one more overriding template is told. -/
theorem Journaled.overridden {x : Render Unit} (inside : Journaled host x) (t : Template) :
    Journaled host (overridden t x) :=
  inside.around (untold_chain (· ++ [t])) (untold_chain List.dropLast)

/-- A render inside a template is told. -/
theorem Journaled.entering {x : Render Unit} (inside : Journaled host x) (t : Template) :
    Journaled host (entering t x) :=
  inside.around (untold_active (· ++ [t.name])) (untold_active List.dropLast)

/-- A template is told if its body is. -/
theorem Journaled.template {x : Render Unit} (inside : Journaled host x) (t : Template) :
    Journaled host (template setting (fun _ => x) t) := by
  intro m
  rw [template_apply]
  split
  · exact .refl host m
  · split
    · exact .refl host m
    · exact inside.entering t m

/-- What is written to a captured text is noted with higher levels. -/
theorem recounted_captured {m n : Machine}
    (inside : Machine.Recounted host { m with sink := .unlimited (m.sink.level + 1) } n) :
    m.Recounted host { n with sink := m.sink } := by
  obtain ⟨acts, told⟩ := inside
  have above : ∀ level text, .wrote level text ∈ acts → m.sink.level + 1 ≤ level := told.levels
  have none : textsAt m.sink.level acts = [] :=
    textsAt_eq_nil fun text found => Nat.lt_irrefl _ (above _ text found)
  refine ⟨acts, told.journal, told.scene, by rw [none]; rfl, fun level text found => ?_⟩
  exact Nat.le_of_succ_le (above level text found)

/-- A render that is captured is told, its texts at a level further in. -/
theorem Journaled.captured {x : Render Unit} (inside : Journaled host x) :
    Journaled host (captured x) := by
  intro m
  rw [holds_captured]
  have body := inside { m with sink := .unlimited (m.sink.level + 1) }
  exact body.mono (fun _ _ => recounted_captured) (fun _ _ => recounted_captured) id

/-- The trait of coming everywhere as the journal tells. -/
def journaling (host : Host) : Trait Unit where
  whole x := Journaled host (x ())
  inner x := Journaled host (x ())
  entered _ x := Journaled host (x ())

/-- Every operation of a render is told. -/
theorem operable_journaling (setting : Setting) :
    (journaling setting.host).Operable fun _ => setting where
  pure v := fun m => .refl setting.host m
  bind := Journaled.bind
  emit := journaled_emit
  evaluate := journaled_evaluate
  shown v := (journaled_reads _).bind journaled_emit
  heap f := journaled_reads _
  blockBody owner name body := journaled_reads _
  inherits owner name x inside := (journaled_load name).bind fun t => (inside t).overridden owner
  includes name x inside := (journaled_load name).bind fun t => (inside t).detached
  captures name x inside := (journaled_load name).bind fun t => (inside t).detached.captured
  create := journaled_create
  template t x inside := Journaled.template inside t
  inner := id
  innerBind := Journaled.bind
  bindName name v := journaled_modify (untold_context fun m => m.context.set name v)
  bindLoop list index := by
    unfold journaling bindLoop
    split
    · exact (journaled_reads _).bind fun count =>
        journaled_modify (untold_context fun m => m.context.set "forloop" (.ofLoop ⟨index, count⟩))
    · exact fun m => .refl setting.host m

/-- A render in a scope of its own is told. -/
theorem journaled_inScope {x : Render Unit} (leads : Within (Machine.Leads host) x)
    (inside : Journaled host x) : Journaled host (inScope x) := by
  intro m
  rw [inScope_eq_around leads]
  exact inside.around (untold_context fun m => m.context.push) (untold_context fun _ => m.context) m

/-- Whatever the fuel, a task comes wherever it ends as the journal tells. -/
theorem journaled_run (fuel : Nat) (task : Task) :
    Journaled setting.host (run setting fuel task) := by
  have starved : ∀ task, (journaling setting.host).Meets task fun _ => starve := by
    intro task
    cases task <;> exact fun _ => trivial
  have told := (operable_journaling setting).run (fun _ => rfl)
    (fun leads inside => journaled_inScope (leads ()) inside) starved fuel task
  cases task <;> exact told

end Render

/-- A render that ends, with an error or without one, comes there as its journal tells: by the
callables, the creations and the texts that are noted in it, in that order, and by nothing else. -/
theorem Template.recounted_render {setting : Setting} {fuel : Nat} {t : Template} (m : Machine) :
    (t.render setting fuel m).Holds
      (fun _ n => Machine.Recounted setting.host { m with outcomes := #[] } n)
      (fun _ n => Machine.Recounted setting.host { m with outcomes := #[] } n) True := by
  have told : Render.Journaled setting.host (Render.run setting fuel (.template t)) :=
    Render.journaled_run fuel (.template t)
  have same : ∀ n, Machine.Recounted setting.host
      { m with active := [], chain := [], outcomes := #[] } n →
      Machine.Recounted setting.host { m with outcomes := #[] } n := fun n ⟨acts, recounts⟩ =>
    ⟨acts, recounts.journal, recounts.scene, recounts.sink, recounts.levels⟩
  exact (told { m with active := [], chain := [], outcomes := #[] }).mono (fun _ n => same n)
    (fun _ n => same n) id

end TextTemplate

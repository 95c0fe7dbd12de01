import TextTemplate.Proofs.Render.Hushed
import TextTemplate.Proofs.Render.Journal
import TextTemplate.Proofs.File.Saving
/-!
# Rendering again

A render without callables is rendered again where it ended. The first render is settled there: its
templates are known, and the files that it created hold their texts, as no later creation touched
them. The second render is its echo: it finds each template known and each file as it would create
it, and so does the same and changes nothing. Main statement: if no creation failed and the files
are apart from each other, rendering again gives the same text and leaves every file unchanged
(`Template.render_again`).
-/
namespace TextTemplate

namespace SaveOutcome

/-- The path of the file. -/
def path : SaveOutcome → Path
  | .written p => p
  | .unchanged p => p
  | .failed p _ => p

/-- What becomes of the file if the same text is saved once more. -/
def again (outcome : SaveOutcome) : SaveOutcome := .unchanged outcome.path

end SaveOutcome

/-! ### Files that were created -/

namespace FileTree

variable {tree after : FileTree} {p q : Path}

/-- A file that is saved is told by its path, whatever becomes of it. -/
theorem path_save (tree : FileTree) (p : Path) (text : String) :
    (tree.save p text).2.path = p := by
  have way := tree.saving p text
  generalize tree.save p text = saved at way ⊢
  cases way <;> rfl

/-- Two paths lead to different files, and neither leads to the one beside the other. -/
structure Apart (tree : FileTree) (p q : Path) : Prop where
  /-- The paths lead to different files. -/
  other : tree.placeOf p ≠ tree.placeOf q
  /-- The first does not lead to the file beside the second. -/
  beside : tree.placeOf p ≠ tree.placeOf (scratchPath q)
  /-- The second does not lead to the file beside the first. -/
  beside' : tree.placeOf q ≠ tree.placeOf (scratchPath p)

instance (tree : FileTree) (p q : Path) : Decidable (tree.Apart p q) :=
  decidable_of_iff (tree.placeOf p ≠ tree.placeOf q ∧
    tree.placeOf p ≠ tree.placeOf (scratchPath q) ∧ tree.placeOf q ≠ tree.placeOf (scratchPath p))
    ⟨fun ⟨other, beside, beside'⟩ => ⟨other, beside, beside'⟩,
      fun ⟨other, beside, beside'⟩ => ⟨other, beside, beside'⟩⟩

/-- Files are apart after a change that keeps directories if and only if they were before. -/
theorem apart_of_keeps (keeps : tree.Keeps after) : after.Apart p q ↔ tree.Apart p q := by
  constructor <;> rintro ⟨other, beside, beside'⟩ <;>
    exact ⟨by simpa only [placeOf_of_keeps keeps] using other,
      by simpa only [placeOf_of_keeps keeps] using beside,
      by simpa only [placeOf_of_keeps keeps] using beside'⟩

end FileTree

/-- The path of the file that an act creates. -/
def Act.target? : Act → Option Path
  | .created path _ => some path
  | _ => none

/-- The paths of the files that acts create. -/
def targets (acts : List Act) : List Path := acts.filterMap Act.target?

/-- The path of the first act comes first. -/
theorem targets_cons (act : Act) (acts : List Act) :
    targets (act :: acts) = act.target?.toList ++ targets acts := by
  unfold targets
  cases created : act.target? <;> simp [created]

section Recount

variable {host : Host} {act : Act} {acts : List Act} {s s' : Scene}

/-- No act removes or replaces a directory. -/
theorem Act.Changes.keeps (change : act.Changes host s s') : s.files.Keeps s'.files := by
  cases change with
  | saved path content s => exact (s.files.saving path content).keeps
  | _ => exact .refl _

/-- So it is with any number of acts. -/
theorem Recount.keeps (recount : Recount host acts s s') : s.files.Keeps s'.files := by
  induction recount with
  | nil s => exact .refl _
  | cons change later ih => exact change.keeps.trans ih

/-- An outcome is noted for each file that acts create. -/
theorem Recount.paths (recount : Recount host acts s s') :
    s'.outcomes.map SaveOutcome.path = s.outcomes.map SaveOutcome.path ++ targets acts := by
  induction recount with
  | nil s => exact (List.append_nil _).symm
  | cons change later ih =>
    rw [ih, targets_cons]
    cases change with
    | called ref s => rfl
    | wrote level text s => rfl
    | saved path content s => simp [Act.target?, FileTree.path_save]
    | nameless path content owner line s => simp [Act.target?, SaveOutcome.path]

/-- The text of a file outlasts the creation of files apart from it. -/
theorem Recount.readText_of_apart (recount : Recount host acts s s') {p : Path} {text : String}
    (found : s.files.readText p = .ok text) (apart : ∀ q ∈ targets acts, s.files.Apart p q) :
    s'.files.readText p = .ok text := by
  induction recount with
  | nil s => exact found
  | @cons act acts s s' s'' change later ih =>
    rw [targets_cons] at apart
    refine ih ?_ fun q member =>
      (FileTree.apart_of_keeps change.keeps).mpr (apart q (List.mem_append_right _ member))
    cases change with
    | saved path content _ =>
      have there := apart path (List.mem_append_left _ (by simp [Act.target?]))
      exact (s.files.saving path content).readText_of_ne found there.other there.beside
    | _ => exact found

/-- If no creation failed and the files are apart from each other, then every file that was created
holds its text in the end. -/
theorem Recount.readText (recount : Recount host acts s s')
    (fine : ∀ path failure, .failed path failure ∉ s'.outcomes)
    (apart : (targets acts).Pairwise s.files.Apart) {path : Path} {content : String}
    (created : .created path content ∈ acts) : s'.files.readText path = .ok content := by
  induction recount with
  | nil s => exact absurd created List.not_mem_nil
  | @cons act acts s s' s'' change later ih =>
    rw [targets_cons, List.pairwise_append] at apart
    obtain ⟨-, rest, across⟩ := apart
    rcases List.mem_cons.mp created with rfl | further
    · cases change with
      | saved path content _ =>
        have noted : (s.files.save path content).2 ∈ s''.outcomes := later.outcomes.subset
          (List.mem_append_right _ (List.mem_singleton_self _))
        have saved := (s.files.saving path content).readText fun failure failed =>
          fine path failure (failed ▸ noted)
        refine later.readText_of_apart saved fun q member => ?_
        exact (FileTree.apart_of_keeps (s.files.saving path content).keeps).mpr
          (across path (by simp [Act.target?]) q member)
      | nameless path content owner line _ =>
        have noted : SaveOutcome.failed path (.emptyName owner line) ∈ s''.outcomes :=
          later.outcomes.subset (List.mem_append_right _ (List.mem_singleton_self _))
        exact absurd noted (fine path _)
    · exact ih fine (rest.imp (FileTree.apart_of_keeps change.keeps).mpr) further

end Recount

/-! ### The second render beside the first -/

namespace Machine

/-- What a render adds to: the known templates, the journal and the outcomes. -/
structure Extends (m n : Machine) : Prop where
  /-- A template that was known is known still. -/
  library : ∀ name t, m.library.get? name = some t → n.library.get? name = some t
  /-- The journal was only added to. -/
  journal : m.host.journal.toList <+: n.host.journal.toList
  /-- The outcomes were only added to. -/
  outcomes : m.outcomes.toList <+: n.outcomes.toList

/-- A machine extends itself. -/
theorem Extends.refl (m : Machine) : m.Extends m :=
  ⟨fun _ _ => id, List.prefix_refl _, List.prefix_refl _⟩

/-- What extends an extension extends the machine. -/
theorem Extends.trans {m n k : Machine} (first : m.Extends n) (second : n.Extends k) :
    m.Extends k where
  library name t known := second.library name t (first.library name t known)
  journal := first.journal.trans second.journal
  outcomes := first.outcomes.trans second.outcomes

/-- A change of the machine that concerns nothing a render adds to. -/
structure Aside (f : Machine → Machine) : Prop where
  /-- The library is as it was. -/
  library : ∀ m, (f m).library = m.library
  /-- The heap and the journal are as they were. -/
  host : ∀ m, (f m).host = m.host
  /-- The outcomes are as they were. -/
  outcomes : ∀ m, (f m).outcomes = m.outcomes

/-- A change that concerns nothing of this extends the machine. -/
theorem Aside.extends_ {f : Machine → Machine} (aside : Aside f) (m : Machine) :
    m.Extends (f m) where
  library name t known := by rwa [aside.library]
  journal := by simp only [aside.host, List.prefix_refl]
  outcomes := by simp only [aside.outcomes, List.prefix_refl]

/-- The context is nothing that a render adds to. -/
theorem aside_context (change : Machine → Context) :
    Aside fun m => { m with context := change m } := ⟨fun _ => rfl, fun _ => rfl, fun _ => rfl⟩

/-- Neither are the overriding templates. -/
theorem aside_chain (change : Machine → List Template) :
    Aside fun m => { m with chain := change m } := ⟨fun _ => rfl, fun _ => rfl, fun _ => rfl⟩

/-- Neither are the templates being rendered. -/
theorem aside_active (change : Machine → List String) :
    Aside fun m => { m with active := change m } := ⟨fun _ => rfl, fun _ => rfl, fun _ => rfl⟩

/-- Neither is the sink. -/
theorem aside_sink (change : Machine → Sink) :
    Aside fun m => { m with sink := change m } := ⟨fun _ => rfl, fun _ => rfl, fun _ => rfl⟩

/-- The render that led to the machine created the files after the given act without a failure, and
their texts are found in the files; its templates are among those of the library. -/
structure Settled (library : Library) (files : FileTree) (from_ : Nat) (n : Machine) : Prop where
  /-- Its templates are among those of the library. -/
  library : ∀ name t, n.library.get? name = some t → library.get? name = some t
  /-- No creation failed. -/
  outcomes : ∀ path failure, .failed path failure ∉ n.outcomes.toList
  /-- The files hold the texts they were created with. -/
  created : ∀ path content, .created path content ∈ n.host.journal.toList.drop from_ →
    files.readText path = .ok content

/-- The second machine is in the same place as the first, with the library and the files. -/
structure Echoes (library : Library) (files : FileTree) (m y : Machine) : Prop where
  /-- The lists and records are the same. -/
  heap : y.host.heap = m.host.heap
  /-- The contexts are the same. -/
  context : y.context = m.context
  /-- The same templates are being rendered. -/
  active : y.active = m.active
  /-- The same templates override. -/
  chain : y.chain = m.chain
  /-- The sinks are the same. -/
  sink : y.sink = m.sink
  /-- It has the library. -/
  library : y.library = library
  /-- It has the files. -/
  files : y.files = files

/-- The second pair of machines notes, for each outcome of the first, what becomes of the file if it
is saved again. -/
def Repeats (m n y z : Machine) : Prop :=
  ∃ new, n.outcomes.toList = m.outcomes.toList ++ new ∧
    z.outcomes.toList = y.outcomes.toList ++ new.map SaveOutcome.again

variable {m n k y z w : Machine} {library : Library} {files : FileTree} {from_ : Nat}

/-- Where no file is saved none is saved again. -/
theorem repeats_of_eq (first : n.outcomes = m.outcomes) (second : z.outcomes = y.outcomes) :
    Repeats m n y z := ⟨[], by simp [first], by simp [second]⟩

/-- What is saved again on two ways is so on both together. -/
theorem Repeats.trans (first : Repeats m n y z) (second : Repeats n k z w) : Repeats m k y w := by
  obtain ⟨new, here, there⟩ := first
  obtain ⟨more, further, beyond⟩ := second
  refine ⟨new ++ more, ?_, ?_⟩
  · rw [further, here, List.append_assoc]
  · rw [beyond, there, List.map_append, List.append_assoc]

/-- What led to a settled machine was settled. -/
theorem Settled.of_extends (settled : n.Settled library files from_) (grows : m.Extends n) :
    m.Settled library files from_ where
  library name t known := settled.library name t (grows.library name t known)
  outcomes path failure noted := settled.outcomes path failure (grows.outcomes.subset noted)
  created path content noted := by
    obtain ⟨later, whole⟩ := grows.journal
    refine settled.created path content ?_
    rw [← whole, List.drop_append]
    exact List.mem_append_left _ noted

end Machine

namespace Render

open Machine

variable {α β : Type} {host : Host} {setting : Setting} {library : Library} {files : FileTree}
  {from_ : Nat}

/-- Where a render comes to a settled machine, it comes from an echo of the first machine to an echo
of the last, and saves again what it saved. -/
structure Replayed (library : Library) (files : FileTree) (from_ : Nat) (x : Render α) : Prop where
  /-- The render only adds to what a machine has. -/
  grows : Within Machine.Extends x
  /-- From an echo of its start it comes to an echo of its end. -/
  replays : ∀ {m n y v}, x m = .done v n → n.Settled library files from_ →
    from_ ≤ m.host.journal.size → Echoes library files m y →
    ∃ z, x y = .done v z ∧ Echoes library files n z ∧ Repeats m n y z

/-- A steady render that the journal tells only adds to what a machine has. -/
theorem extends_of_steady {x : Render α} (steady : Steady host x) (journaled : Journaled host x) :
    Within Machine.Extends x := by
  have extends_ : ∀ m n : Machine, m.Returns host n → m.Recounted host n → m.Extends n := by
    rintro m n returns ⟨acts, recounts⟩
    exact ⟨returns.library, ⟨acts, recounts.journal.symm⟩, returns.outcomes⟩
  intro m
  exact ((steady m).and (journaled m)).mono (fun _ n both => extends_ m n both.1 both.2)
    (fun _ n both => extends_ m n both.1 both.2) fun _ => trivial

/-- A sequence is replayed if its parts are. -/
theorem Replayed.bind {x : Render α} {f : α → Render β} (first : Replayed library files from_ x)
    (second : ∀ v, Replayed library files from_ (f v)) :
    Replayed library files from_ (x >>= f) where
  grows := Within.bind first.grows (fun v => (second v).grows) fun _ _ _ => Machine.Extends.trans
  replays {m n y w} done settled begun echoes := by
    obtain ⟨v, k, early, late⟩ := done_bind.mp done
    have further := (second v).grows k
    rw [late] at further
    have grown := first.grows m
    rw [early] at grown
    obtain ⟨l, here, there, noted⟩ :=
      first.replays early (settled.of_extends further) begun echoes
    have begun' : from_ ≤ k.host.journal.size :=
      Nat.le_trans begun (by simpa using grown.journal.length_le)
    obtain ⟨z, last, echo, noted'⟩ := (second v).replays late settled begun' there
    exact ⟨z, done_bind.mpr ⟨v, l, here, last⟩, echo, noted.trans noted'⟩

/-- What an echo has in common with the machine is read again. -/
theorem replayed_reads {f : Machine → α}
    (same : ∀ m y, Echoes library files m y → f y = f m) :
    Replayed library files from_ (reads f) where
  grows m := .refl m
  replays {m n y v} done _ _ echoes := by
    cases done
    exact ⟨y, congrArg (Ending.done · y) (same m y echoes), echoes, repeats_of_eq rfl rfl⟩

/-- A text is written again. -/
theorem replayed_emit (text : String) : Replayed library files from_ (emit text) where
  grows := extends_of_steady (steady_emit text) (@journaled_emit .silent text)
  replays {m n y v} done _ _ echoes := by
    unfold emit at done
    split at done
    · rename_i taken
      cases done
      rw [← echoes.sink] at taken
      refine ⟨_, if_pos taken, { echoes with sink := ?_ }, repeats_of_eq rfl rfl⟩
      rw [echoes.sink]
    · cases done

/-- An expression has its value again, and calls again what it called. -/
theorem replayed_evaluate (expr : Expr) :
    Replayed library files from_ (evaluate setting expr) where
  grows := extends_of_steady (steady_evaluate expr) (journaled_evaluate expr)
  replays {m n y v} done _ _ echoes := by
    cases done
    obtain ⟨value, heap⟩ := Expr.eval_heap setting.host m.context expr echoes.heap
    refine ⟨{ y with host := (expr.eval setting.host m.context y.host).2 }, ?_,
      { echoes with heap }, repeats_of_eq rfl rfl⟩
    rw [evaluate, echoes.context]
    exact congrArg (Ending.done · _) value

/-- What was read from a file is known to the library. -/
theorem replayed_load (name : String) : Replayed library files from_ (load setting name) where
  grows := extends_of_steady (steady_load name) (@journaled_load setting.host setting name)
  replays {m n y t} done settled _ echoes := by
    obtain ⟨after, loaded, rfl⟩ := done_load done
    have known := settled.library _ _ (Library.get?_of_load loaded)
    rw [← echoes.library] at known
    exact ⟨y, load_of_known known, { echoes with }, repeats_of_eq rfl rfl⟩

/-- A file that was created holds its text already. -/
theorem replayed_create (owner : Template) (line : Nat) (file content : String) :
    Replayed library files from_ (create owner line file content) where
  grows := extends_of_steady (@steady_create .silent owner line file content)
    (@journaled_create .silent owner line file content)
  replays {m n y v} done settled begun echoes := by
    have first := create_eq owner line file content m
    have second := create_eq owner line file content y
    rw [done] at first
    cases first
    let path := targetPath m.context file
    have target : targetPath y.context file = path := by rw [echoes.context]
    have named : file.isEmpty = false := by
      cases empty : file.isEmpty with
      | false => rfl
      | true =>
        refine absurd ?_ (settled.outcomes path (.emptyName owner.name line))
        simp [stored, empty, path]
    have held : files.readText path = .ok content := by
      refine settled.created path content ?_
      have last : ((m.host.record (.created path content)).journal.toList) =
          m.host.journal.toList ++ [.created path content] := by simp
      show _ ∈ List.drop from_ (m.host.record (.created path content)).journal.toList
      rw [last, List.drop_append_of_le_length (by simpa using begun)]
      exact List.mem_append_right _ (List.mem_singleton_self _)
    have kept : stored owner line file path content y.files = (y.files, .unchanged path) := by
      rw [stored, named, echoes.files]
      exact FileTree.save_of_readText held
    simp only [target, kept] at second
    refine ⟨_, second, { echoes with heap := echoes.heap, files := echoes.files }, ?_⟩
    refine ⟨[(stored owner line file path content m.files).2], by simp [path], ?_⟩
    simp [SaveOutcome.again, stored, named, FileTree.path_save]

/-- A state is entered and left that concerns nothing a render adds to. -/
theorem Replayed.around {x : Render α} (inside : Replayed library files from_ x)
    {enter leave : Machine → Machine} (enters : Aside enter) (leaves : Aside leave)
    (enterEchoes : ∀ m y, Echoes library files m y → Echoes library files (enter m) (enter y))
    (leaveEchoes : ∀ m y, Echoes library files m y → Echoes library files (leave m) (leave y)) :
    Replayed library files from_ (around enter leave x) where
  grows m := by
    rw [holds_around]
    have outside : ∀ n, (enter m).Extends n → m.Extends (leave n) := fun n grown =>
      ((enters.extends_ m).trans grown).trans (leaves.extends_ n)
    exact (inside.grows (enter m)).mono (fun _ n => outside n) (fun _ n => outside n) id
  replays {m n y v} done settled begun echoes := by
    obtain ⟨l, inner, rfl⟩ := done_around.mp done
    obtain ⟨z, again, echo, noted⟩ := inside.replays inner
      (settled.of_extends (leaves.extends_ l)) (by rw [enters.host]; exact begun)
      (enterEchoes m y echoes)
    refine ⟨leave z, done_around.mpr ⟨z, again, rfl⟩, leaveEchoes l z echo, ?_⟩
    unfold Repeats at noted ⊢
    simpa only [enters.outcomes, leaves.outcomes] using noted

/-- A render without the overriding templates is replayed. -/
theorem Replayed.detached {x : Render Unit} (inside : Replayed library files from_ x) :
    Replayed library files from_ (detached x) :=
  (replayed_reads fun _ _ echoes => echoes.chain).bind fun chain =>
    inside.around (aside_chain fun _ => []) (aside_chain fun _ => chain)
      (fun _ _ echoes => { echoes with chain := rfl })
      fun _ _ echoes => { echoes with chain := rfl }

/-- A render with one more overriding template is replayed. -/
theorem Replayed.overridden {x : Render Unit} (inside : Replayed library files from_ x)
    (t : Template) : Replayed library files from_ (overridden t x) :=
  inside.around (aside_chain (·.chain ++ [t])) (aside_chain (·.chain.dropLast))
    (fun _ _ echoes => { echoes with chain := congrArg (· ++ [t]) echoes.chain })
    fun _ _ echoes => { echoes with chain := congrArg List.dropLast echoes.chain }

/-- A captured render is replayed. -/
theorem Replayed.captured {x : Render Unit} (inside : Replayed library files from_ x) :
    Replayed library files from_ (captured x) := by
  refine (replayed_reads fun _ _ echoes => echoes.sink).bind fun sink => ?_
  have body : Replayed library files from_ (x >>= fun _ => reads (·.sink.text)) :=
    inside.bind fun _ => replayed_reads fun _ _ echoes => congrArg Sink.text echoes.sink
  exact body.around (aside_sink fun _ => .unlimited (sink.level + 1)) (aside_sink fun _ => sink)
    (fun _ _ echoes => { echoes with sink := rfl }) fun _ _ echoes => { echoes with sink := rfl }

/-- A failure leads to no settled machine. -/
theorem replayed_fail (error : RenderError) :
    Replayed library files from_ (fail error : Render α) where
  grows m := .refl m
  replays done := by cases done

/-- A template is replayed if its body is. -/
theorem Replayed.template {x : Render Unit} (inside : Replayed library files from_ x)
    (t : Template) : Replayed library files from_ (template setting (fun _ => x) t) := by
  have entering : Replayed library files from_ (entering t x) :=
    inside.around (aside_active (·.active ++ [t.name])) (aside_active (·.active.dropLast))
      (fun _ _ echoes => { echoes with active := congrArg (· ++ [t.name]) echoes.active })
      fun _ _ echoes => { echoes with active := congrArg List.dropLast echoes.active }
  refine (replayed_reads fun _ _ echoes => echoes.active).bind fun active => ?_
  split
  · exact replayed_fail _
  · split
    · exact replayed_fail _
    · exact entering

/-- A render in a scope of its own is replayed. -/
theorem Replayed.inScope {x : Render Unit} (inside : Replayed library files from_ x)
    (leads : Within (Machine.Leads host) x) : Replayed library files from_ (inScope x) := by
  have opened : ∀ outer : Context, Replayed library files from_
      (Render.around (fun m => { m with context := m.context.push })
        (fun n => { n with context := outer }) x) := fun outer =>
    inside.around (aside_context (·.context.push)) (aside_context fun _ => outer)
      (fun _ _ echoes => { echoes with context := congrArg Context.push echoes.context })
      fun _ _ echoes => { echoes with context := rfl }
  constructor
  · intro m
    rw [inScope_eq_around leads]
    exact (opened m.context).grows m
  · intro m n y v done settled begun echoes
    rw [inScope_eq_around leads] at done ⊢
    rw [echoes.context]
    exact (opened m.context).replays done settled begun echoes

/-- A name is bound again. -/
theorem replayed_bindName (name : String) (v : Value) :
    Replayed library files from_ (bindName name v) where
  grows := (aside_context fun m => m.context.set name v).extends_
  replays {m n y w} done _ _ echoes := by
    cases done
    refine ⟨_, rfl, { echoes with context := ?_ }, repeats_of_eq rfl rfl⟩
    exact congrArg (Context.set · name v) echoes.context

/-- The trait of being replayed. -/
def replaying (library : Library) (files : FileTree) (from_ : Nat) : Trait Unit where
  whole x := Replayed library files from_ (x ())
  inner x := Replayed library files from_ (x ())
  entered _ x := Replayed library files from_ (x ())

/-- Every operation of a render is replayed. -/
theorem operable_replaying (setting : Setting) (library : Library) (files : FileTree)
    (from_ : Nat) : (replaying library files from_).Operable fun _ => setting where
  pure v := replayed_reads (fun _ _ _ => rfl)
  bind := Replayed.bind
  emit := replayed_emit
  evaluate := replayed_evaluate
  shown v := (replayed_reads fun _ _ echoes => congrArg (Render.shown · v) echoes.context).bind
    replayed_emit
  heap f := replayed_reads fun _ _ echoes => congrArg f echoes.heap
  blockBody owner name body := replayed_reads fun _ _ echoes =>
    congrArg (Render.blockBody · owner name body) echoes.chain
  inherits owner name x inside := (replayed_load name).bind fun t => (inside t).overridden owner
  includes name x inside := (replayed_load name).bind fun t => (inside t).detached
  captures name x inside := (replayed_load name).bind fun t => (inside t).detached.captured
  create := replayed_create
  template t x inside := Replayed.template inside t
  inner := id
  innerBind := Replayed.bind
  bindName := replayed_bindName
  bindLoop list index := by
    unfold replaying bindLoop
    split
    · exact (replayed_reads fun _ _ echoes => congrArg (Heap.count · list) echoes.heap).bind
        fun count => replayed_bindName "forloop" (.ofLoop ⟨index, count⟩)
    · exact replayed_reads fun _ _ _ => rfl

/-- Every run is replayed. -/
theorem replayed_run (library : Library) (files : FileTree) (from_ : Nat) (fuel : Nat)
    (task : Task) : Replayed library files from_ (run setting fuel task) := by
  have starved : ∀ task, (replaying library files from_).Meets task fun _ => starve := by
    intro task
    cases task <;> exact ⟨fun _ => trivial, fun done => nomatch done⟩
  have replayed := (operable_replaying setting library files from_).run (fun _ => rfl)
    (fun leads inside => Replayed.inScope inside (leads ())) starved fuel task
  cases task <;> exact replayed

end Render

/-- Where a render is done without a failed creation, and the files that it created are apart, they
hold their texts. -/
theorem Template.settled_render {setting : Setting} {fuel : Nat} {t : Template} {m n : Machine}
    (done : t.render setting fuel m = .done () n)
    (fine : ∀ path failure, .failed path failure ∉ n.outcomes.toList)
    (apart : (n.outcomes.toList.map SaveOutcome.path).Pairwise n.files.Apart) :
    n.Settled n.library n.files m.host.journal.size := by
  have told := @Template.recounted_render setting fuel t m
  rw [done] at told
  obtain ⟨acts, recounts⟩ := told
  have paths : n.outcomes.toList.map SaveOutcome.path = targets acts := recounts.scene.paths
  have keeps : m.files.Keeps n.files := recounts.scene.keeps
  have apart' : (targets acts).Pairwise m.files.Apart :=
    (paths ▸ apart).imp (FileTree.apart_of_keeps keeps).mp
  refine ⟨fun _ _ => id, fine, fun path content noted => ?_⟩
  have journal : n.host.journal.toList = m.host.journal.toList ++ acts := recounts.journal
  rw [journal, ← Array.length_toList, List.drop_left] at noted
  exact recounts.scene.readText fine apart' noted

/-- A render in a context that leads to no callable, which created files apart from each other and
none without success, does the same again where it ended, with the same context and sink: it ends
with the same text, and leaves each file unchanged that it created. -/
theorem Template.render_again {setting : Setting} {fuel : Nat} {t : Template} {m n : Machine}
    (hushed : m.Hushed) (done : t.render setting fuel m = .done () n)
    (fine : ∀ path failure, .failed path failure ∉ n.outcomes.toList)
    (apart : (n.outcomes.toList.map SaveOutcome.path).Pairwise n.files.Apart) :
    ∃ k, t.render setting fuel { n with context := m.context, sink := m.sink } = .done () k ∧
      k.sink = n.sink ∧ k.outcomes = n.outcomes.map SaveOutcome.again ∧ k.files = n.files ∧
      k.library = n.library := by
  have settled := Template.settled_render done fine apart
  have heap := Template.heap_render hushed done
  have replayed : Render.Replayed n.library n.files m.host.journal.size
      (Render.run setting fuel (.template t)) := Render.replayed_run _ _ _ fuel (.template t)
  have echoes : Machine.Echoes n.library n.files
      { m with active := [], chain := [], outcomes := #[] }
      { n with context := m.context, sink := m.sink, active := [], chain := [], outcomes := #[] } :=
    ⟨heap, rfl, rfl, rfl, rfl, rfl, rfl⟩
  obtain ⟨k, again, echo, new, first, second⟩ :=
    replayed.replays done settled (Nat.le_refl _) echoes
  have outcomes : k.outcomes.toList = (n.outcomes.map SaveOutcome.again).toList := by
    rw [second, Array.toList_map, first]
    rfl
  exact ⟨k, again, echo.sink, Array.toList_inj.mp outcomes, echo.files, echo.library⟩

/-- A template that creates a file from another template for each name in a list. -/
def Template.copies : Template where
  name := "copies"
  nodes := [.forEach "x" ⟨.path "xs" [], []⟩ false
    [.creates ⟨.path "x" [], []⟩ ⟨.literal (.text "part"), []⟩ 1] []]
  blocks := ∅

/-- A machine that knows no template, with the file of the other template, which is one of the files
to be created. -/
def Machine.copying : Machine :=
  { Machine.start ∅ (Context.set ∅ "xs" (.ofList ⟨0⟩))
      ⟨#[#[.ofText "a", .ofText "part"]], #[]⟩ with
    files := ((FileTree.bare ⟨[]⟩).save ⟨"part"⟩ "text").1 }

/-- So it is where a template is read from a file which is created again later. -/
theorem Template.render_again_copies :
    ∃ n k, Template.copies.render ⟨.silent, default⟩ 20 .copying = .done () n ∧
      n.outcomes = #[.written ⟨"a"⟩, .unchanged ⟨"part"⟩] ∧
      Template.copies.render ⟨.silent, default⟩ 20
        { n with context := Machine.copying.context, sink := Machine.copying.sink } = .done () k ∧
      k.outcomes = #[.unchanged ⟨"a"⟩, .unchanged ⟨"part"⟩] ∧ k.files = n.files := by
  obtain ⟨_, n, done, outcomes, apart⟩ : ∃ v n, Template.copies.render ⟨.silent, default⟩ 20
      .copying = .done v n ∧ n.outcomes = #[.written ⟨"a"⟩, .unchanged ⟨"part"⟩] ∧
      (n.outcomes.toList.map SaveOutcome.path).Pairwise n.files.Apart :=
    Ending.Holds.exists_done (by decide +kernel)
  have hushed : Machine.copying.Hushed := Machine.Voiceless.hushed (by decide +kernel)
  have fine : ∀ path failure, .failed path failure ∉ n.outcomes.toList := by
    simp [outcomes]
  obtain ⟨k, again, -, told, files, -⟩ := Template.render_again hushed done fine apart
  refine ⟨n, k, done, outcomes, again, ?_, files⟩
  rw [told, outcomes]
  simp [SaveOutcome.again, SaveOutcome.path]

end TextTemplate

import TextTemplate.Proofs.Render.Guarded
/-!
# How a library grows

A render reads a template from its file when it is asked for by a name that is not known, and it
saves files; it does nothing else to the library and to the files. So what reading and saving keep
of both is so whenever a node is begun and wherever the render ends (`Template.always_kept`). In
particular a library has grown by what was read on the way, in the order of reading, and nothing in
it was replaced (`Library.Grows`). A load that fails ends the render where it failed.
-/
namespace TextTemplate

/-- The errors with which a template cannot be loaded. -/
def RenderError.isLoading : RenderError → Bool
  | .parse _ _ | .notFound _ _ | .file _ => true
  | _ => false

/-- A predicate on libraries and files that is kept by loading a template and by saving a file. -/
structure Library.Lasting (config : Config) (kept : Library → FileTree → Prop) : Prop where
  /-- Loading a template keeps it. -/
  load : ∀ {library after : Library} {files : FileTree} {name : String} {t : Template},
    kept library files → library.load config files name = .ok (t, after) → kept after files
  /-- Saving a file keeps it. -/
  save : ∀ {library : Library} {files : FileTree} (path : Path) (content : String),
    kept library files → kept library (files.save path content).1

/-- If the error is one of loading, a template cannot be loaded in this machine because of it. -/
def Machine.Explains (config : Config) (n : Machine) (error : RenderError) : Prop :=
  error.isLoading = true → ∃ name, n.library.load config n.files name = .error error

namespace Render

variable {α β : Type} {setting : Setting} {kept : Library → FileTree → Prop} {m : Machine}

/-- From every machine whose library and files are kept, both renders end alike, in a machine of
that kind, and an error of loading is one of that machine. -/
def Keeps (config : Config) (kept : Library → FileTree → Prop) (x y : Render α) : Prop :=
  ∀ m, kept m.library m.files → x m = y m ∧
    (y m).Holds (fun _ n => kept n.library n.files)
      (fun error n => kept n.library n.files ∧ n.Explains config error) True

section Laws

variable {config : Config}

/-- Whatever leaves the library and the files keeps them. -/
theorem keeps_of_done {x : Render α} (f : Machine → α) (g : Machine → Machine)
    (done : ∀ m, x m = .done (f m) (g m))
    (same : ∀ m, (g m).library = m.library ∧ (g m).files = m.files) : Keeps config kept x x := by
  intro m start
  refine ⟨rfl, ?_⟩
  rw [done]
  show kept (g m).library (g m).files
  rw [(same m).1, (same m).2]
  exact start

/-- Failing keeps the library and the files, if the error is none of loading. -/
theorem keeps_fail {error : RenderError} (other : error.isLoading = false) :
    Keeps config kept (fail error : Render α) (fail error) := by
  refine fun m start => ⟨rfl, start, fun loading => ?_⟩
  rw [other] at loading
  cases loading

/-- Reading the machine keeps the library and the files. -/
theorem keeps_reads (f : Machine → α) : Keeps config kept (reads f) (reads f) :=
  keeps_of_done f id (fun _ => rfl) fun _ => ⟨rfl, rfl⟩

/-- What is kept by both of two renders is kept by them in turn. -/
theorem Keeps.bind {x y : Render α} {f g : α → Render β} (first : Keeps config kept x y)
    (second : ∀ v, Keeps config kept (f v) (g v)) : Keeps config kept (x >>= f) (y >>= g) := by
  intro m start
  obtain ⟨same, ends⟩ := first m start
  rw [bind_apply, same, holds_bind]
  cases ended : y m with
  | outOfFuel => exact ⟨(bind_apply y g m).trans (by rw [ended]) |>.symm, trivial⟩
  | failed error n =>
    rw [ended] at ends
    exact ⟨(failed_bind ended).symm, ends⟩
  | done v n =>
    rw [ended] at ends
    obtain ⟨alike, later⟩ := second v n ends
    exact ⟨alike.trans (bind_of_done ended).symm, later⟩

/-- Where a state is entered and left, the library and the files stay. -/
theorem Keeps.around {x y : Render α} {enter leave : Machine → Machine}
    (inside : Keeps config kept x y)
    (enters : ∀ m, (enter m).library = m.library ∧ (enter m).files = m.files)
    (leaves : ∀ m, (leave m).library = m.library ∧ (leave m).files = m.files) :
    Keeps config kept (around enter leave x) (around enter leave y) := by
  intro m start
  have entered : kept (enter m).library (enter m).files := by
    rw [(enters m).1, (enters m).2]
    exact start
  obtain ⟨same, ends⟩ := inside (enter m) entered
  refine ⟨by rw [Render.around, Render.around, same], ?_⟩
  rw [holds_around]
  unfold Machine.Explains at ends ⊢
  simpa only [(leaves _).1, (leaves _).2] using ends

/-- What is kept inside is kept while it is detached. -/
theorem Keeps.detached {x y : Render Unit} (inside : Keeps config kept x y) :
    Keeps config kept (detached x) (detached y) :=
  (keeps_reads _).bind fun _ => inside.around (fun _ => ⟨rfl, rfl⟩) fun _ => ⟨rfl, rfl⟩

/-- What is kept inside is kept while it is captured. -/
theorem Keeps.captured {x y : Render Unit} (inside : Keeps config kept x y) :
    Keeps config kept (captured x) (captured y) :=
  (keeps_reads _).bind fun _ =>
    (inside.bind fun _ => keeps_reads _).around (fun _ => ⟨rfl, rfl⟩) fun _ => ⟨rfl, rfl⟩

/-- What is kept inside is kept in a scope of its own. -/
theorem Keeps.inScope {x y : Render Unit} (inside : Keeps config kept x y) :
    Keeps config kept (inScope x) (inScope y) := by
  intro m start
  obtain ⟨same, ends⟩ := inside { m with context := m.context.push } start
  unfold Render.inScope
  rw [same]
  refine ⟨rfl, ?_⟩
  cases ended : y { m with context := m.context.push } with
  | outOfFuel => trivial
  | done v n =>
    rw [ended] at ends
    dsimp only
    split
    · exact ends
    · exact ⟨ends, nofun⟩
  | failed error n =>
    rw [ended] at ends
    dsimp only
    split
    · exact ends
    · exact ⟨ends.1, nofun⟩

/-- Putting out a text keeps the library and the files. -/
theorem keeps_emit (text : String) : Keeps config kept (emit text) (emit text) := by
  refine fun m start => ⟨rfl, ?_⟩
  rw [holds_emit]
  split
  · exact start
  · exact ⟨start, nofun⟩

end Laws

section Lasting

variable (lasting : Library.Lasting setting.config kept)

include lasting

/-- Loading a template keeps what lasts. -/
theorem keeps_load (name : String) :
    Keeps setting.config kept (load setting name) (load setting name) := by
  refine fun m start => ⟨rfl, ?_⟩
  rw [holds_load]
  cases loaded : m.library.load setting.config m.files name with
  | ok result => exact lasting.load start loaded
  | error error => exact ⟨start, fun _ => ⟨name, loaded⟩⟩

/-- Creating a file keeps what lasts. -/
theorem keeps_create (owner : Template) (line : Nat) (file content : String) :
    Keeps setting.config kept (create owner line file content)
      (create owner line file content) := by
  refine fun m start => ⟨rfl, ?_⟩
  rw [create_eq]
  show kept m.library (stored owner line file (targetPath m.context file) content m.files).1
  unfold stored
  split
  · exact start
  · exact lasting.save _ _ start

/-- The trait of keeping the library and the files, whether the render is screened or not. -/
def keeping (config : Config) (kept : Library → FileTree → Prop) : Trait Bool where
  whole x := Keeps config kept (x true) (x false)
  inner x := Keeps config kept (x true) (x false)
  entered _ x := Keeps config kept (x true) (x false)

/-- Every operation of a step keeps what lasts. -/
theorem compatible_keeping : (keeping setting.config kept).Compatible fun _ => setting where
  pure v := keeps_reads fun _ => v
  bind := Keeps.bind
  emit := keeps_emit
  evaluate expr := keeps_of_done _ _ (fun _ => rfl) fun _ => ⟨rfl, rfl⟩
  shown v := (keeps_reads _).bind keeps_emit
  heap f := keeps_reads _
  blockBody owner name body := keeps_reads _
  inherits owner name x inside := (keeps_load lasting name).bind fun t =>
    (inside t).around (fun _ => ⟨rfl, rfl⟩) fun _ => ⟨rfl, rfl⟩
  includes name x inside := (keeps_load lasting name).bind fun t => (inside t).detached
  captures name x inside := (keeps_load lasting name).bind fun t => (inside t).detached.captured
  create := keeps_create lasting
  template t x inside := by
    refine (keeps_reads _).bind fun active => ?_
    split
    · exact keeps_fail rfl
    · split
      · exact keeps_fail rfl
      · exact inside.around (fun _ => ⟨rfl, rfl⟩) fun _ => ⟨rfl, rfl⟩
  inScope := Keeps.inScope
  inner := id
  innerBind := Keeps.bind
  bindName name v := keeps_of_done (fun _ => ()) _ (fun _ => rfl) fun _ => ⟨rfl, rfl⟩
  bindLoop list index := by
    unfold keeping bindLoop
    split
    · exact (keeps_reads _).bind fun count =>
        keeps_of_done (fun _ => ()) _ (fun _ => rfl) fun _ => ⟨rfl, rfl⟩
    · exact keeps_reads _

variable {P : Node → Machine → Prop} [∀ node, DecidablePred (P node)]
  (holds : ∀ node k, kept k.library k.files → P node k)

include holds

/-- Nothing is screened off by what is so in every machine that is kept. -/
theorem keeps_screenedRun (fuel : Nat) (task : Task) :
    Keeps setting.config kept (screenedRun setting P fuel task) (run setting fuel task) := by
  induction fuel generalizing task with
  | zero => exact fun m start => ⟨rfl, trivial⟩
  | succ fuel ih =>
    have meets : ∀ task, (keeping setting.config kept).Meets task fun i =>
        (bif i then screenedRun setting P fuel else run setting fuel) task := by
      intro task
      cases task <;> exact ih _
    cases task with
    | template t => exact (compatible_keeping lasting).step meets (.template t)
    | iterate owner var reversed body list cursor index =>
      exact (compatible_keeping lasting).step meets
        (.iterate owner var reversed body list cursor index)
    | nodes owner ns =>
      show Keeps _ _ (screenedNodes setting P (screenedRun setting P fuel) owner ns)
        (nodes setting (run setting fuel) owner ns)
      induction ns with
      | nil => exact keeps_reads fun _ => ()
      | cons first rest later =>
        have here : Keeps setting.config kept
            (node setting (screenedRun setting P fuel) owner first)
            (node setting (run setting fuel) owner first) :=
          (compatible_keeping lasting).node meets owner first
        refine Keeps.bind (fun m start => ?_) fun _ => ?_
        · rw [guarded, if_pos (holds first m start)]
          exact here m start
        · split
          · exact keeps_reads fun _ => ()
          · exact later

end Lasting

end Render

/-- What loading and saving keep of the library and the files is so in every machine in which a
render begins a node and in the one in which it ends; if a load ended it, that load fails there. -/
theorem Template.always_kept {setting : Setting} {kept : Library → FileTree → Prop}
    (lasting : Library.Lasting setting.config kept) (fuel : Nat) (t : Template) {m : Machine}
    (start : kept m.library m.files) :
    t.Always (fun _ k => kept k.library k.files) setting fuel m ∧
      (t.render setting fuel m).Holds (fun _ n => kept n.library n.files)
        (fun error n => kept n.library n.files ∧ n.Explains setting.config error) True := by
  classical
  exact Render.keeps_screenedRun lasting (fun _ _ => id) fuel (.template t)
    { m with active := [], chain := [], outcomes := #[] } start

namespace Library

/-- From the one library and files to the others, templates were read from their files that were not
known then, and files were saved; the templates read, first to last. -/
inductive Grows (config : Config) (library : Library) (files : FileTree) :
    List (String × Template) → Library → FileTree → Prop
  | start : Grows config library files [] library files
  | read {reads after place key t} (earlier : Grows config library files reads after place)
    (unknown : after.get? key = none) (fetched : fetch config place key = .ok t) :
    Grows config library files (reads ++ [(key, t)]) (after.insert key t) place
  | saved {reads after place} (earlier : Grows config library files reads after place) (path : Path)
    (content : String) : Grows config library files reads after (place.save path content).1

variable {config : Config} {library after : Library} {files place : FileTree}
  {reads : List (String × Template)}

/-- What was read stands after what was known, and that stays as it is. -/
theorem Grows.entries (grows : Grows config library files reads after place) :
    after.entries = library.entries ++ reads := by
  induction grows with
  | start => simp
  | read earlier unknown fetched ih =>
    rw [Table.entries_insert_of_get?_eq_none _ unknown, ih, List.append_assoc]
  | saved earlier path content ih => exact ih

/-- A library that has grown grows on when a template is loaded. -/
theorem Grows.load (grows : Grows config library files reads after place) {name : String}
    {t : Template} {later : Library} (loaded : after.load config place name = .ok (t, later)) :
    ∃ reads', Grows config library files reads' later place := by
  rw [load_eq] at loaded
  split at loaded
  · cases loaded
    exact ⟨reads, grows⟩
  · rename_i unknown
    split at loaded
    · cases loaded
    · rename_i fetched
      cases loaded
      exact ⟨_, grows.read unknown fetched⟩

/-- Having grown is kept by a render. -/
theorem lasting_grows (config : Config) (library : Library) (files : FileTree) :
    Lasting config fun after place => ∃ reads, Grows config library files reads after place where
  load := fun ⟨_, grows⟩ loaded => grows.load loaded
  save := fun path content ⟨reads, grows⟩ => ⟨reads, grows.saved path content⟩

end Library

end TextTemplate

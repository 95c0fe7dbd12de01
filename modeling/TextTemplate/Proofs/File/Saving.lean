import TextTemplate.Proofs.File.Way
import TextTemplate.Proofs.Template.Reading
/-!
# What saving touches

A path finds its file in a slot, a name in a directory, and slots outlast everything that saving
does since no directory ever goes. `Saving` lists the ways in which saving a text can go, and
`Touch` what that means for any one place. Main statement: saving a text touches its own file and
the one beside it, and else only adds directories on the way (`FileTree.save_touches`); a file that
stood beside it is lost (`FileTree.save_littered`).

A tree holds no links. Through one at the path or beside it a text would be written to the file to
which it leads.
-/
namespace TextTemplate

/-- The bytes of a file. -/
def Entry.bytes? : Entry → Option ByteArray
  | .directory => none
  | .file bytes => some bytes

namespace FileTree

open Source.Builder (ok_of_bind)

variable {tree after : FileTree} {p : Path} {place next dir : Place} {name : String}

/-! ### Entries -/

/-- A place is a directory if a directory is the entry there. -/
theorem isDirectoryAt_iff : tree.isDirectoryAt place = true ↔ tree.entry? place = some .directory :=
  beq_iff_eq

/-- What was put at a place stands there, and all else stands as before. -/
theorem entry?_insert (away : place ≠ .root) (entry : Entry) (other : Place) :
    FileTree.entry? (tree.insert place entry) other =
      if other = place then some entry else tree.entry? other := by
  unfold entry? insert
  by_cases root : other = .root
  · simp [root, Ne.symm away]
  · simp [root, eq_comm]

/-- What was taken from a place is gone, and all else stands as before. -/
theorem entry?_erase (away : place ≠ .root) (other : Place) :
    FileTree.entry? (tree.erase place) other =
      if other = place then none else tree.entry? other := by
  unfold entry? erase
  by_cases root : other = .root
  · simp [root, Ne.symm away]
  · simp [root, eq_comm]

/-- The directories of a tree, its working directory among them, are those of another one too. -/
structure Keeps (tree after : FileTree) : Prop where
  /-- The working directory is the same. -/
  home : after.home = tree.home
  /-- Every directory is still there. -/
  directory : ∀ place, tree.entry? place = some .directory → after.entry? place = some .directory

/-- A tree keeps its own directories. -/
theorem Keeps.refl (tree : FileTree) : tree.Keeps tree := ⟨rfl, fun _ => id⟩

/-- What keeps all directories twice keeps them. -/
theorem Keeps.trans {later : FileTree} (first : tree.Keeps after) (second : after.Keeps later) :
    tree.Keeps later :=
  ⟨second.home.trans first.home,
    fun place stands => second.directory place (first.directory place stands)⟩

/-- An entry that is put where no directory stands takes none away. -/
theorem keeps_insert (away : place ≠ .root) (free : tree.entry? place ≠ some .directory)
    (entry : Entry) : tree.Keeps (tree.insert place entry) where
  home := rfl
  directory other stands := by
    have apart : other ≠ place := by
      rintro rfl
      exact free stands
    rw [entry?_insert away, if_neg apart]
    exact stands

/-- A file that is put somewhere adds no directory. -/
theorem keeps_of_insert (away : place ≠ .root) (bytes : ByteArray) :
    (tree.insert place (.file bytes)).Keeps tree where
  home := rfl
  directory other stands := by
    rw [entry?_insert away] at stands
    split at stands
    · cases stands
    · exact stands

/-- A path starts from the same place. -/
theorem origin_of_keeps (keeps : tree.Keeps after) : after.origin p = tree.origin p := by
  rw [origin, origin, keeps.home]

/-- A path means the same place. -/
theorem placeOf_of_keeps (keeps : tree.Keeps after) : after.placeOf p = tree.placeOf p := by
  rw [placeOf, placeOf, origin_of_keeps keeps]

/-! ### Following names -/

/-- What can be followed leads where it says. -/
theorem step_ok (stepped : tree.step place name = .ok next) :
    tree.entry? place = some .directory ∧ next = place.enter name := by
  unfold step at stepped
  split at stepped
  · rename_i stands
    refine ⟨isDirectoryAt_iff.mp stands, ?_⟩
    unfold Place.enter
    grind
  · cases stepped

/-- A name is followed as before if something stands where it leads. -/
theorem step_of_keeps (keeps : tree.Keeps after) (stepped : tree.step place name = .ok next)
    (there : (tree.entry? next).isSome → (after.entry? next).isSome) :
    after.step place name = .ok next := by
  have stands := isDirectoryAt_iff.mpr (keeps.directory place (step_ok stepped).1)
  unfold step at stepped ⊢
  rw [if_pos stands]
  grind

/-- Names are followed one after the other. -/
theorem walk_cons {names : List String} :
    tree.walk place (name :: names) = .ok next ↔
      ∃ first, tree.step place name = .ok first ∧ tree.walk first names = .ok next := by
  show (tree.step place name).bind (fun first => tree.walk first names) = .ok next ↔ _
  cases tree.step place name <;> simp [Except.bind]

/-- Names that can be followed lead along themselves. -/
theorem walk_ok {names : List String} (walked : tree.walk place names = .ok next) :
    next = place.along names := by
  induction names generalizing place with
  | nil => exact (Except.ok.inj walked).symm
  | cons name rest ih =>
    obtain ⟨first, stepped, later⟩ := walk_cons.mp walked
    rw [ih later, (step_ok stepped).2]
    rfl

/-- Names that can be followed can be followed in a tree that keeps the directories, if what they
lead to is there. -/
theorem walk_of_keeps (keeps : tree.Keeps after) {names : List String}
    (walked : tree.walk place names = .ok next)
    (there : (tree.entry? next).isSome → (after.entry? next).isSome) :
    after.walk place names = .ok next := by
  induction names generalizing place with
  | nil => exact walked
  | cons name rest ih =>
    obtain ⟨first, stepped, later⟩ := walk_cons.mp walked
    refine walk_cons.mpr ⟨first, step_of_keeps keeps stepped fun stands => ?_, ih later⟩
    cases rest with
    | nil =>
      cases later
      exact there stands
    | cons second rest =>
      -- a place from which one goes on is a directory
      obtain ⟨_, further, -⟩ := walk_cons.mp later
      rw [keeps.directory first (step_ok further).1]
      rfl

/-! ### Slots -/

/-- The name under which a path finds a file or would put one, and the directory that it is in. -/
structure Slot (tree : FileTree) (p : Path) (dir : Place) (name : String) : Prop where
  /-- The path is fit for operations. -/
  fit : check p = .ok ()
  /-- The last name of the path is a name in the directory. -/
  target : tree.target p = .ok ⟨dir, some name⟩
  /-- The name is not too long. -/
  short : ¬ maxName < name.utf8ByteSize

/-- The directory of a target is reached, and the last name is no dots. -/
theorem target_ok (found : tree.target p = .ok ⟨dir, some name⟩) :
    tree.walk (tree.origin p) p.names.dropLast = .ok dir ∧ tree.entry? dir = some .directory ∧
      (name ≠ "." ∧ name ≠ "..") ∧ p.names = p.names.dropLast ++ [name] := by
  unfold target at found
  cases walked : tree.walk (tree.origin p) p.names.dropLast with
  | error cause => simp [walked, bind, Except.bind] at found
  | ok parent =>
    simp only [walked, bind, Except.bind] at found
    split at found
    · rename_i stands
      simp only [pure, Except.pure, Except.ok.injEq, Target.mk.injEq] at found
      obtain ⟨rfl, last⟩ := found
      obtain ⟨last, proper⟩ := Option.filter_eq_some_iff.mp last
      refine ⟨rfl, isDirectoryAt_iff.mp stands, by simpa using proper, ?_⟩
      obtain ⟨front, names⟩ := List.getLast?_eq_some_iff.mp last
      rw [names, List.dropLast_concat]
    · cases found

/-- The slot of a path is the place that it leads to. -/
theorem Slot.placeOf_eq (slot : tree.Slot p dir name) : tree.placeOf p = dir.child name := by
  obtain ⟨walked, -, proper, names⟩ := target_ok slot.target
  rw [placeOf, names, Place.along_append, ← walk_ok walked]
  exact Place.enter_of_proper proper dir

/-- A slot is one still in a tree that keeps the directories. -/
theorem Slot.of_keeps (slot : tree.Slot p dir name) (keeps : tree.Keeps after) :
    after.Slot p dir name := by
  refine ⟨slot.fit, ?_, slot.short⟩
  obtain ⟨walked, stands, proper, names⟩ := target_ok slot.target
  have kept := keeps.directory dir stands
  have again : after.walk (after.origin p) p.names.dropLast = .ok dir := by
    rw [origin_of_keeps keeps]
    exact walk_of_keeps keeps walked fun _ => by rw [kept]; rfl
  unfold FileTree.target
  simp only [again, bind, Except.bind, isDirectoryAt_iff.mpr kept, if_true]
  rw [names]
  simp [proper, pure, Except.pure]

/-! ### Operations -/

/-- What is found under a name in a directory stands there. -/
theorem child?_ok {found : Option Entry} (looked : tree.child? dir name = .ok found) :
    ¬ maxName < name.utf8ByteSize ∧ found = tree.entry? (dir.child name) := by
  unfold child? at looked
  split at looked
  · cases looked
  · exact ⟨‹_›, (Except.ok.inj looked).symm⟩

/-- A directory is made where nothing stands. -/
theorem makeDirectory_ok (made : tree.makeDirectory p = .ok after) :
    ∃ dir name, tree.Slot p dir name ∧ tree.entry? (dir.child name) = none ∧
      after = tree.insert (dir.child name) .directory := by
  obtain ⟨_, fit, made⟩ := ok_of_bind made
  obtain ⟨⟨dir, last⟩, found, made⟩ := ok_of_bind made
  cases last with
  | none => cases made
  | some name =>
    obtain ⟨entry, looked, made⟩ := ok_of_bind made
    obtain ⟨short, rfl⟩ := child?_ok looked
    refine ⟨dir, name, ⟨fit, found, short⟩, ?_⟩
    split at made
    · cases made
    · exact ⟨‹_›, (Except.ok.inj made).symm⟩

/-- A file is written where no directory stands. -/
theorem write_ok {bytes : ByteArray} (written : tree.write p bytes = .ok after) :
    ∃ dir name, tree.Slot p dir name ∧ p.endsWithSlash = false ∧
      tree.entry? (dir.child name) ≠ some .directory ∧
      after = tree.insert (dir.child name) (.file bytes) := by
  obtain ⟨_, fit, written⟩ := ok_of_bind written
  obtain ⟨⟨dir, last⟩, found, written⟩ := ok_of_bind written
  cases last with
  | none => cases written
  | some name =>
    dsimp only at written
    split at written
    · cases written
    · rename_i open_
      obtain ⟨entry, looked, written⟩ := ok_of_bind written
      obtain ⟨short, rfl⟩ := child?_ok looked
      refine ⟨dir, name, ⟨fit, found, short⟩, by simpa using open_, ?_⟩
      split at written
      · cases written
      · rename_i free
        exact ⟨free, (Except.ok.inj written).symm⟩

/-- A file is moved to where no directory stands. -/
theorem moveFile_ok {source dest : Path} (moved : tree.moveFile source dest = .ok after) :
    ∃ dir name dir' name' bytes, tree.Slot source dir name ∧ tree.Slot dest dir' name' ∧
      dest.endsWithSlash = false ∧ tree.entry? (dir.child name) = some (.file bytes) ∧
      tree.entry? (dir'.child name') ≠ some .directory ∧
      after = (tree.erase (dir.child name)).insert (dir'.child name') (.file bytes) := by
  obtain ⟨_, fit, moved⟩ := ok_of_bind moved
  obtain ⟨_, fit', moved⟩ := ok_of_bind moved
  obtain ⟨⟨dir, last⟩, found, moved⟩ := ok_of_bind moved
  obtain ⟨⟨dir', last'⟩, found', moved⟩ := ok_of_bind moved
  dsimp only at moved
  split at moved
  · rename_i name name' whole
    obtain ⟨entry, looked, moved⟩ := ok_of_bind moved
    obtain ⟨short, rfl⟩ := child?_ok looked
    split at moved
    · cases moved
    · cases moved
    · rename_i bytes stands
      obtain ⟨old, looked', moved⟩ := ok_of_bind moved
      obtain ⟨short', rfl⟩ := child?_ok looked'
      split at moved
      · cases moved
      · rename_i open_
        split at moved
        · cases moved
        · rename_i free
          simp only [Bool.or_eq_true, not_or, Bool.not_eq_true] at open_
          exact ⟨dir, name, dir', name', bytes, ⟨fit, found, short⟩, ⟨fit', found', short'⟩,
            open_.2, stands, free, (Except.ok.inj moved).symm⟩
  · cases moved

/-- A file that stands in the slot of a path can be removed. -/
theorem removeFile_of_slot (slot : tree.Slot p dir name) (open_ : p.endsWithSlash = false)
    {bytes : ByteArray} (stands : tree.entry? (dir.child name) = some (.file bytes)) :
    tree.removeFile p = .ok (tree.erase (dir.child name)) := by
  unfold removeFile
  simp only [slot.fit, slot.target, child?, slot.short, stands, open_, bind, Except.bind, if_false,
    pure, Except.pure]
  rfl

/-- What stands in the slot of a path is found under the path. -/
theorem locate_of_slot (slot : tree.Slot p dir name) (open_ : p.endsWithSlash = false)
    (stands : (tree.entry? (dir.child name)).isSome) : tree.locate p = .ok (dir.child name) := by
  obtain ⟨walked, inside, proper, names⟩ := target_ok slot.target
  have last : tree.step dir name = .ok (dir.child name) := by
    simp [step, isDirectoryAt_iff.mpr inside, proper, slot.short, stands]
  have whole : tree.walk (tree.origin p) p.names = .ok (dir.child name) := by
    rw [names, walk, List.foldlM_append]
    show (tree.walk (tree.origin p) p.names.dropLast >>= fun next => tree.walk next [name]) = _
    rw [walked]
    exact walk_cons.mpr ⟨_, last, rfl⟩
  unfold locate
  simp only [slot.fit, whole, open_, bind, Except.bind, Bool.false_and, pure, Except.pure]
  rfl

/-- The bytes of a text read as the text. -/
theorem fromUTF8?_toUTF8 (text : String) : String.fromUTF8? text.toUTF8 = some text := by
  unfold String.fromUTF8?
  split
  · rfl
  · rename_i invalid
    exact absurd text.isValidUTF8 invalid

/-- A file that stands in the slot of a path can be read. -/
theorem readText_of_slot (slot : tree.Slot p dir name) (open_ : p.endsWithSlash = false)
    {text : String} (stands : tree.entry? (dir.child name) = some (.file text.toUTF8)) :
    tree.readText p = .ok text := by
  have located := locate_of_slot slot open_ (by rw [stands]; rfl)
  unfold readText read stat
  simp only [located, stands, bind, Except.bind, pure, Except.pure, fromUTF8?_toUTF8]

/-- A path that was located is fit, and its names lead to its place. -/
theorem locate_ok (located : tree.locate p = .ok place) :
    check p = .ok () ∧ tree.walk (tree.origin p) p.names = .ok place ∧
      (p.endsWithSlash = true → tree.entry? place = some .directory) := by
  obtain ⟨_, fit, located⟩ := ok_of_bind located
  obtain ⟨there, walked, located⟩ := ok_of_bind located
  split at located
  · cases located
  · rename_i fine
    cases located
    refine ⟨fit, walked, fun slash => isDirectoryAt_iff.mp ?_⟩
    simpa [slash] using fine

/-- A text that was read is that of a file at the path. -/
theorem readText_ok {text : String} (found : tree.readText p = .ok text) :
    ∃ place bytes, tree.locate p = .ok place ∧ tree.entry? place = some (.file bytes) ∧
      String.fromUTF8? bytes = some text := by
  obtain ⟨bytes, read, found⟩ := ok_of_bind found
  obtain ⟨entry, stat, read⟩ := ok_of_bind read
  obtain ⟨place, located, stat⟩ := ok_of_bind stat
  split at stat
  · rename_i stands
    cases stat
    split at read
    · cases read
      split at found
      · rename_i reads
        cases found
        exact ⟨place, bytes, located, stands, reads⟩
      · cases found
    · cases read
  · cases stat

/-- What is found under a path is found there in a tree that keeps it and the directories. -/
theorem locate_of_keeps (keeps : tree.Keeps after) (located : tree.locate p = .ok place)
    (there : (after.entry? place).isSome) : after.locate p = .ok place := by
  obtain ⟨fit, walked, slash⟩ := locate_ok located
  have again : after.walk (after.origin p) p.names = .ok place := by
    rw [origin_of_keeps keeps]
    exact walk_of_keeps keeps walked fun _ => there
  unfold locate
  simp only [fit, again, bind, Except.bind]
  cases ends : p.endsWithSlash with
  | false => rfl
  | true => simp [isDirectoryAt_iff.mpr (keeps.directory place (slash ends)), pure, Except.pure]

/-! ### Directories around a file -/

/-- What making directories at such places leaves of another tree. -/
structure Opens (at_ : Place → Prop) (tree after : FileTree) : Prop where
  /-- The working directory is the same. -/
  home : after.home = tree.home
  /-- Every entry is as it was, or it is a new directory at one of the places. -/
  entry : ∀ place, after.entry? place = tree.entry? place ∨
    at_ place ∧ tree.entry? place = none ∧ after.entry? place = some .directory

section Opens

variable {at_ : Place → Prop}

/-- Nothing need be opened. -/
theorem Opens.refl (at_ : Place → Prop) (tree : FileTree) : Opens at_ tree tree :=
  ⟨rfl, fun _ => .inl rfl⟩

/-- Directories are opened in turn. -/
theorem Opens.trans {later : FileTree} (first : Opens at_ tree after)
    (second : Opens at_ after later) : Opens at_ tree later where
  home := second.home.trans first.home
  entry place := by
    rcases second.entry place with same | ⟨here, free, opened⟩
    · rw [same]
      exact first.entry place
    · rcases first.entry place with same | ⟨-, -, opened'⟩
      · exact .inr ⟨here, same ▸ free, opened⟩
      · rw [opened'] at free
        cases free

/-- What only opens directories keeps those that are there. -/
theorem Opens.keeps (opens : Opens at_ tree after) : tree.Keeps after where
  home := opens.home
  directory place stands := by
    rcases opens.entry place with same | ⟨-, free, -⟩
    · exact same.trans stands
    · rw [free] at stands
      cases stands

/-- Making a directory opens its place. -/
theorem opens_makeDirectory (made : tree.makeDirectory p = .ok after)
    (here : at_ (tree.placeOf p)) : Opens at_ tree after := by
  obtain ⟨dir, name, slot, free, rfl⟩ := makeDirectory_ok made
  refine ⟨rfl, fun place => ?_⟩
  rw [slot.placeOf_eq] at here
  rw [entry?_insert (Place.child_ne_root _ _)]
  by_cases same : place = dir.child name
  · subst same
    exact .inr ⟨here, free, if_pos rfl⟩
  · exact .inl (if_neg same)

/-- The first directories made are among the given ones, as are those still missing. -/
theorem opens_makeOutermost {missing outer missing' : List Path}
    (made : tree.makeOutermost missing outer = .ok (after, missing'))
    (here : ∀ p ∈ outer, at_ (tree.placeOf p)) (there : ∀ p ∈ missing, at_ (tree.placeOf p)) :
    Opens at_ tree after ∧ ∀ p ∈ missing', at_ (tree.placeOf p) := by
  induction outer generalizing missing with
  | nil =>
    cases made
    exact ⟨.refl at_ tree, there⟩
  | cons p rest ih =>
    have first := here p List.mem_cons_self
    have others := fun q member => here q (List.mem_cons_of_mem p member)
    unfold makeOutermost at made
    split at made
    · cases made
      exact ⟨opens_makeDirectory ‹_› first, there⟩
    · exact ih made others (List.forall_mem_cons.mpr ⟨first, there⟩)
    · split at made
      · cases made
        exact ⟨.refl at_ tree, there⟩
      · cases made
    · cases made

/-- Making directories in order opens their places. -/
theorem opens_makeInOrder {missing : List Path} (there : ∀ p ∈ missing, at_ (tree.placeOf p)) :
    Opens at_ tree (tree.makeInOrder missing).1 := by
  induction missing generalizing tree with
  | nil => exact .refl at_ tree
  | cons p rest ih =>
    have first := there p List.mem_cons_self
    have others := fun q member => there q (List.mem_cons_of_mem p member)
    unfold makeInOrder
    split
    · rename_i made done
      have opens := opens_makeDirectory done first
      refine opens.trans (ih fun q member => ?_)
      rw [placeOf_of_keeps opens.keeps]
      exact others q member
    · split
      · exact ih others
      · exact .refl at_ tree

/-- Making a directory opens places on the way to it. -/
theorem opens_makeDirectories (here : ∀ outer ∈ p.ancestors, at_ (tree.placeOf outer)) :
    Opens at_ tree (tree.makeDirectories p).1 := by
  unfold makeDirectories
  split
  · rename_i made missing done
    obtain ⟨opens, there⟩ := opens_makeOutermost done here (by simp)
    refine opens.trans (opens_makeInOrder fun q member => ?_)
    rw [placeOf_of_keeps opens.keeps]
    exact there q member
  · exact .refl at_ tree

/-- What is made for a path are directories on its way. -/
theorem opens_makeEnclosing (tree : FileTree) (p : Path) :
    Opens (tree.OnWay p) tree (tree.makeEnclosing p).1 := by
  unfold makeEnclosing
  split
  · exact .refl _ tree
  · exact opens_makeDirectories fun outer member => onWay_of_enclosing ‹_› member

end Opens

/-! ### Replacing a file -/

/-- The ways in which replacing a file can go: nothing can be written beside it; what was written
there cannot be moved and is removed again; or all is done. -/
inductive Replacing (tree : FileTree) (p : Path) (text : String) :
    FileTree × Option FileFailure → Prop
  | refused (failure : FileFailure) : Replacing tree p text (tree, some failure)
  | cleared {dir : Place} {name : String} (beside : tree.Slot (scratchPath p) dir name)
    (free : tree.entry? (dir.child name) ≠ some .directory) (failure : FileFailure) :
    Replacing tree p text ((tree.insert (dir.child name) (.file text.toUTF8)).erase
      (dir.child name), some failure)
  | moved {dir dir' : Place} {name name' : String}
    (beside : tree.Slot (scratchPath p) dir name)
    (free : tree.entry? (dir.child name) ≠ some .directory) (here : tree.Slot p dir' name')
    (open_ : p.endsWithSlash = false) (free' : tree.entry? (dir'.child name') ≠ some .directory) :
    Replacing tree p text (((tree.insert (dir.child name) (.file text.toUTF8)).erase
      (dir.child name)).insert (dir'.child name') (.file text.toUTF8), none)

/-- Every attempt to replace a file goes one of these ways. -/
theorem replacing (tree : FileTree) (p : Path) (text : String) :
    Replacing tree p text (tree.replaceText p text) := by
  unfold replaceText
  split
  · exact .refused _
  · rename_i written done
    obtain ⟨dir, name, beside, open_, free, rfl⟩ := write_ok done
    have keeps := keeps_insert (Place.child_ne_root _ _) free (.file text.toUTF8)
    have stands : FileTree.entry? (tree.insert (dir.child name) (.file text.toUTF8))
        (dir.child name) = some (.file text.toUTF8) := by
      rw [entry?_insert (Place.child_ne_root _ _), if_pos rfl]
    split
    · rename_i moved done
      obtain ⟨_, _, dir', name', bytes, from_, here, open', found, free', rfl⟩ := moveFile_ok done
      have same := (beside.of_keeps keeps).target.symm.trans from_.target
      cases same
      cases stands.symm.trans found
      have back : (tree.insert (dir.child name) (.file text.toUTF8)).Keeps tree :=
        keeps_of_insert (Place.child_ne_root _ _) _
      exact .moved beside free (here.of_keeps back) open'
        fun stands => free' (keeps.directory _ stands)
    · rw [removeFile_of_slot (beside.of_keeps keeps) open_ stands]
      exact .cleared beside free _

/-- What saving a text can do at a place, told by what stands there before and after. -/
inductive Touch (tree : FileTree) (p : Path) (text : String) (outcome : SaveOutcome)
    (place : Place) : Option Entry → Option Entry → Prop
  | kept (entry : Option Entry) : Touch tree p text outcome place entry entry
  | opened (way : tree.OnWay p place) :
    Touch tree p text outcome place none (some .directory)
  | cleared (beside : place = tree.placeOf (scratchPath p)) (bytes : ByteArray) :
    Touch tree p text outcome place (some (.file bytes)) none
  | written (here : place = tree.placeOf p) (done : outcome = .written p) {old : Option Entry}
    (free : old ≠ some .directory) :
    Touch tree p text outcome place old (some (.file text.toUTF8))

section Touch

variable {text : String} {outcome : SaveOutcome} {old entry : Option Entry}

/-- A directory stays. -/
theorem Touch.directory
    (touch : Touch tree p text outcome place (some .directory) entry) :
    entry = some .directory := by
  cases touch with
  | kept => rfl
  | written here done free => exact absurd rfl free

/-- Elsewhere than where the text is and was written, a file keeps its bytes. -/
theorem Touch.bytes? (touch : Touch tree p text outcome place old entry)
    (undone : place = tree.placeOf p → outcome ≠ .written p)
    (apart : place ≠ tree.placeOf (scratchPath p)) :
    entry.bind Entry.bytes? = old.bind Entry.bytes? := by
  cases touch with
  | kept => rfl
  | opened way => rfl
  | cleared beside bytes => exact absurd beside apart
  | written here done free => exact absurd done (undone here)

end Touch

section Replacing

variable {text : String} {result : FileTree × Option FileFailure}

/-- What was put beside a file and removed again leaves nothing there. -/
theorem entry?_erase_insert (away : place ≠ .root) (entry : Entry) (other : Place) :
    FileTree.entry? ((tree.insert place entry).erase place) other =
      if other = place then none else tree.entry? other := by
  rw [entry?_erase away, entry?_insert away]
  split <;> rfl

/-- The working directory is the same. -/
theorem Replacing.home (replacing : Replacing tree p text result) :
    result.1.home = tree.home := by
  cases replacing <;> rfl

/-- Nothing is left of what is put beside a file, and of a file that stood there. -/
theorem touch_cleared (outcome : SaveOutcome) (beside : tree.Slot (scratchPath p) dir name)
    (free : tree.entry? (dir.child name) ≠ some .directory) (entry : Entry) (place : Place) :
    Touch tree p text outcome place (tree.entry? place)
      (FileTree.entry? ((tree.insert (dir.child name) entry).erase (dir.child name)) place) := by
  rw [entry?_erase_insert (Place.child_ne_root _ _)]
  split
  · rename_i here
    subst here
    cases stands : tree.entry? (dir.child name) with
    | none => exact .kept none
    | some entry =>
      cases entry with
      | directory => exact absurd stands free
      | file bytes => exact .cleared beside.placeOf_eq.symm bytes
  · exact .kept _

/-- What replacing a file does at a place. -/
theorem Replacing.touch (replacing : Replacing tree p text result) (outcome : SaveOutcome)
    (told : result.2 = none → outcome = .written p) (place : Place) :
    Touch tree p text outcome place (tree.entry? place) (FileTree.entry? result.1 place) := by
  cases replacing with
  | refused failure => exact .kept _
  | cleared beside free failure => exact touch_cleared outcome beside free _ place
  | moved beside free here open_ free' =>
    rw [entry?_insert (Place.child_ne_root _ _)]
    split
    · rename_i there
      subst there
      exact .written here.placeOf_eq.symm (told rfl) free'
    · exact touch_cleared outcome beside free _ place

/-- Replacing a file keeps all directories. -/
theorem Replacing.keeps (replacing : Replacing tree p text result) : tree.Keeps result.1 where
  home := replacing.home
  directory place stands :=
    (stands ▸ replacing.touch (.written p) (fun _ => rfl) place).directory

/-- The text of a file that was replaced is found under its path. -/
theorem Replacing.readText (replacing : Replacing tree p text result) (done : result.2 = none) :
    result.1.readText p = .ok text := by
  have keeps := replacing.keeps
  cases replacing with
  | refused failure => cases done
  | cleared beside free failure => cases done
  | moved beside free here open_ free' =>
    refine readText_of_slot (here.of_keeps keeps) open_ ?_
    rw [entry?_insert (Place.child_ne_root _ _), if_pos rfl]

end Replacing

/-! ### Saving a text -/

section Saving

variable {text : String} {outcome : SaveOutcome} {old entry : Option Entry}

/-- What is done after directories were made on the way is done to the tree before. -/
theorem Touch.of_opens {made : FileTree} (opens : Opens (tree.OnWay p) tree made)
    (touch : Touch made p text outcome place (made.entry? place) entry) :
    Touch tree p text outcome place (tree.entry? place) entry := by
  have origin : made.origin p = tree.origin p := origin_of_keeps opens.keeps
  rcases opens.entry place with same | ⟨way, free, opened⟩
  · rw [← same]
    generalize made.entry? place = old at touch ⊢
    cases touch with
    | kept => exact .kept _
    | opened way => exact .opened (by rwa [OnWay, origin] at way)
    | cleared beside bytes => exact .cleared (beside.trans (placeOf_of_keeps opens.keeps)) bytes
    | written here done free =>
      exact .written (here.trans (placeOf_of_keeps opens.keeps)) done free
  · rw [opened] at touch
    rw [free, touch.directory]
    exact .opened way

/-- The ways in which saving a text can go. -/
inductive Saving (tree : FileTree) (p : Path) (text : String) : FileTree × SaveOutcome → Prop
  | unchanged (same : tree.readText p = .ok text) : Saving tree p text (tree, .unchanged p)
  | unopened {made : FileTree} (opens : Opens (tree.OnWay p) tree made) (failure : FileFailure) :
    Saving tree p text (made, .failed p (.file failure))
  | unmoved {made after : FileTree} (opens : Opens (tree.OnWay p) tree made) (failure : FileFailure)
    (replacing : Replacing made p text (after, some failure)) :
    Saving tree p text (after, .failed p (.file failure))
  | written {made after : FileTree} (opens : Opens (tree.OnWay p) tree made)
    (replacing : Replacing made p text (after, none)) : Saving tree p text (after, .written p)

/-- Every attempt to save a text goes one of these ways. -/
theorem saving (tree : FileTree) (p : Path) (text : String) :
    Saving tree p text (tree.save p text) := by
  have opens := tree.opens_makeEnclosing p
  unfold save
  split
  · rename_i same
    cases found : tree.readText p with
    | error cause => simp [found, Except.toOption] at same
    | ok content =>
      rw [found] at same
      cases same
      exact .unchanged found
  · split
    · rename_i failed
      rw [failed] at opens
      exact .unopened opens _
    · rename_i made done
      rw [done] at opens
      have way := replacing made p text
      split
      · rename_i failed
        exact .unmoved opens _ (failed ▸ way)
      · rename_i done
        exact .written opens (done ▸ way)

variable {saved : FileTree × SaveOutcome}

/-- What saving a text does at a place. -/
theorem Saving.touch (saving : Saving tree p text saved) (place : Place) :
    Touch tree p text saved.2 place (tree.entry? place) (FileTree.entry? saved.1 place) := by
  cases saving with
  | unchanged same => exact .kept _
  | unopened opens failure => exact .of_opens opens (.kept _)
  | unmoved opens failure replacing => exact .of_opens opens (replacing.touch _ nofun place)
  | written opens replacing => exact .of_opens opens (replacing.touch _ (fun _ => rfl) place)

/-- Saving a text keeps the directories. -/
theorem Saving.keeps (saving : Saving tree p text saved) : tree.Keeps saved.1 := by
  cases saving with
  | unchanged same => exact .refl tree
  | unopened opens failure => exact opens.keeps
  | unmoved opens failure replacing => exact opens.keeps.trans replacing.keeps
  | written opens replacing => exact opens.keeps.trans replacing.keeps

/-- A text that was saved is found under its path. -/
theorem Saving.readText (saving : Saving tree p text saved)
    (done : ∀ failure, saved.2 ≠ .failed p failure) : saved.1.readText p = .ok text := by
  cases saving with
  | unchanged same => exact same
  | unopened opens failure => exact absurd rfl (done _)
  | unmoved opens failure replacing => exact absurd rfl (done _)
  | written opens replacing => exact replacing.readText rfl

/-- Saving a text leaves the texts of files at other places. -/
theorem Saving.readText_of_ne {q : Path} {content : String} (saving : Saving tree p text saved)
    (found : tree.readText q = .ok content) (other : tree.placeOf q ≠ tree.placeOf p)
    (apart : tree.placeOf q ≠ tree.placeOf (scratchPath p)) : saved.1.readText q = .ok content := by
  obtain ⟨place, bytes, located, stands, reads⟩ := readText_ok found
  have here : place = tree.placeOf q := walk_ok (locate_ok located).2.1
  have same : FileTree.entry? saved.1 place = some (.file bytes) := by
    have touch := saving.touch place
    rw [stands] at touch
    generalize FileTree.entry? saved.1 place = entry at touch ⊢
    cases touch with
    | kept => rfl
    | cleared beside => exact absurd (here.symm.trans beside) apart
    | written own => exact absurd (here.symm.trans own) other
  have again := locate_of_keeps saving.keeps located (by rw [same]; rfl)
  unfold FileTree.readText read stat
  simp only [again, same, reads, bind, Except.bind, pure, Except.pure]

/-- The bytes of the file that stands at a place. -/
def file? (tree : FileTree) (place : Place) : Option ByteArray :=
  (tree.entry? place).bind Entry.bytes?

end Saving

end FileTree

end TextTemplate

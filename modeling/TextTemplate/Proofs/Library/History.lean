import TextTemplate.Proofs.Library.Growth
import TextTemplate.Proofs.Library.Name
import TextTemplate.Proofs.Render.Request
import Mathlib.Logic.Relation
/-!
# The history of a library

In a session templates are registered, loaded and rendered in any order, and the files change in any
way. A session remembers its deeds: which template was registered under which key, and which was
read from its file. Main statement: after any steps, the library holds under a key the template that
was registered there last or else the one that was read first, and this is the one that is loaded by
a name of that key, from outside or by a node of a render, whatever the files hold; no key is ever
lost, and what fails changes nothing (`Session.lawful_of_steps`).
-/
namespace TextTemplate

/-- What put a template into a library. -/
inductive Deed
  /-- A source was given for the key. -/
  | registered (key : String) (t : Template)
  /-- The file of the key was read. -/
  | read (key : String) (t : Template)

namespace Deed

/-- The template that was registered under a key. -/
def registered? (key : String) : Deed → Option Template
  | .registered other t => if other = key then some t else none
  | .read _ _ => none

/-- The template that was read under a key. -/
def read? (key : String) : Deed → Option Template
  | .registered _ _ => none
  | .read other t => if other = key then some t else none

/-- The template that is due under a key after deeds in order: the one that was registered last, or
else the one that was read first. -/
def due (deeds : List Deed) (key : String) : Option Template :=
  (deeds.reverse.findSome? (registered? key)).or (deeds.findSome? (read? key))

variable (deeds more : List Deed) (key other : String) (t : Template)

/-- A template that was just registered is due under its key. -/
theorem due_registered : due (deeds ++ [.registered key t]) other =
    if key = other then some t else due deeds other := by
  by_cases same : key = other <;>
    simp [due, List.findSome?_append, List.findSome?_cons, registered?, read?, same]

/-- A template that was just read is due under its key if none was before. -/
theorem due_read : due (deeds ++ [.read key t]) other =
    (due deeds other).or (if key = other then some t else none) := by
  by_cases same : key = other <;>
    simp [due, List.findSome?_append, List.findSome?_cons, registered?, read?, same]

variable {deeds key}

/-- After further deeds a template is due still, if not the same. -/
theorem isSome_due_append (isDue : (due deeds key).isSome = true) :
    (due (deeds ++ more) key).isSome = true := by
  simp only [due, List.reverse_append, List.findSome?_append, Option.isSome_or,
    Bool.or_eq_true] at isDue ⊢
  exact isDue.imp .inr .inl

end Deed

namespace Library

/-- What a library holds beyond the templates that it held before, in order. -/
def since (library before : Library) : List (String × Template) :=
  library.entries.drop before.entries.length

variable {config : Config} {library after : Library} {files place : FileTree}
  {reads : List (String × Template)} {deeds : List Deed}

/-- What a library has beyond another is what was read since. -/
theorem Grows.since_eq (grows : Grows config library files reads after place) :
    after.since library = reads := by
  rw [since, grows.entries, List.drop_left]

/-- A library that has grown by reading was read from sources. -/
theorem Grows.parsed (grows : Grows config library files reads after place)
    (parsed : library.Parsed) : after.Parsed := by
  induction grows with
  | start => exact parsed
  | read earlier unknown fetched ih =>
    obtain ⟨source, read⟩ := parse_of_fetch fetched
    exact ih.insert read
  | saved earlier path content ih => exact ih

/-- The deed of reading a template under a key. -/
def readDeed (entry : String × Template) : Deed := .read entry.1 entry.2

/-- If a library holds what is due, it does so after it has grown by what was read. -/
theorem Grows.due (grows : Grows config library files reads after place)
    (due : ∀ key, library.get? key = Deed.due deeds key) (key : String) :
    after.get? key = Deed.due (deeds ++ reads.map readDeed) key := by
  induction grows with
  | start => simpa using due key
  | @read reads after place other t earlier unknown fetched ih =>
    have last : Deed.due ((deeds ++ reads.map readDeed) ++ [.read other t]) key =
        (after.get? key).or (if other = key then some t else none) := by
      rw [Deed.due_read, ih]
    have bound : (after.insert other t).get? key =
        (after.get? key).or (if other = key then some t else none) := by
      rw [Table.get?_insert]
      split
      · rename_i same
        rw [← same, unknown]
        rfl
      · rw [Option.or_none]
    rw [bound, ← last, List.map_append, List.append_assoc]
    rfl
  | saved earlier path content ih => exact ih

end Library

/-- A library and files that are used for some time, with the deeds that were done, in order. -/
structure Session where
  /-- The templates known so far. -/
  library : Library
  /-- The files. -/
  files : FileTree
  /-- What put templates into the library. -/
  deeds : List Deed

namespace Session

/-- The session in which nothing was done yet. -/
def start (files : FileTree) : Session := ⟨∅, files, []⟩

/-- The session after templates were read. -/
def grown (s : Session) (library : Library) (files : FileTree) : Session where
  library := library
  files := files
  deeds := s.deeds ++ (library.since s.library).map Library.readDeed

/-- What a session does when its library grows is to read templates. -/
theorem grown_of_grows {config : Config} {s : Session} {reads : List (String × Template)}
    {library : Library} {files : FileTree}
    (grows : Library.Grows config s.library s.files reads library files) :
    s.grown library files = ⟨library, files, s.deeds ++ reads.map Library.readDeed⟩ := by
  rw [grown, grows.since_eq]

/-- The session after a source was given for a name. -/
def registering (s : Session) (name source : String) : Session :=
  match s.library.register name source with
  | .ok (t, library) =>
    { s with library, deeds := s.deeds ++ [.registered (Library.normalise name) t] }
  | .error _ => s

/-- The session after a template was asked for by a name. -/
def loading (config : Config) (s : Session) (name : String) : Session :=
  match s.library.load config s.files name with
  | .ok (_, library) => s.grown library s.files
  | .error _ => s

/-- What may happen in a session: a source is given for a name, a template is asked for by a name, a
render ends that was started with any callables, any fuel and anything else in its machine, or the
files are changed from outside. -/
inductive Step (config : Config) (s : Session) : Session → Prop
  | registering (name source : String) : Step config s (s.registering name source)
  | loading (name : String) : Step config s (s.loading config name)
  | rendering {host : Host} {fuel : Nat} {t : Template} {m n : Machine}
    (library : m.library = s.library) (files : m.files = s.files)
    (ended : t.render ⟨host, config⟩ fuel m = .done () n ∨
      ∃ error, t.render ⟨host, config⟩ fuel m = .failed error n) :
    Step config s (s.grown n.library n.files)
  | editing (files : FileTree) : Step config s { s with files }

/-- Some steps in turn, or none. -/
abbrev Steps (config : Config) : Session → Session → Prop := Relation.ReflTransGen (Step config)

/-- The library was read from sources and holds what is due. -/
structure Sound (s : Session) : Prop where
  /-- The library was read from sources. -/
  parsed : s.library.Parsed
  /-- Under every key stands the template that is due. -/
  due : ∀ key, s.library.get? key = Deed.due s.deeds key

variable {config : Config} {s s' : Session}

/-- A session is sound before anything was done. -/
theorem sound_start (files : FileTree) : (start files).Sound where
  parsed := Library.parsed_empty
  due _ := rfl

/-- A session stays sound when its library grows by reading. -/
theorem Sound.grown (sound : s.Sound) {reads : List (String × Template)} {library : Library}
    {files : FileTree} (grows : Library.Grows config s.library s.files reads library files) :
    (s.grown library files).Sound where
  parsed := grows.parsed sound.parsed
  due key := by
    show library.get? key = _
    rw [grows.due sound.due, grown_of_grows grows]

/-- A session stays sound when a source is given. -/
theorem Sound.registering (sound : s.Sound) (name source : String) :
    (s.registering name source).Sound := by
  unfold Session.registering
  split
  · rename_i t library registered
    refine ⟨sound.parsed.register registered, fun key => ?_⟩
    obtain ⟨-, rfl⟩ := Library.register_eq_ok_iff.mp registered
    rw [Deed.due_registered, ← sound.due]
    exact Table.get?_insert _ _ _ _
  · exact sound

/-- Asking for a template that is known does nothing. -/
theorem loading_of_known {name : String} {t : Template}
    (known : s.library.get? (Library.normalise name) = some t) : s.loading config name = s := by
  have nothing : Library.Grows config s.library s.files [] s.library s.files := .start
  rw [loading, Library.load_of_get? known]
  simpa using grown_of_grows nothing

/-- Asking for a template that is not known reads it from its file. -/
theorem loading_of_fetched {name : String} {t : Template}
    (unknown : s.library.get? (Library.normalise name) = none)
    (fetched : Library.fetch config s.files (Library.normalise name) = .ok t) :
    s.loading config name = ⟨s.library.insert (Library.normalise name) t, s.files,
      s.deeds ++ [.read (Library.normalise name) t]⟩ := by
  have grows : Library.Grows config s.library s.files _ _ s.files := .read .start unknown fetched
  have loaded : s.library.load config s.files name =
      .ok (t, s.library.insert (Library.normalise name) t) := by
    rw [Library.load_eq, unknown]
    simp only [fetched]
  rw [loading, loaded]
  exact grown_of_grows grows

/-- A session stays sound when a template is asked for. -/
theorem Sound.loading (sound : s.Sound) (name : String) : (s.loading config name).Sound := by
  unfold Session.loading
  split
  · rename_i t library loaded
    have nothing : Library.Grows config s.library s.files [] s.library s.files := .start
    obtain ⟨reads, grows⟩ := nothing.load loaded
    exact sound.grown grows
  · exact sound

/-- The library and the files have grown from those of the session. -/
def Precedes (config : Config) (s : Session) (library : Library) (files : FileTree) : Prop :=
  ∃ reads, Library.Grows config s.library s.files reads library files

/-- From a machine with the library and the files of a session, they have grown wherever a node is
begun and wherever the render ends. -/
theorem precedes_render (config : Config) (host : Host) (fuel : Nat) (t : Template) {m : Machine}
    (library : m.library = s.library) (files : m.files = s.files) :
    t.Always (fun _ k => s.Precedes config k.library k.files) ⟨host, config⟩ fuel m ∧
      (t.render ⟨host, config⟩ fuel m).Holds (fun _ n => s.Precedes config n.library n.files)
        (fun error n => s.Precedes config n.library n.files ∧ n.Explains config error) True := by
  have lasting : Library.Lasting config (s.Precedes config) :=
    Library.lasting_grows config s.library s.files
  have start : s.Precedes config m.library m.files := by
    rw [library, files]
    exact ⟨[], .start⟩
  exact @Template.always_kept ⟨host, config⟩ _ lasting fuel t m start

/-- From the session, the library and the files have grown when a render ends. -/
theorem precedes_of_ended {host : Host} {fuel : Nat} {t : Template} {m n : Machine}
    (library : m.library = s.library) (files : m.files = s.files)
    (ended : t.render ⟨host, config⟩ fuel m = .done () n ∨
      ∃ error, t.render ⟨host, config⟩ fuel m = .failed error n) :
    s.Precedes config n.library n.files := by
  have ends := (precedes_render config host fuel t library files).2
  rcases ended with done | ⟨error, failed⟩
  · rw [done] at ends
    exact ends
  · rw [failed] at ends
    exact ends.1

/-- Every step of a session keeps it sound. -/
theorem Sound.step (sound : s.Sound) (step : Step config s s') : s'.Sound := by
  cases step with
  | registering name source => exact sound.registering name source
  | loading name => exact sound.loading name
  | rendering library files ended =>
    obtain ⟨reads, grows⟩ := precedes_of_ended library files ended
    exact sound.grown grows
  | editing files => exact ⟨sound.parsed, sound.due⟩

/-- Steps of a session keep it sound. -/
theorem Sound.steps (sound : s.Sound) (steps : Steps config s s') : s'.Sound := by
  induction steps with
  | refl => exact sound
  | tail _ step ih => exact ih.step step

/-- What was done stays done. -/
theorem Step.deeds (step : Step config s s') : s.deeds <+: s'.deeds := by
  cases step with
  | registering name source =>
    unfold Session.registering
    split
    · exact List.prefix_append _ _
    · exact List.prefix_refl _
  | loading name =>
    unfold Session.loading
    split
    · exact List.prefix_append _ _
    · exact List.prefix_refl _
  | rendering library files ended => exact List.prefix_append _ _
  | editing files => exact List.prefix_refl _

/-- What was done stays done. -/
theorem deeds_of_steps (steps : Steps config s s') : s.deeds <+: s'.deeds := by
  induction steps with
  | refl => exact List.prefix_refl _
  | tail _ step ih => exact ih.trans step.deeds

/-- A key is known exactly if a template is due under it. -/
theorem Sound.contains_eq (sound : s.Sound) (key : String) :
    s.library.contains key = (Deed.due s.deeds key).isSome := by
  rw [Table.contains, sound.due]

/-- A node is begun in a machine whose library has grown by what the render read so far. If the name
that the node asks for is known, it gets the template that is due under it, whatever the files hold,
and the library stays as it is. -/
def Continues (config : Config) (s : Session) (host : Host) (node : Node) (k : Machine) : Prop :=
  ∃ reads, Library.Grows config s.library s.files reads k.library k.files ∧
    ∀ expr name, node.operand? = some expr → node.request? host k = some name →
      k.library.isLoaded name = true → ∃ t,
        Deed.due (s.deeds ++ reads.map Library.readDeed) (Library.normalise name) = some t ∧
        ∀ files, ∃ l, Render.resolve ⟨host, config⟩ expr { node.asking host k with files } =
          .done t l ∧ l.library = k.library

/-- A sound session goes on in every node with what is due. -/
theorem Sound.continues (sound : s.Sound) {reads : List (String × Template)} {k : Machine}
    (grows : Library.Grows config s.library s.files reads k.library k.files) (host : Host)
    (node : Node) : s.Continues config host node k := by
  refine ⟨reads, grows, fun expr name operand asks known => ?_⟩
  obtain ⟨t, found⟩ := Library.exists_of_isLoaded known
  refine ⟨t, (grows.due sound.due _).symm.trans found, fun files => ?_⟩
  have text := Option.some.inj (asks.symm.trans (Node.request?_of_operand operand host k))
  have there : (node.asking host k).library.get? (Library.normalise (expr.eval host
      (node.asking host k).context (node.asking host k).host).1.text) = some t := by
    rw [node.library_asking, ← text]
    exact found
  exact ⟨_, Render.resolve_of_known (m := { node.asking host k with files }) there,
    node.library_asking host k⟩

/-- What is so of a session after any steps. -/
structure Lawful (config : Config) (s : Session) : Prop where
  /-- Every template has the name by which it is known. -/
  named : ∀ key t, s.library.get? key = some t → t.name = key
  /-- The library holds what is due. -/
  holds : ∀ key, s.library.get? key = Deed.due s.deeds key
  /-- By a name that is known the template is loaded that is due under it, whatever the files hold,
  and nothing is done. -/
  loads : ∀ name, s.library.isLoaded name = true → s.loading config name = s ∧ ∃ t,
    Deed.due s.deeds (Library.normalise name) = some t ∧
    ∀ files, s.library.load config files name = .ok (t, s.library)
  /-- A source that can be read is registered in place of what was known, and that is a deed. -/
  registers : ∀ name source t, Source.parse (Library.normalise name) source.toList = .ok t →
    s.registering name source = ⟨s.library.insert (Library.normalise name) t, s.files,
      s.deeds ++ [.registered (Library.normalise name) t]⟩
  /-- By a name that is not known the template is read from its file, and that is a deed. -/
  reads : ∀ name t, s.library.isLoaded name = false →
    Library.fetch config s.files (Library.normalise name) = .ok t →
    s.loading config name = ⟨s.library.insert (Library.normalise name) t, s.files,
      s.deeds ++ [.read (Library.normalise name) t]⟩
  /-- A node of a render gets the template that is due after what the render read so far. -/
  nested : ∀ (host : Host) (fuel : Nat) (t : Template) (m : Machine), m.library = s.library →
    m.files = s.files → t.Always (s.Continues config host) ⟨host, config⟩ fuel m
  /-- The deeds of a render are the templates that it read from their files as they were then. -/
  renders : ∀ (host : Host) (fuel : Nat) (t : Template) (m n : Machine), m.library = s.library →
    m.files = s.files → (t.render ⟨host, config⟩ fuel m = .done () n ∨
      ∃ error, t.render ⟨host, config⟩ fuel m = .failed error n) →
    ∃ reads, Library.Grows config s.library s.files reads n.library n.files ∧
      s.grown n.library n.files = ⟨n.library, n.files, s.deeds ++ reads.map Library.readDeed⟩
  /-- A source that is wrong changes nothing. -/
  refused : ∀ name source error, s.library.register name source = .error error →
    s.registering name source = s
  /-- A template that cannot be loaded changes nothing. -/
  missed : ∀ name error, s.library.load config s.files name = .error error →
    s.loading config name = s
  /-- Where loading a template ends a render, it fails in the machine in which the render ends. -/
  explains : ∀ (host : Host) (fuel : Nat) (t : Template) (m n : Machine) (error : RenderError),
    m.library = s.library → m.files = s.files →
    t.render ⟨host, config⟩ fuel m = .failed error n → n.Explains config error
  /-- No key is lost, and no deed is undone. -/
  lasts : ∀ s', Steps config s s' → s.deeds <+: s'.deeds ∧
    ∀ key, s.library.contains key = true → s'.library.contains key = true

/-- So it is after any steps from an empty library and any files. -/
theorem lawful_of_steps {files : FileTree} (steps : Steps config (start files) s) :
    s.Lawful config := by
  have sound := (sound_start files).steps steps
  constructor
  case named => exact fun key t known => (sound.parsed key t known).1
  case holds => exact sound.due
  case loads =>
    intro name known
    obtain ⟨t, found⟩ := Library.exists_of_isLoaded known
    refine ⟨?_, t, (sound.due _).symm.trans found, fun files => Library.load_of_get? found⟩
    exact loading_of_known found
  case registers =>
    intro name source t read
    rw [registering, Library.register_eq_ok_iff.mpr ⟨read, rfl⟩]
  case reads =>
    intro name t unknown fetched
    refine loading_of_fetched ?_ fetched
    simpa [Library.isLoaded, Table.contains] using unknown
  case nested =>
    intro host fuel t m library files
    have always := (precedes_render config host fuel t library files).1
    refine always.mono fun node k grown => ?_
    obtain ⟨reads, grows⟩ := grown
    exact sound.continues grows host node
  case renders =>
    intro host fuel t m n library files ended
    obtain ⟨reads, grows⟩ := precedes_of_ended library files ended
    exact ⟨reads, grows, grown_of_grows grows⟩
  case refused =>
    intro name source error wrong
    rw [registering, wrong]
  case missed =>
    intro name error missing
    rw [loading, missing]
  case explains =>
    intro host fuel t m n error library files failed
    have ends := (precedes_render config host fuel t library files).2
    rw [failed] at ends
    exact ends.2
  case lasts =>
    intro s' onward
    obtain ⟨more, longer⟩ := deeds_of_steps onward
    refine ⟨⟨more, longer⟩, fun key known => ?_⟩
    rw [sound.contains_eq] at known
    rw [(sound.steps onward).contains_eq, ← longer]
    exact Deed.isSome_due_append more known

/-- Files of which one holds a text. -/
def page (text : String) : FileTree := ((FileTree.bare ⟨[]⟩).save ⟨"page"⟩ text).1

/-- A session in which a file was read that has another text now, and in which a source for its name
was wrong. -/
def edited : Session :=
  { (start (page "old")).loading default "page" with files := page "new" }.registering "page"
    (Source.tag "if")

/-- So it is there: the template is loaded that was read first. -/
theorem lawful_of_steps_edited :
    edited.Lawful default ∧
      Library.fetch default edited.files "page" = .ok ⟨"page", [.text "new"], ∅⟩ ∧
      ∀ files, edited.library.load default files "./page" =
        .ok (⟨"page", [.text "old"], ∅⟩, edited.library) := by
  have steps : Steps default (start (page "old")) edited :=
    .tail (.tail (.single (.loading "page")) (.editing (page "new")))
      (.registering "page" (Source.tag "if"))
  have lawful := lawful_of_steps steps
  have due : Deed.due edited.deeds "page" = some ⟨"page", [.text "old"], ∅⟩ := by
    with_unfolding_all rfl
  have new : Library.fetch default edited.files "page" = .ok ⟨"page", [.text "new"], ∅⟩ := by
    with_unfolding_all rfl
  have known : edited.library.isLoaded "./page" = true := by
    with_unfolding_all rfl
  have key : Library.normalise "./page" = "page" := by
    decide +kernel
  obtain ⟨-, t, found, loads⟩ := lawful.loads "./page" known
  rw [key, due] at found
  cases found
  exact ⟨lawful, new, loads⟩

end Session

end TextTemplate

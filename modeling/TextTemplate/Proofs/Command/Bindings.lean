import TextTemplate.Command.Run
import TextTemplate.Proofs.Data.Walk
/-!
# Where the bindings of a render come from

The command `render` binds the time, then the fields of its data files and then its assignments, all
in one scope. So an assignment hides the fields of its name, of two assignments or two files the
later hides the earlier, and the time is hidden by all of them (`Precedence`). The fields of several
objects are bound like those of one object that has them all. A data file that holds no object stops
the command before any template is loaded. All this holds whatever libraries read the files. Main
statement: `Command.render_binds`.
-/
namespace TextTemplate

/-! ### Last items -/

/-- The last item of a list that gives anything gives this. -/
def LastGives {α β : Type} (gives : α → β → Prop) (xs : List α) (v : β) : Prop :=
  ∃ before x after, xs = before ++ x :: after ∧ gives x v ∧ ∀ y ∈ after, ∀ w, ¬ gives y w

/-- No item of a list gives anything. -/
def NoneGives {α β : Type} (gives : α → β → Prop) (xs : List α) : Prop :=
  ∀ x ∈ xs, ∀ v, ¬ gives x v

section

variable {α β : Type} {gives : α → β → Prop} {x : α} {xs : List α} {v : β}

/-- What is given last stays so if an item is put in front. -/
theorem LastGives.cons (x : α) (last : LastGives gives xs v) : LastGives gives (x :: xs) v := by
  obtain ⟨before, y, after, rfl, given, later⟩ := last
  exact ⟨x :: before, y, after, rfl, given, later⟩

/-- If only the first item gives anything, that is what is given last. -/
theorem NoneGives.head (none_ : NoneGives gives xs) (given : gives x v) :
    LastGives gives (x :: xs) v :=
  ⟨[], x, xs, rfl, given, none_⟩

/-- An item that gives nothing may be put in front of items that give nothing. -/
theorem NoneGives.cons (none_ : NoneGives gives xs) (nothing : ∀ v, ¬ gives x v) :
    NoneGives gives (x :: xs) :=
  List.forall_mem_cons.mpr ⟨nothing, none_⟩

/-- Where something is given last, something is given. -/
theorem LastGives.not_none (last : LastGives gives xs v) : ¬ NoneGives gives xs := by
  obtain ⟨before, y, after, rfl, given, -⟩ := last
  exact fun none_ => none_ y (by simp) v given

/-- If the very last item gives one thing only, that is what is given last. -/
theorem LastGives.eq_of_concat {w : β} (xs : List α) (last : LastGives gives (xs ++ [x]) v)
    (given : gives x w) (only : ∀ u, gives x u → u = w) : v = w := by
  obtain ⟨before, y, after, split, given', none_⟩ := last
  rcases after.eq_nil_or_concat with rfl | ⟨front, z, rfl⟩
  · obtain ⟨-, same⟩ := List.append_inj' split rfl
    obtain ⟨rfl, -⟩ := List.cons.inj same
    exact only v given'
  · have whole : xs ++ [x] = (before ++ y :: front) ++ [z] := by rw [split]; simp
    obtain ⟨-, same⟩ := List.append_inj' whole rfl
    obtain ⟨rfl, -⟩ := List.cons.inj same
    exact absurd given (none_ x (by simp) w)

end

/-! ### Assignments -/

namespace Assignment

/-- A text gives a name another text: that is all that stands after its first equals sign, and the
name is what stands before it, without the blanks at its ends. -/
def Gives (name setting text : String) : Prop :=
  ∃ before, setting.toList = before ++ '=' :: text.toList ∧ '=' ∉ before ∧
    Text.trim before = name.toList

/-- What is read off a text gives its name its text and nothing else. -/
theorem gives_iff {setting : String} {a : Assignment} (read : ofText? setting = some a)
    (name text : String) : Gives name setting text ↔ a.name = name ∧ a.text = text := by
  obtain ⟨⟨before, after⟩, cut, named⟩ := Option.bind_eq_some_iff.mp read
  obtain ⟨shape, first⟩ := Text.cutAt_eq_some_iff.mp cut
  have whole : a = ⟨String.ofList (Text.trim before), String.ofList after⟩ := by
    dsimp only at named
    split at named
    · cases named
    · exact (Option.some.inj named).symm
  rw [whole]
  constructor
  · rintro ⟨front, shape', first', trimmed⟩
    have same := cut.symm.trans (Text.cutAt_eq_some_iff.mpr ⟨shape', first'⟩)
    obtain ⟨rfl, rfl⟩ := Prod.mk.inj (Option.some.inj same)
    exact ⟨by rw [trimmed, String.ofList_toList], String.ofList_toList⟩
  · rintro ⟨rfl, rfl⟩
    exact ⟨before, by rw [shape, String.toList_ofList], first, by rw [String.toList_ofList]⟩

end Assignment

namespace Bindings

/-- After texts were assigned a name has that of its last assignment, or what it had before. -/
theorem get?_setTexts {settings : List String} {assignments : List Assignment}
    (read : List.Forall₂ (fun s a => Assignment.ofText? s = some a) settings assignments)
    (b : Bindings) (name : String) :
    let after := assignments.foldl (fun bindings a => bindings.setText a.name a.text) b
    (∃ text, LastGives (Assignment.Gives name) settings text ∧
      after.context.get? name = some (.ofText text)) ∨
    NoneGives (Assignment.Gives name) settings ∧
      after.context.get? name = b.context.get? name := by
  induction read generalizing b with
  | nil => exact .inr ⟨nofun, rfl⟩
  | @cons setting a settings assignments first later ih =>
    have gives := Assignment.gives_iff first name
    have get? : (b.setText a.name a.text).context.get? name =
        if a.name = name then some (.ofText a.text) else b.context.get? name :=
      Context.get?_set _ _ _ _
    rcases ih (b.setText a.name a.text) with ⟨text, last, found⟩ | ⟨none_, kept⟩
    · exact .inl ⟨text, last.cons setting, found⟩
    · by_cases same : a.name = name
      · rw [if_pos same] at get?
        exact .inl ⟨a.text, none_.head ((gives _).mpr ⟨same, rfl⟩), kept.trans get?⟩
      · rw [if_neg same] at get?
        have nothing : ∀ text, ¬ Assignment.Gives name setting text :=
          fun text given => same ((gives text).mp given).1
        exact .inr ⟨none_.cons nothing, kept.trans get?⟩

/-- To assign texts changes the innermost scope only. -/
theorem sameAround_setTexts (assignments : List Assignment) (b : Bindings) :
    (assignments.foldl (fun bindings a => bindings.setText a.name a.text) b).context.SameAround
      b.context := by
  induction assignments generalizing b with
  | nil => exact .refl _
  | cons a assignments ih =>
    exact (ih (b.setText a.name a.text)).trans (Context.sameAround_set _ _ _)

/-- To assign texts makes no list and no record. -/
theorem heap_setTexts (assignments : List Assignment) (b : Bindings) :
    (assignments.foldl (fun bindings a => bindings.setText a.name a.text) b).heap = b.heap := by
  induction assignments generalizing b with
  | nil => rfl
  | cons a assignments ih => exact ih (b.setText a.name a.text)

end Bindings

/-! ### Data files -/

namespace Document

/-- The object with the fields has the document under the key. -/
def Has (key : String) (fields : List (String × Document)) (d : Document) : Prop :=
  field? fields key = some d

/-- Of two lists of fields the second counts first. -/
theorem field?_append (fields later : List (String × Document)) (key : String) :
    field? (fields ++ later) key = (field? later key).or (field? fields key) := by
  induction later using List.reverseRecOn with
  | nil => rw [List.append_nil, show field? [] key = none from rfl, Option.none_or]
  | append_singleton later field ih =>
    rw [← List.append_assoc, Bindings.field?_concat, Bindings.field?_concat, ih]
    split <;> rfl

/-- Among the fields of several objects a key has what the last object with the key has under it. -/
theorem field?_flatten (mappings : List (List (String × Document))) (key : String) :
    (∃ d, LastGives (Has key) mappings d ∧ field? mappings.flatten key = some d) ∨
      NoneGives (Has key) mappings ∧ field? mappings.flatten key = none := by
  induction mappings with
  | nil => exact .inr ⟨nofun, rfl⟩
  | cons fields mappings ih =>
    have split := field?_append fields mappings.flatten key
    rw [List.flatten_cons, split]
    rcases ih with ⟨d, last, found⟩ | ⟨none_, unbound⟩
    · exact .inl ⟨d, last.cons fields, by rw [found, Option.some_or]⟩
    · rw [unbound, Option.none_or]
      cases here : field? fields key with
      | some d => exact .inl ⟨d, none_.head here, rfl⟩
      | none =>
        have nothing : ∀ d, ¬ Has key fields d := fun d has => nomatch here.symm.trans has
        exact .inr ⟨none_.cons nothing, rfl⟩

end Document

namespace DataFormat

variable [JsonLibrary] [YamlLibrary]

/-- The text of a file is of the format that the name of the file tells, and what it says is an
object with these fields. -/
def Holds (files : FileTree) (p : Path) (fields : List (String × Document)) : Prop :=
  ∃ text format, files.readText p = .ok text ∧ ofExtension? (extension p) = some format ∧
    format.read text = .ok (.object fields)

/-- What is wrong with a data file. -/
inductive Suffers (files : FileTree) (p : Path) : DataFault → Prop
  | unreadable {cause : FileError} (refused : files.readText p = .error cause) :
    Suffers files p (.unreadable cause)
  | unknownFormat {text : String} (held : files.readText p = .ok text)
    (unknown : ofExtension? (extension p) = none) :
    Suffers files p (.unknownFormat (extension p))
  | malformed {text cause : String} {format : DataFormat} (held : files.readText p = .ok text)
    (known : ofExtension? (extension p) = some format) (wrong : format.read text = .error cause) :
    Suffers files p (.malformed format cause)
  | notMapping {text : String} {format : DataFormat} {d : Document}
    (held : files.readText p = .ok text) (known : ofExtension? (extension p) = some format)
    (read : format.read text = .ok d) (other : ∀ fields, d ≠ .object fields) :
    Suffers files p .notMapping

variable {files : FileTree} {p : Path}

/-- Something is wrong with a file exactly if it holds no object. -/
theorem exists_suffers_iff (files : FileTree) (p : Path) :
    (∃ fault, Suffers files p fault) ↔ ∀ fields, ¬ Holds files p fields := by
  constructor
  · rintro ⟨fault, suffers⟩ fields ⟨text, format, held, known, read⟩
    cases suffers with
    | unreadable refused => cases held.symm.trans refused
    | unknownFormat held' unknown => cases known.symm.trans unknown
    | malformed held' known' wrong =>
      cases held.symm.trans held'
      cases known.symm.trans known'
      cases read.symm.trans wrong
    | notMapping held' known' read' other =>
      cases held.symm.trans held'
      cases known.symm.trans known'
      exact other fields (Except.ok.inj (read'.symm.trans read))
  · intro lacks
    cases held : files.readText p with
    | error cause => exact ⟨_, .unreadable held⟩
    | ok text =>
      cases known : ofExtension? (extension p) with
      | none => exact ⟨_, .unknownFormat held known⟩
      | some format =>
        cases read : format.read text with
        | error cause => exact ⟨_, .malformed held known read⟩
        | ok d =>
          have other : ∀ fields, d ≠ .object fields := by
            rintro fields rfl
            exact lacks fields ⟨text, format, held, known, read⟩
          exact ⟨_, .notMapping held known read other⟩

/-- The fields of a file that holds an object are bound. -/
theorem Holds.setFile {fields : List (String × Document)} (holds : Holds files p fields)
    (b : Bindings) : b.setFile files p = .ok (b.setFields fields) := by
  obtain ⟨text, format, held, known, read⟩ := holds
  simp only [Bindings.setFile, load, held, known, read]
  rfl

/-- A file that something is wrong with is not bound, and that is told. -/
theorem Suffers.setFile {fault : DataFault} (suffers : Suffers files p fault) (b : Bindings) :
    b.setFile files p = .error ⟨p, fault⟩ := by
  cases suffers with
  | unreadable refused =>
    simp only [Bindings.setFile, load, refused]
    rfl
  | unknownFormat held unknown =>
    simp only [Bindings.setFile, load, held, unknown]
    rfl
  | malformed held known wrong =>
    simp only [Bindings.setFile, load, held, known, wrong]
    rfl
  | @notMapping _ _ d held known read other =>
    simp only [Bindings.setFile, load, held, known, read]
    cases d with
    | object fields => exact absurd rfl (other fields)
    | _ => rfl

/-- One thing is wrong with a file. -/
theorem Suffers.unique {fault other : DataFault} (suffers : Suffers files p fault)
    (suffers' : Suffers files p other) : fault = other := by
  have same := (suffers.setFile ⟨∅, ∅⟩).symm.trans (suffers'.setFile ⟨∅, ∅⟩)
  cases same
  rfl

/-- Files that all hold objects hold a list of objects. -/
theorem exists_mappings {paths : List Path} (all : ∀ p ∈ paths, ∃ fields, Holds files p fields) :
    ∃ mappings, List.Forall₂ (Holds files) paths mappings := by
  induction paths with
  | nil => exact ⟨[], .nil⟩
  | cons p paths ih =>
    obtain ⟨⟨fields, first⟩, others⟩ := List.forall_mem_cons.mp all
    obtain ⟨mappings, later⟩ := ih others
    exact ⟨fields :: mappings, .cons first later⟩

/-- No object is in a file with which something is wrong. -/
theorem Suffers.not_holds {fault : DataFault} (suffers : Suffers files p fault) :
    ¬ ∃ fields, Holds files p fields := fun ⟨fields, holds⟩ =>
  (exists_suffers_iff files p).mp ⟨fault, suffers⟩ fields holds

/-- If something is wrong with one of some files, one of them is the first that it is so with. -/
theorem exists_first_suffers {paths : List Path}
    (wrong : ∃ p ∈ paths, ∃ fault, Suffers files p fault) :
    ∃ before p after fault, paths = before ++ p :: after ∧
      (∀ q ∈ before, ∃ fields, Holds files q fields) ∧ Suffers files p fault := by
  induction paths with
  | nil =>
    obtain ⟨p, member, -⟩ := wrong
    cases member
  | cons p paths ih =>
    by_cases first : ∃ fields, Holds files p fields
    · have later : ∃ p ∈ paths, ∃ fault, Suffers files p fault := by
        obtain ⟨q, member, suffers⟩ := wrong
        rcases List.mem_cons.mp member with rfl | member
        · obtain ⟨fault, wrong⟩ := suffers
          exact absurd first wrong.not_holds
        · exact ⟨q, member, suffers⟩
      obtain ⟨before, q, after, fault, rfl, all, suffers⟩ := ih later
      exact ⟨p :: before, q, after, fault, rfl, List.forall_mem_cons.mpr ⟨first, all⟩, suffers⟩
    · obtain ⟨fault, suffers⟩ := (exists_suffers_iff files p).mpr (not_exists.mp first)
      exact ⟨[], p, paths, fault, rfl, nofun, suffers⟩

/-- Only one of some files is the first with which something is wrong. -/
theorem first_suffers_unique {before before' after after' : List Path} {p' : Path}
    {fault fault' : DataFault} (same : before ++ p :: after = before' ++ p' :: after')
    (all : ∀ q ∈ before, ∃ fields, Holds files q fields) (suffers : Suffers files p fault)
    (all' : ∀ q ∈ before', ∃ fields, Holds files q fields) (suffers' : Suffers files p' fault') :
    p = p' ∧ fault = fault' := by
  rcases List.append_eq_append_iff.mp same with ⟨between, rfl, here⟩ | ⟨between, rfl, here⟩
  · cases between with
    | nil =>
      obtain ⟨rfl, -⟩ := List.cons.inj here
      exact ⟨rfl, suffers.unique suffers'⟩
    | cons first between =>
      obtain ⟨rfl, -⟩ := List.cons.inj here
      exact absurd (all' p (by simp)) suffers.not_holds
  · cases between with
    | nil =>
      obtain ⟨rfl, -⟩ := List.cons.inj here
      exact ⟨rfl, suffers.unique suffers'⟩
    | cons first between =>
      obtain ⟨rfl, -⟩ := List.cons.inj here
      exact absurd (all p' (by simp)) suffers'.not_holds

end DataFormat

namespace Bindings

open DataFormat

variable [JsonLibrary] [YamlLibrary] {files : FileTree} {paths : List Path}
  {mappings : List (List (String × Document))}

/-- Files that hold objects are bound like one object with all fields. -/
theorem setFiles_of_holds (holds : List.Forall₂ (Holds files) paths mappings) (b : Bindings) :
    paths.foldlM (setFile files) b = .ok (b.setFields mappings.flatten) := by
  induction holds generalizing b with
  | nil => rfl
  | @cons p fields paths mappings first later ih =>
    have split : b.setFields (fields :: mappings).flatten =
        (b.setFields fields).setFields mappings.flatten := by
      rw [List.flatten_cons, setFields, List.foldl_append]
      rfl
    rw [List.foldlM_cons, first.setFile, split]
    exact ih (b.setFields fields)

/-- The first file that holds no object ends it all. -/
theorem setFiles_of_suffers {p : Path} {fault : DataFault}
    (all : ∀ q ∈ paths, ∃ fields, Holds files q fields) (suffers : Suffers files p fault)
    (after : List Path) (b : Bindings) :
    (paths ++ p :: after).foldlM (setFile files) b = .error ⟨p, fault⟩ := by
  obtain ⟨mappings, holds⟩ := exists_mappings all
  have stops := suffers.setFile (b.setFields mappings.flatten)
  have last : (p :: after).foldlM (setFile files) (b.setFields mappings.flatten) =
      .error ⟨p, fault⟩ := by
    rw [List.foldlM_cons, stops]
    rfl
  rw [List.foldlM_append, setFiles_of_holds holds]
  exact last

end Bindings

/-! ### The command -/

/-- What a render at the time `now` finds bound to a name if its data files hold these mappings: the
text of the last assignment of the name; else the value of the name's field in the last mapping that
has one (`Document.toValue_stands` tells what that is), with all that it refers to; else the time,
under its own name; and nothing under another. -/
inductive Precedence [JsonLibrary] (now : String)
    (mappings : List (List (String × Document))) (settings : List String) (heap : Heap)
    (name : String) : Option Value → Prop
  | setting {text : String} (last : LastGives (Assignment.Gives name) settings text) :
    Precedence now mappings settings heap name (some (.ofText text))
  | field {d : Document} {v : Value} {after : Heap}
    (unset : NoneGives (Assignment.Gives name) settings)
    (last : LastGives (Document.Has name) mappings d)
    (converted : ∃ before, d.toValue before = (v, after)) (kept : after.Grows heap) :
    Precedence now mappings settings heap name (some v)
  | time (unset : NoneGives (Assignment.Gives name) settings)
    (unbound : NoneGives (Document.Has name) mappings) (named : name = "generated_at") :
    Precedence now mappings settings heap name (some (.ofText now))
  | nothing (unset : NoneGives (Assignment.Gives name) settings)
    (unbound : NoneGives (Document.Has name) mappings) (other : name ≠ "generated_at") :
    Precedence now mappings settings heap name none

/-- The very last assignment hides everything else that has its name. -/
theorem Precedence.eq_of_concat [JsonLibrary] {now setting : String} (settings : List String)
    {mappings : List (List (String × Document))} {heap : Heap} {a : Assignment} {v : Option Value}
    (bound : Precedence now mappings (settings ++ [setting]) heap a.name v)
    (read : Assignment.ofText? setting = some a) : v = some (.ofText a.text) := by
  have gives := Assignment.gives_iff read a.name
  have given : Assignment.Gives a.name setting a.text := (gives a.text).mpr ⟨rfl, rfl⟩
  have member : setting ∈ settings ++ [setting] := by simp
  cases bound with
  | setting last =>
    rw [last.eq_of_concat settings given fun text other => ((gives text).mp other).2.symm]
  | field unset => exact absurd given (unset setting member a.text)
  | time unset => exact absurd given (unset setting member a.text)
  | nothing unset => exact absurd given (unset setting member a.text)

/-- Where no assignment has the name, the field of the very last mapping hides those of all others.
-/
theorem Precedence.exists_of_concat [JsonLibrary] {now name : String} {settings : List String}
    {fields : List (String × Document)} {heap : Heap} {d : Document} {v : Option Value}
    (mappings : List (List (String × Document)))
    (bound : Precedence now (mappings ++ [fields]) settings heap name v)
    (unset : NoneGives (Assignment.Gives name) settings) (has : Document.Has name fields d) :
    ∃ before, v = some (d.toValue before).1 := by
  have member : fields ∈ mappings ++ [fields] := by simp
  cases bound with
  | setting last => exact absurd unset last.not_none
  | field _ last converted =>
    have same := last.eq_of_concat mappings has fun d' other =>
      Option.some.inj (other.symm.trans has)
    obtain ⟨before, value⟩ := converted
    rw [same] at value
    exact ⟨before, by rw [value]⟩
  | time _ unbound => exact absurd has (unbound fields member d)
  | nothing _ unbound => exact absurd has (unbound fields member d)

/-- A machine at the start of a render of the command line. -/
structure Machine.Starts (m : Machine) (config : Config) (files : FileTree) (library : Library) :
    Prop where
  /-- The templates are those that were loaded. -/
  library : m.library = library
  /-- No file was changed. -/
  files : m.files = files
  /-- No callable was invoked. -/
  journal : m.host.journal = #[]
  /-- Nothing was put out. -/
  sink : m.sink = .unlimited 0
  /-- No template is being rendered. -/
  active : m.active = []
  /-- No block is overridden. -/
  chain : m.chain = []
  /-- No file was created. -/
  outcomes : m.outcomes = #[]
  /-- Files go to the configured directory. -/
  outputDir : m.context.outputDir = config.outputDir
  /-- Values are escaped as configured. -/
  escaper : m.context.escaper = config.escape.escaper

namespace RenderOptions

variable [JsonLibrary] [YamlLibrary] {files : FileTree} {options : RenderOptions}
  {settings : List String} {mappings : List (List (String × Document))}

/-- The bindings of a render whose data files hold the mappings, in a context that had none. -/
theorem exists_bindings {context : Context}
    (read : List.Forall₂ (fun s a => Assignment.ofText? s = some a) settings options.assignments)
    (holds : List.Forall₂ (DataFormat.Holds files) options.data mappings)
    (bare : ∀ name, context.get? name = none) (now : String) :
    ∃ b, options.bindings files now context = .ok b ∧ b.context.SameAround context ∧
      ∀ name, Precedence now mappings settings b.heap name (b.context.get? name) := by
  let start : Bindings := ⟨context.set "generated_at" (.ofText now), ∅⟩
  let filled := start.setFields mappings.flatten
  let assigned := options.assignments.foldl (fun b a => b.setText a.name a.text) filled
  have bound : options.bindings files now context = .ok assigned := by
    rw [bindings, Bindings.setFiles_of_holds holds]
    rfl
  have around : assigned.context.SameAround context :=
    ((Bindings.sameAround_setTexts _ _).trans (Bindings.sameAround_setFields _ _)).trans
      (Context.sameAround_set _ _ _)
  refine ⟨assigned, bound, around, fun name => ?_⟩
  have binds := start.binds_setFields mappings.flatten
  have heap : assigned.heap = filled.heap := Bindings.heap_setTexts _ _
  rcases Bindings.get?_setTexts read filled name with ⟨text, last, found⟩ | ⟨unset, kept⟩
  · rw [show assigned.context.get? name = _ from found]
    exact .setting last
  rw [show assigned.context.get? name = _ from kept, heap]
  rcases Document.field?_flatten mappings name with ⟨d, last, here⟩ | ⟨unbound, none_⟩
  · obtain ⟨before, found, grows⟩ := binds.converted name d here
    rw [found]
    exact .field unset last ⟨before, rfl⟩ grows
  rw [binds.others name none_, show start.context.get? name = _ from Context.get?_set _ _ _ _]
  by_cases named : "generated_at" = name
  · rw [if_pos named]
    exact .time unset unbound named.symm
  · rw [if_neg named, bare]
    exact .nothing unset unbound (Ne.symm named)

/-- The machine in which a render starts whose data files hold the mappings. -/
theorem exists_starts {config : Config}
    (read : List.Forall₂ (fun s a => Assignment.ofText? s = some a) settings options.assignments)
    (holds : List.Forall₂ (DataFormat.Holds files) options.data mappings) (now : String)
    (library : Library) :
    ∃ b, options.bindings files now config.context = .ok b ∧
      (machine files library b).Starts config files library ∧
      ∀ name, Precedence now mappings settings b.heap name (b.context.get? name) := by
  have bare : ∀ name, config.context.get? name = none := fun _ => rfl
  obtain ⟨b, bound, around, found⟩ := exists_bindings read holds bare now
  exact ⟨b, bound, ⟨rfl, rfl, rfl, rfl, rfl, rfl, rfl, around.outputDir, around.escaper⟩, found⟩

end RenderOptions

/-- The message about a data file names it. -/
theorem DataError.message_names (error : DataError) :
    ∃ front back, error.message = front ++ s!"'{error.path.text}'" ++ back := by
  obtain ⟨p, fault⟩ := error
  cases fault with
  | unreadable cause =>
    exact ⟨"cannot read data file ", "", by simp [← String.toList_inj, message, toString]⟩
  | malformed format cause =>
    exact ⟨s!"invalid {format.name} in ", "", by simp [← String.toList_inj, message, toString]⟩
  | unknownFormat extension =>
    exact ⟨s!"unsupported data file extension '{extension}' for ",
      " (expected .json, .yaml or .yml)", by simp [← String.toList_inj, message, toString]⟩
  | notMapping =>
    exact ⟨"data file ", " must contain a mapping at the top level",
      by simp [← String.toList_inj, message, toString]⟩

/-- What a user is shown about a trouble begins with what could not be done. -/
theorem Trouble.text_head (trouble : Trouble) :
    ∃ back, trouble.text = s!"Error: {trouble.head}" ++ back := by
  rw [text]
  split
  · exact ⟨"\n", by simp [toString, String.append_assoc]⟩
  · exact ⟨"\n\nCaused by:\n" ++ causesText trouble.causes, by simp [toString, String.append_assoc]⟩

/-- A command failed because of a data file: it put nothing out, left all files as they were, and
told what is wrong with that file. -/
structure Report.Blames (report : Report) (files : FileTree) (p : Path) (fault : DataFault) :
    Prop where
  /-- The status tells a failure. -/
  failed : report.status = failureStatus
  /-- Nothing is put out. -/
  silent : report.output = ""
  /-- All files are as they were. -/
  untouched : report.files = files
  /-- The user is told what is wrong with the file. -/
  told : report.notes = (Trouble.ofDataError ⟨p, fault⟩).text
  /-- The file is named. -/
  named : ∃ front back, report.notes = front ++ s!"'{p.text}'" ++ back

/-- A failure because of a data file is reported so. -/
theorem Report.blames_failure (files : FileTree) (p : Path) (fault : DataFault) :
    (failure files (.ofDataError ⟨p, fault⟩)).Blames files p fault where
  failed := rfl
  silent := rfl
  untouched := rfl
  told := rfl
  named := by
    obtain ⟨front, back, names⟩ := DataError.message_names ⟨p, fault⟩
    obtain ⟨rest, begins⟩ := Trouble.text_head (.ofDataError ⟨p, fault⟩)
    have head : (Trouble.ofDataError ⟨p, fault⟩).head = DataError.message ⟨p, fault⟩ := rfl
    rw [head, names] at begins
    exact ⟨"Error: " ++ front, back ++ rest,
      by simp [failure, begins, toString, String.append_assoc]⟩

/-- Whatever data files and assignments a render is given: if all files hold objects, it reports of
the render of the template in a machine that finds bound what `Precedence` tells, and if one holds
none, it fails because of the first such file, whatever template it is asked for. -/
theorem Command.render_binds [JsonLibrary] [YamlLibrary] {now : String} {files : FileTree}
    {options : RenderOptions} {settings : List String} {config : Config}
    (loaded : options.loadConfig files = .ok config)
    (read : List.Forall₂ (fun s a => Assignment.ofText? s = some a) settings options.assignments) :
    (∀ mappings, List.Forall₂ (DataFormat.Holds files) options.data mappings →
      ∀ name template library, Library.load ∅ config files name = .ok (template, library) →
        ∃ m : Machine, m.Starts config files library ∧
          (∀ key, Precedence now mappings settings m.host.heap key (m.context.get? key)) ∧
          ∀ fuel, Command.run fuel now files (.render name options) =
            options.report? name (template.render ⟨.silent, config⟩ fuel m)) ∧
    ((∃ p ∈ options.data, ∃ fault, DataFormat.Suffers files p fault) →
      ∃ before p after fault, options.data = before ++ p :: after ∧
        (∀ q ∈ before, ∃ fields, DataFormat.Holds files q fields) ∧
        DataFormat.Suffers files p fault ∧
        ∃ report : Report, report.Blames files p fault ∧
          ∀ fuel name, Command.run fuel now files (.render name options) = some report) := by
  constructor
  · intro mappings holds name template library known
    obtain ⟨b, bound, starts, found⟩ := RenderOptions.exists_starts read holds now library
    refine ⟨_, starts, found, fun fuel => ?_⟩
    simp only [Command.run, RenderOptions.run, loaded, bound, known]
  · intro wrong
    obtain ⟨before, p, after, fault, split, all, suffers⟩ := DataFormat.exists_first_suffers wrong
    have stops : options.bindings files now config.context = .error ⟨p, fault⟩ := by
      rw [RenderOptions.bindings, split, Bindings.setFiles_of_suffers all suffers]
      rfl
    refine ⟨before, p, after, fault, split, all, suffers, _, Report.blames_failure files p fault,
      fun fuel name => ?_⟩
    simp only [Command.run, RenderOptions.run, loaded, stops]

/-- Files with two objects that have a key in common, one with an array, and a template. -/
def FileTree.ledger : FileTree where
  entries := .ofList [(⟨["old.json"]⟩, .file "\x7b\"title\": \"x\", \"n\": 1\x7d".toUTF8),
    (⟨["new.json"]⟩, .file "\x7b\"n\": 2\x7d".toUTF8), (⟨["list.json"]⟩, .file "[3]".toUTF8),
    (⟨["page.tpl"]⟩, .file "\x7b\x7b n \x7d\x7d".toUTF8)]
  home := .root

/-- Both objects and two assignments of one name. -/
def RenderOptions.ledger : RenderOptions :=
  { RenderOptions.empty with
    data := [⟨"old.json"⟩, ⟨"new.json"⟩]
    assignments := [⟨"title", "c"⟩, ⟨"title", " a=b"⟩] }

/-- The first file holds an object. -/
theorem DataFormat.holds_old : Holds .ledger ⟨"old.json"⟩
    [("title", .text "x"), ("n", .number (.integer 1))] :=
  ⟨_, .json, rfl, by with_unfolding_all rfl, rfl⟩

/-- The second file holds an object. -/
theorem DataFormat.holds_new : Holds .ledger ⟨"new.json"⟩ [("n", .number (.integer 2))] :=
  ⟨_, .json, rfl, by with_unfolding_all rfl, rfl⟩

/-- The third file holds no object. -/
theorem DataFormat.suffers_list : Suffers .ledger ⟨"list.json"⟩ .notMapping :=
  have known : ofExtension? (extension ⟨"list.json"⟩) = some .json := by with_unfolding_all rfl
  have read : DataFormat.json.read "[3]" = .ok (.array [.number (.integer 3)]) := rfl
  .notMapping rfl known read (by simp)

/-- Of two assignments, with blanks and a further equals sign, the last one counts, and of two files
the last one does. A file with an array stops the command though a file that is missing comes after
it. -/
theorem Command.render_binds_ledger :
    (∃ template library,
      Library.load ∅ (RenderOptions.ledger.applyTo .default) .ledger "page.tpl" =
        .ok (template, library) ∧
      ∃ m : Machine, m.Starts (RenderOptions.ledger.applyTo .default) .ledger library ∧
      m.context.get? "title" = some (.ofText " a=b") ∧ m.context.get? "n" = some (.ofWhole 2) ∧
      ∀ fuel, Command.run fuel "2024-02-29T23:59:59Z" .ledger (.render "page.tpl" .ledger) =
        RenderOptions.ledger.report? "page.tpl" (template.render
          ⟨.silent, RenderOptions.ledger.applyTo .default⟩ fuel m)) ∧
    ∃ report : Report, report.Blames .ledger ⟨"list.json"⟩ .notMapping ∧
      ∀ fuel name, Command.run fuel "2024-02-29T23:59:59Z" .ledger (.render name
        { RenderOptions.ledger with data := [⟨"old.json"⟩, ⟨"list.json"⟩, ⟨"gone.json"⟩] }) =
          some report := by
  have first : Assignment.ofText? "title=c" = some ⟨"title", "c"⟩ := by decide
  have second : Assignment.ofText? " title = a=b" = some ⟨"title", " a=b"⟩ := by decide
  have read : List.Forall₂ (fun s a => Assignment.ofText? s = some a)
      ["title=c", " title = a=b"] RenderOptions.ledger.assignments :=
    .cons first (.cons second .nil)
  constructor
  · obtain ⟨template, library, known⟩ : ∃ template library,
        Library.load ∅ (RenderOptions.ledger.applyTo .default) .ledger "page.tpl" =
          .ok (template, library) := ⟨_, _, by with_unfolding_all rfl⟩
    obtain ⟨m, starts, precedence, run⟩ := (@Command.render_binds _ _ "2024-02-29T23:59:59Z" .ledger
      .ledger _ _ rfl read).1 _ (.cons DataFormat.holds_old (.cons DataFormat.holds_new .nil))
      "page.tpl" template library known
    refine ⟨template, library, known, m, starts,
      (precedence "title").eq_of_concat ["title=c"] second, ?_, run⟩
    have unset : NoneGives (Assignment.Gives "n") ["title=c", " title = a=b"] := by
      have none_ : NoneGives (Assignment.Gives "n") [] := nofun
      refine (none_.cons fun text given => ?_).cons fun text given => ?_
      · exact absurd ((Assignment.gives_iff second "n" text).mp given).1 (by decide)
      · exact absurd ((Assignment.gives_iff first "n" text).mp given).1 (by decide)
    have has : Document.Has "n" [("n", .number (.integer 2))] (.number (.integer 2)) := rfl
    obtain ⟨before, found⟩ := (precedence "n").exists_of_concat [_] unset has
    exact found
  · obtain ⟨before, p, after, fault, split, all, suffers, report, blames, run⟩ :=
      (@Command.render_binds _ _ "2024-02-29T23:59:59Z" .ledger { RenderOptions.ledger with
        data := [⟨"old.json"⟩, ⟨"list.json"⟩, ⟨"gone.json"⟩] } _ _ rfl read).2
        ⟨⟨"list.json"⟩, by simp, _, DataFormat.suffers_list⟩
    have old : ∀ q ∈ [(⟨"old.json"⟩ : Path)], ∃ fields, DataFormat.Holds .ledger q fields := by
      intro q member
      rw [List.mem_singleton.mp member]
      exact ⟨_, DataFormat.holds_old⟩
    have first : [(⟨"old.json"⟩ : Path)] ++ ⟨"list.json"⟩ :: [⟨"gone.json"⟩] =
      before ++ p :: after := split
    obtain ⟨rfl, rfl⟩ :=
      DataFormat.first_suffers_unique first old DataFormat.suffers_list all suffers
    exact ⟨report, blames, run⟩

end TextTemplate

import TextTemplate.Command.Run
import TextTemplate.Proofs.Template.Reading
/-!
# Names are checked each on its own

The names of one check share a library. It fills up with what was read, and different spellings of a
name meet in it; but it never holds anything other than what the files hold (`Library.Mirrors`), and
a template that could not be read leaves no trace. So a name is judged as if it were checked alone
(`Verdict.checkAll_eq`). Main statement: the report on several names is put together from the
reports on each of them (`Command.check_each`).
-/
namespace TextTemplate

namespace Library

variable {config : Config} {files : FileTree} {library : Library} {name : String}

/-- All that is known is what the files hold. -/
def Mirrors (config : Config) (files : FileTree) (library : Library) : Prop :=
  ∀ key t, library.get? key = some t → fetch config files key = .ok t

/-- A library that knows no template mirrors all files. -/
theorem mirrors_empty (config : Config) (files : FileTree) : Mirrors config files ∅ :=
  fun _ _ found => by cases found

/-- A template that is known is loaded as its file holds it, and so is one that is not. -/
theorem Mirrors.load_eq (mirrors : library.Mirrors config files) (name : String) :
    (library.load config files name).map (·.1) = fetch config files (normalise name) := by
  rw [Library.load_eq]
  cases known : library.get? (normalise name) with
  | some t =>
    have held := mirrors _ t known
    simp [held, Except.map]
  | none => cases fetch config files (normalise name) <;> rfl

/-- Loading a template brings nothing into the library but what the files hold. -/
theorem Mirrors.load {after : Library} {t : Template} (mirrors : library.Mirrors config files)
    (loaded : library.load config files name = .ok (t, after)) : after.Mirrors config files := by
  have held : fetch config files (normalise name) = .ok t := by
    rw [← mirrors.load_eq, loaded]
    rfl
  rcases load_cases loaded with ⟨-, rfl⟩ | ⟨-, rfl, -⟩
  · exact mirrors
  · intro key other found
    rw [Table.get?_insert] at found
    by_cases same : normalise name = key
    · rw [if_pos same] at found
      cases found
      rw [← same]
      exact held
    · rw [if_neg same] at found
      exact mirrors key other found

/-- A template that a file holds has the name under which the file was looked for. -/
theorem name_of_fetch {key : String} {t : Template} (fetched : fetch config files key = .ok t) :
    t.name = key := by
  obtain ⟨source, read⟩ := parse_of_fetch fetched
  exact (Source.regular_of_parse read).1

end Library

namespace Verdict

variable {config : Config} {files : FileTree} {library : Library}

/-- What comes of reading the file of a name, whatever else is read. -/
def alone (config : Config) (files : FileTree) (name : String) : Verdict :=
  ⟨name, (Library.fetch config files (Library.normalise name)).map (·.name)⟩

/-- From a library that mirrors the files, a name has the verdict that it has alone. -/
theorem check_of_mirrors (mirrors : library.Mirrors config files) (name : String) :
    (check config files library name).1 = alone config files name ∧
      (check config files library name).2.Mirrors config files := by
  have held := mirrors.load_eq name
  unfold check alone
  cases loaded : library.load config files name with
  | error error =>
    rw [loaded] at held
    rw [← held]
    exact ⟨rfl, mirrors⟩
  | ok result =>
    obtain ⟨t, after⟩ := result
    rw [loaded] at held
    rw [← held]
    exact ⟨rfl, mirrors.load loaded⟩

/-- From a library that mirrors the files, each of several names has the verdict that it has alone.
-/
theorem checkAll_eq (mirrors : library.Mirrors config files) (names : List String) :
    checkAll config files library names = names.map (alone config files) := by
  induction names generalizing library with
  | nil => rfl
  | cons name names ih =>
    obtain ⟨verdict, after⟩ := check_of_mirrors mirrors name
    rw [List.map_cons, ← ih after, ← verdict]
    rfl

end Verdict

namespace Report

/-- The configuration of a check. -/
def checkConfig (templates : Option Path) : Config :=
  { Config.default with templateDir := templates }

variable (files : FileTree) (templates : Option Path)

/-- Whether all goes well when a name is checked alone. -/
def passes (name : String) : Bool := (checkTemplates files [name] templates).status == 0

/-- The line about a name that passes. -/
def okLine (name : String) : String := s!"ok    {Library.normalise name}\n"

/-- The line about a name that fails. -/
def errorLine (name : String) : String :=
  match Library.fetch (checkConfig templates) files (Library.normalise name) with
  | .ok _ => ""
  | .error error => s!"error {name}: {error.message}\n"

/-- The line that counts the names that fail. -/
def countLine (failed total : Nat) : String :=
  s!"Error: {failed} of {total} template(s) failed to parse\n"

/-- The report that is put together from what each of the names gives. -/
def gathered (names : List String) : Report where
  status := if names.all (passes files templates) then 0 else 1
  output := String.join ((names.filter (passes files templates)).map okLine)
  notes :=
    String.join ((names.filter (!passes files templates ·)).map (errorLine files templates)) ++
      if names.all (passes files templates) then ""
      else countLine (names.countP (!passes files templates ·)) names.length
  files := files

section Lines

/-- The verdict of a name. -/
abbrev verdict (name : String) : Verdict := Verdict.alone (checkConfig templates) files name

/-- The line that one name puts out is that it is right, if it is. -/
theorem outputLine_alone (name : String) :
    (verdict files templates name).outputLine =
      if (verdict files templates name).passes then okLine name else "" := by
  unfold verdict Verdict.alone Verdict.passes Verdict.outputLine okLine
  cases fetched : Library.fetch (checkConfig templates) files (Library.normalise name) with
  | error error => rfl
  | ok t =>
    have named := Library.name_of_fetch fetched
    rw [← named]
    rfl

/-- The line that is noted for one name is what is wrong with it, if anything is. -/
theorem noteLine_alone (name : String) :
    (verdict files templates name).noteLine =
      if !(verdict files templates name).passes then errorLine files templates name else "" := by
  unfold verdict Verdict.alone Verdict.passes Verdict.noteLine errorLine
  cases Library.fetch (checkConfig templates) files (Library.normalise name) <;> rfl

/-- Empty texts make no difference to texts that are put together. -/
theorem join_map_ite {α : Type} (chosen : α → Bool) (text : α → String) (xs : List α) :
    String.join (xs.map fun x => if chosen x then text x else "") =
      String.join ((xs.filter chosen).map text) := by
  induction xs with
  | nil => rfl
  | cons x xs ih =>
    cases here : chosen x with
    | true => simp [here, ih]
    | false => simp [here, ih]

/-- The line that counts is that of a trouble without causes. -/
theorem text_failed (failed total : Nat) :
    Trouble.text ⟨s!"{failed} of {total} template(s) failed to parse", []⟩ =
      countLine failed total := by
  have plain : ∀ text : String, toString text = text := fun _ => rfl
  simp [Trouble.text, countLine, plain, String.append_assoc]

/-- The report on names, told by their verdicts. -/
theorem checkTemplates_eq (names : List String) :
    checkTemplates files names templates =
      let good name := (verdict files templates name).passes
      { status := if names.all good then 0 else 1
        output := String.join ((names.filter good).map okLine)
        notes := String.join ((names.filter (!good ·)).map (errorLine files templates)) ++
          if names.all good then "" else countLine (names.countP (!good ·)) names.length
        files := files } := by
  have verdicts : Verdict.checkAll (checkConfig templates) files ∅ names =
      names.map (verdict files templates) :=
    Verdict.checkAll_eq (Library.mirrors_empty _ _) names
  have output : (names.map (verdict files templates)).map (·.outputLine) = names.map fun name =>
      if (verdict files templates name).passes then okLine name else "" := by
    simp only [List.map_map, Function.comp_def, outputLine_alone]
  have notes : (names.map (verdict files templates)).map (·.noteLine) = names.map fun name =>
      if !(verdict files templates name).passes then errorLine files templates name else "" := by
    simp only [List.map_map, Function.comp_def, noteLine_alone]
  have failed : (names.map (verdict files templates)).countP (!·.passes) =
      names.countP fun name => !(verdict files templates name).passes := by
    simp only [List.countP_map, Function.comp_def]
  have none_ : names.countP (fun name => !(verdict files templates name).passes) = 0 ↔
      names.all (fun name => (verdict files templates name).passes) = true := by
    simp [List.countP_eq_zero, List.all_eq_true]
  have config : ({ Config.default with templateDir := templates } : Config) =
      checkConfig templates := rfl
  unfold checkTemplates
  simp only [config, verdicts, output, notes, failed, join_map_ite, none_]
  by_cases good : names.all (fun name => (verdict files templates name).passes) = true
  · have empty : names.filter (fun name => !(verdict files templates name).passes) = [] := by
      simpa [List.filter_eq_nil_iff] using good
    simp [good, empty, success]
  · simp only [good, text_failed, failureStatus, if_false, Bool.false_eq_true]

/-- A name passes alone exactly if its file holds a template. -/
theorem passes_eq (name : String) :
    passes files templates name = (verdict files templates name).passes := by
  rw [passes, checkTemplates_eq]
  cases here : (verdict files templates name).passes <;> simp [here]

end Lines

end Report

/-- A name that is checked together with others has the verdict that it has alone, whatever the
others are and in whatever order they stand; and the report on names, none of which is left out or
told twice, is put together from those on each of them: in order, the line about each name that
passes alone, as it is then, and the line about each that fails alone, as it is then, and in the end
how many fail, if any does. All goes well exactly if every name passes alone, and no file is
changed. -/
theorem Command.check_each (fuel : Nat) (now : String) (files : FileTree) (templates : Option Path)
    (names : List String) :
    Verdict.checkAll (Report.checkConfig templates) files ∅ names =
        names.map (Verdict.alone (Report.checkConfig templates) files) ∧
      Command.run fuel now files (.check names templates) =
        some (Report.gathered files templates names) ∧
      ∀ name, Command.run fuel now files (.check [name] templates) = some
        (if Report.passes files templates name then ⟨0, Report.okLine name, "", files⟩
        else ⟨1, "", Report.errorLine files templates name ++ Report.countLine 1 1, files⟩) := by
  have told : ∀ names, Command.run fuel now files (.check names templates) =
      some (Report.gathered files templates names) := by
    intro names
    have same : Report.passes files templates =
        fun name => (Report.verdict files templates name).passes :=
      funext (Report.passes_eq files templates)
    rw [Command.run, Report.checkTemplates_eq, Report.gathered, same]
  refine ⟨Verdict.checkAll_eq (Library.mirrors_empty _ _) names, told names, fun name => ?_⟩
  rw [told [name], Report.gathered]
  cases here : Report.passes files templates name with
  | true => simp [here]
  | false => simp [here]

end TextTemplate

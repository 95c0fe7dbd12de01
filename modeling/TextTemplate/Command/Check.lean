import TextTemplate.Command.Report
import TextTemplate.Engine.Library

/-!
# Checking templates

To check a template is to load it. The templates of one command share a library, so a template is
read once, however often and in whatever spelling it is named.
-/
namespace TextTemplate

/-- What came of checking one name: the name of the template, or what is wrong with it. -/
structure Verdict where
  /-- The name as it was given. -/
  given : String
  /-- The name of the template or the error. -/
  result : Except RenderError String

namespace Verdict

/-- Whether the template is in order. -/
def passes (verdict : Verdict) : Bool := verdict.result.isOk

/-- The line for the output. -/
def outputLine (verdict : Verdict) : String :=
  match verdict.result with
  | .ok name => s!"ok    {name}\n"
  | .error _ => ""

/-- The line for the user. -/
def noteLine (verdict : Verdict) : String :=
  match verdict.result with
  | .ok _ => ""
  | .error error => s!"error {verdict.given}: {error.message}\n"

/-- Check one name; a template that is in order is known from then on. -/
def check (config : Config) (files : FileTree) (library : Library) (name : String) :
    Verdict × Library :=
  match library.load config files name with
  | .ok (template, library) => (⟨name, .ok template.name⟩, library)
  | .error error => (⟨name, .error error⟩, library)

/-- Check names in order. -/
def checkAll (config : Config) (files : FileTree) : Library → List String → List Verdict
  | _, [] => []
  | library, name :: names =>
    let (verdict, library) := check config files library name
    verdict :: checkAll config files library names

end Verdict

/-- Report on the templates of the given names. -/
def checkTemplates (files : FileTree) (names : List String) (templates : Option Path) : Report :=
  let verdicts := Verdict.checkAll { Config.default with templateDir := templates } files ∅ names
  let output := String.join (verdicts.map (·.outputLine))
  let notes := String.join (verdicts.map (·.noteLine))
  let failed := verdicts.countP fun verdict => !verdict.passes
  if failed = 0 then .success files output notes
  else
    let trouble : Trouble := ⟨s!"{failed} of {names.length} template(s) failed to parse", []⟩
    ⟨Report.failureStatus, output, notes ++ trouble.text, files⟩

end TextTemplate

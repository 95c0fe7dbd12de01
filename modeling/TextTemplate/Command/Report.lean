import TextTemplate.Command.Trouble

/-!
# Reports

A report is what a command leaves behind: its exit status, the texts for the two outputs of the
program, and the files.
-/
namespace TextTemplate

/-- What a command leaves behind. -/
structure Report where
  /-- Zero if all went well. -/
  status : Nat
  /-- The text for the output. -/
  output : String
  /-- The text for the user. -/
  notes : String
  /-- The files after the command. -/
  files : FileTree

namespace Report

/-- The status of a command that failed. -/
def failureStatus : Nat := 1

/-- The status of a command line that is wrong. -/
def usageStatus : Nat := 2

/-- All went well. -/
def success (files : FileTree) (output notes : String) : Report := ⟨0, output, notes, files⟩

/-- A command failed before it put anything out. -/
def failure (files : FileTree) (trouble : Trouble) : Report :=
  ⟨failureStatus, "", trouble.text, files⟩

/-- The line about a file that was to be created, if there is one. -/
def outcomeLine : SaveOutcome → String
  | .written path => s!"  wrote     {path.text}\n"
  | .unchanged _ => ""
  | .failed path failure => s!"  failed    {path.text} ({failure.message})\n"

/-- Whether a file was written. -/
def isWritten : SaveOutcome → Bool
  | .written _ => true
  | _ => false

/-- Whether a file was left alone. -/
def isUnchanged : SaveOutcome → Bool
  | .unchanged _ => true
  | _ => false

/-- Whether a file could not be written. -/
def isFailed : SaveOutcome → Bool
  | .failed _ _ => true
  | _ => false

/-- What became of the created files; nothing is said if none was to be created. -/
def summary (outcomes : List SaveOutcome) : String :=
  if outcomes.isEmpty then ""
  else
    let written := outcomes.countP isWritten
    let unchanged := outcomes.countP isUnchanged
    let failed := outcomes.countP isFailed
    String.join (outcomes.map outcomeLine) ++
      s!"{written} written, {unchanged} unchanged, {failed} failed\n"

end Report

end TextTemplate

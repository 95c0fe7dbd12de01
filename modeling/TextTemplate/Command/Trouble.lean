import TextTemplate.Engine.ConfigFile
import TextTemplate.Engine.Error
import TextTemplate.Data.File

/-!
# Troubles

A trouble is why a command failed: what could not be done, and the causes, nearest first. It is
shown with its causes indented below it; several causes are numbered.
-/
namespace TextTemplate

/-- Why a command failed. -/
structure Trouble where
  /-- What could not be done. -/
  head : String
  /-- The causes, nearest first. -/
  causes : List String
deriving DecidableEq, Repr

namespace Trouble

/-- A text whose lines after the first are indented. -/
def indented (width : Nat) (text : String) : List Char :=
  text.toList.flatMap fun c => if c = '\n' then '\n' :: List.replicate width ' ' else [c]

/-- The only cause. -/
def singleCause (cause : String) : String :=
  "    " ++ String.ofList (indented 4 cause) ++ "\n"

/-- A cause with its number, which ends in the fifth column. -/
def numberedCause (number : Nat) (cause : String) : String :=
  let digits := toString number
  let margin := String.ofList (List.replicate (5 - digits.length) ' ')
  margin ++ digits ++ ": " ++ String.ofList (indented 7 cause) ++ "\n"

/-- The causes in the order given. -/
def causesText : List String → String
  | [cause] => singleCause cause
  | causes => String.join (causes.mapIdx numberedCause)

/-- What a user is shown. -/
def text (trouble : Trouble) : String :=
  if trouble.causes.isEmpty then s!"Error: {trouble.head}\n"
  else s!"Error: {trouble.head}\n\nCaused by:\n" ++ causesText trouble.causes

/-- What could not be done because of an operation on files. -/
def ofFileError (head : String) (cause : FileError) : Trouble := ⟨head, [cause.message]⟩

/-- What could not be done because of a render error, which may have a cause of its own. -/
def ofRenderError (head : String) (error : RenderError) : Trouble :=
  let deeper := match error with
    | .file failure => [failure.cause.message]
    | .refused => ["an error occurred when formatting an argument"]
    | .scope cause => [cause.message]
    | _ => []
  ⟨head, error.message :: deeper⟩

/-- What could not be done because of a configuration file. -/
def ofConfigError (head : String) (error : ConfigError) : Trouble :=
  let deeper := match error with
    | .unreadable failure => [failure.cause.message]
    | .malformed fault => [fault.cause]
  ⟨head, error.message :: deeper⟩

/-- A data file could not be bound. -/
def ofDataError (error : DataError) : Trouble :=
  let causes := match error.fault with
    | .unreadable cause => [cause.message]
    | .malformed _ cause => [cause]
    | _ => []
  ⟨error.message, causes⟩

end Trouble

end TextTemplate

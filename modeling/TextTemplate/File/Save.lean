import TextTemplate.File.Tree

/-!
# Saving a file

A file is saved so that no reader finds it half written: its text is written beside it under
another name, and then moved into its place. Missing directories are made; a file that holds the
text already is left alone. A failure is an outcome and not an error, so that whoever creates files
can go on.
-/
namespace TextTemplate

/-- An operation on a path that failed. -/
structure FileFailure where
  /-- The path. -/
  path : Path
  /-- Why it failed. -/
  cause : FileError
deriving DecidableEq, Repr

namespace FileFailure

/-- What a user is told. -/
def message (failure : FileFailure) : String :=
  s!"template io error at {failure.path.text}: {failure.cause.message}"

end FileFailure

/-- Why a file was not created. -/
inductive SaveFailure
  /-- An operation on files failed. -/
  | file (failure : FileFailure)
  /-- The name of the file is empty. -/
  | emptyName (template : String) (line : Nat)
deriving DecidableEq, Repr

namespace SaveFailure

/-- What a user is told. -/
def message : SaveFailure → String
  | .file failure => failure.message
  | .emptyName template line => s!"empty file name in '{template}' at line {line}"

end SaveFailure

/-- What became of a file that was to be created. -/
inductive SaveOutcome
  | written (path : Path)
  | unchanged (path : Path)
  | failed (path : Path) (failure : SaveFailure)
deriving DecidableEq, Repr

namespace FileTree

/-- The path beside a file under which its text is written first. -/
def scratchPath (p : Path) : Path := p.withSuffix ".stencil.tmp"

/-- The directory of a path, unless it is the working directory or there is none. -/
def enclosingDirectory? (p : Path) : Option Path := p.parent?.filter (·.text ≠ "")

/-- Make the directory of a path. -/
def makeEnclosing (tree : FileTree) (p : Path) : FileTree × Option FileFailure :=
  match enclosingDirectory? p with
  | none => (tree, none)
  | some dir =>
    let (made, failure) := tree.makeDirectories dir
    (made, failure.map (⟨dir, ·⟩))

/-- Write a text beside its file and move it into its place; what was written beside is removed if
it cannot be moved. -/
def replaceText (tree : FileTree) (p : Path) (text : String) : FileTree × Option FileFailure :=
  match tree.write (scratchPath p) text.toUTF8 with
  | .error cause => (tree, some ⟨scratchPath p, cause⟩)
  | .ok written =>
    match written.moveFile (scratchPath p) p with
    | .ok moved => (moved, none)
    | .error cause =>
      let cleared := match written.removeFile (scratchPath p) with
        | .ok cleared => cleared
        | .error _ => written
      (cleared, some ⟨p, cause⟩)

/-- Save a text under a path. -/
def save (tree : FileTree) (p : Path) (text : String) : FileTree × SaveOutcome :=
  if (tree.readText p).toOption = some text then (tree, .unchanged p)
  else match tree.makeEnclosing p with
    | (made, some failure) => (made, .failed p (.file failure))
    | (made, none) =>
      match made.replaceText p text with
      | (after, some failure) => (after, .failed p (.file failure))
      | (after, none) => (after, .written p)

/-- A file that holds the text already is left alone. -/
theorem save_of_readText {tree : FileTree} {p : Path} {text : String}
    (same : tree.readText p = .ok text) : tree.save p text = (tree, .unchanged p) := by
  simp [save, same, Except.toOption]

end FileTree

end TextTemplate

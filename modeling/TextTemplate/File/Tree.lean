import TextTemplate.File.Path
import TextTemplate.File.Place
import TextTemplate.Table

/-!
# File trees

A tree of directories and regular files, with the directory from which relative paths start. An
operation follows a path name by name and either fails with a `FileError` and changes nothing, or
gives the tree after it. The errors, and which of two comes first, are those of a POSIX system.

There are no links in a tree: no name stands for a path, and no two names share the bytes of one
file. So a tree tells what an operation does wherever no link, symbolic or hard, stands at the paths
that it is given or on the way to them.
-/
namespace TextTemplate

/-- Why an operation on files fails. -/
inductive FileError
  | notFound
  | exists
  | notDirectory
  | isDirectory
  | busy
  | nameTooLong
  /-- A path holds a zero character. -/
  | invalidName
  /-- A file is read as text and its bytes are no UTF-8. -/
  | invalidText
deriving DecidableEq, Repr

namespace FileError

/-- What the operating system says. -/
def message : FileError → String
  | .notFound => "No such file or directory (os error 2)"
  | .exists => "File exists (os error 17)"
  | .notDirectory => "Not a directory (os error 20)"
  | .isDirectory => "Is a directory (os error 21)"
  | .busy => "Device or resource busy (os error 16)"
  | .nameTooLong => "File name too long (os error 36)"
  | .invalidName => "file name contained an unexpected NUL byte"
  | .invalidText => "stream did not contain valid UTF-8"

end FileError

/-- What stands at a place. -/
inductive Entry
  | directory
  | file (bytes : ByteArray)

/-- Two files are the same if they hold the same bytes. -/
instance : DecidableEq Entry
  | .directory, .directory => .isTrue rfl
  | .directory, .file _ | .file _, .directory => .isFalse (by simp)
  | .file a, .file b =>
    match decEq a.data b.data with
    | .isTrue same => .isTrue (congrArg Entry.file (ByteArray.ext same))
    | .isFalse differ => .isFalse fun same => differ (congrArg ByteArray.data (Entry.file.inj same))

/-- Directories and files, and the working directory. -/
structure FileTree where
  /-- What stands where; the root is a directory and is not listed. -/
  entries : Table Place Entry
  /-- The directory from which relative paths start. -/
  home : Place

namespace FileTree

/-- The greatest length of a name, in bytes. -/
def maxName : Nat := 255

/-- The greatest length of a path, in bytes. -/
def maxPath : Nat := 4095

/-- What stands at a place. -/
def entry? (tree : FileTree) (place : Place) : Option Entry :=
  if place = .root then some .directory else tree.entries.get? place

/-- Whether a directory stands at a place. -/
def isDirectoryAt (tree : FileTree) (place : Place) : Bool := tree.entry? place == some .directory

/-- Put an entry at a place. -/
def insert (tree : FileTree) (place : Place) (entry : Entry) : FileTree :=
  { tree with entries := tree.entries.insert place entry }

/-- Take away what stands at a place. -/
def erase (tree : FileTree) (place : Place) : FileTree :=
  { tree with entries := tree.entries.erase place }

/-- Follow one name. -/
def step (tree : FileTree) (place : Place) (name : String) : Except FileError Place :=
  if tree.isDirectoryAt place then
    if name = "." then .ok place
    else if name = ".." then .ok place.parent
    else if maxName < name.utf8ByteSize then .error .nameTooLong
    else if (tree.entry? (place.child name)).isSome then .ok (place.child name)
    else .error .notFound
  else .error .notDirectory

/-- Follow names. -/
def walk (tree : FileTree) (place : Place) (names : List String) : Except FileError Place :=
  names.foldlM tree.step place

/-- The place from which a path starts. -/
def origin (tree : FileTree) (p : Path) : Place := if p.isAbsolute then .root else tree.home

/-- What makes a path unfit for any operation. -/
def check (p : Path) : Except FileError Unit :=
  if p.text.toList.contains (Char.ofNat 0) then .error .invalidName
  else if p.text.isEmpty then .error .notFound
  else if maxPath < p.text.utf8ByteSize then .error .nameTooLong
  else .ok ()

/-- The place of a path at which something stands. -/
def locate (tree : FileTree) (p : Path) : Except FileError Place := do
  check p
  let place ← tree.walk (tree.origin p) p.names
  if p.endsWithSlash && !tree.isDirectoryAt place then .error .notDirectory else return place

/-- Where the last name of a path is to be found. -/
structure Target where
  /-- The directory. -/
  parent : Place
  /-- The last name; none for the root and for a last name of dots. -/
  name : Option String

/-- The directory of a path's last name, which must exist; the name need not. -/
def target (tree : FileTree) (p : Path) : Except FileError Target := do
  let parent ← tree.walk (tree.origin p) p.names.dropLast
  if tree.isDirectoryAt parent then
    return ⟨parent, p.names.getLast?.filter fun name => name ≠ "." ∧ name ≠ ".."⟩
  else .error .notDirectory

/-- What stands under a name in a directory. -/
def child? (tree : FileTree) (parent : Place) (name : String) :
    Except FileError (Option Entry) :=
  if maxName < name.utf8ByteSize then .error .nameTooLong
  else .ok (tree.entry? (parent.child name))

/-- What stands at a path. -/
def stat (tree : FileTree) (p : Path) : Except FileError Entry := do
  match tree.entry? (← tree.locate p) with
  | some entry => return entry
  | none => .error .notFound

/-- Whether a file stands at a path. -/
def isFile (tree : FileTree) (p : Path) : Bool :=
  match tree.stat p with
  | .ok (.file _) => true
  | _ => false

/-- Whether a directory stands at a path. -/
def isDirectory (tree : FileTree) (p : Path) : Bool :=
  match tree.stat p with
  | .ok .directory => true
  | _ => false

/-- The bytes of a file. -/
def read (tree : FileTree) (p : Path) : Except FileError ByteArray := do
  match ← tree.stat p with
  | .file bytes => return bytes
  | .directory => .error .isDirectory

/-- The text of a file. -/
def readText (tree : FileTree) (p : Path) : Except FileError String := do
  match String.fromUTF8? (← tree.read p) with
  | some text => return text
  | none => .error .invalidText

/-- Make a directory. -/
def makeDirectory (tree : FileTree) (p : Path) : Except FileError FileTree := do
  check p
  let ⟨parent, name⟩ ← tree.target p
  match name with
  | none => .error .exists
  | some name =>
    match ← tree.child? parent name with
    | some _ => .error .exists
    | none => return tree.insert (parent.child name) .directory

/-- Write a file, in place of one that stands there. -/
def write (tree : FileTree) (p : Path) (bytes : ByteArray) : Except FileError FileTree := do
  check p
  let ⟨parent, name⟩ ← tree.target p
  match name with
  | none => .error .isDirectory
  | some name =>
    if p.endsWithSlash then .error .isDirectory
    else match ← tree.child? parent name with
      | some .directory => .error .isDirectory
      | _ => return tree.insert (parent.child name) (.file bytes)

/-- Move a file to another path, in place of a file that stands there. Directories are not moved. -/
def moveFile (tree : FileTree) (source dest : Path) : Except FileError FileTree := do
  check source
  check dest
  let ⟨fromDir, fromName⟩ ← tree.target source
  let ⟨toDir, toName⟩ ← tree.target dest
  match fromName, toName with
  | some fromName, some toName =>
    match ← tree.child? fromDir fromName with
    | none => .error .notFound
    | some .directory => .error .isDirectory
    | some (.file bytes) =>
      let old ← tree.child? toDir toName
      if source.endsWithSlash || dest.endsWithSlash then .error .notDirectory
      else if old = some .directory then .error .isDirectory
      else return (tree.erase (fromDir.child fromName)).insert (toDir.child toName) (.file bytes)
  | _, _ => .error .busy

/-- Remove a file. -/
def removeFile (tree : FileTree) (p : Path) : Except FileError FileTree := do
  check p
  let ⟨parent, name⟩ ← tree.target p
  match name with
  | none => .error .isDirectory
  | some name =>
    match ← tree.child? parent name with
    | none => .error .notFound
    | some .directory => .error .isDirectory
    | some (.file _) =>
      if p.endsWithSlash then .error .notDirectory else return tree.erase (parent.child name)

/-- The directories among these paths that are missing, outermost first, after the outermost missing
one was made; paths come innermost first. -/
def makeOutermost (tree : FileTree) (missing : List Path) :
    List Path → Except FileError (FileTree × List Path)
  | [] => .ok (tree, missing)
  | p :: outer =>
    match tree.makeDirectory p with
    | .ok made => .ok (made, missing)
    | .error .notFound => makeOutermost tree (p :: missing) outer
    | .error .exists => if tree.isDirectory p then .ok (tree, missing) else .error .exists
    | .error cause => .error cause

/-- Make directories in order, up to the first that fails; one that is there already is passed
over. -/
def makeInOrder (tree : FileTree) : List Path → FileTree × Option FileError
  | [] => (tree, none)
  | p :: rest =>
    match tree.makeDirectory p with
    | .ok made => makeInOrder made rest
    | .error cause =>
      if cause = .exists ∧ tree.isDirectory p then makeInOrder tree rest else (tree, some cause)

/-- Make a directory and those around it that are missing. A failure may leave some of them made. -/
def makeDirectories (tree : FileTree) (p : Path) : FileTree × Option FileError :=
  match makeOutermost tree [] p.ancestors with
  | .ok (made, missing) => makeInOrder made missing
  | .error cause => (tree, some cause)

/-- The tree with the directories that names lead to, the innermost name first. -/
def openNames (tree : FileTree) : List String → FileTree
  | [] => tree
  | name :: outer =>
    let tree := tree.openNames outer
    let place : Place := ⟨name :: outer⟩
    if (tree.entry? place).isSome then tree else tree.insert place .directory

/-- The tree with the directories on the way to a place and at it. -/
def openWay (tree : FileTree) (place : Place) : FileTree := tree.openNames place.names

/-- The tree without files whose working directory is the given place. -/
def bare (home : Place) : FileTree := openWay ⟨∅, home⟩ home

/-- All that stands below the working directory, with the names on the way from there, the outermost
first. -/
def listing (tree : FileTree) : List (List String × Entry) :=
  tree.entries.entries.filterMap fun (place, entry) =>
    (tree.home.namesFrom? place).map (·, entry)

end FileTree

end TextTemplate

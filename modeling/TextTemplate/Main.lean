import Std.Time.DateTime.Timestamp
import TextTemplate.Command.Moment
import TextTemplate.Command.Run

/-!
# The program

The program sees the files below the working directory and the files and directories that its
command line and its configuration name. It runs its command on them, and then changes on the disk
what the command changed.
-/
namespace TextTemplate.Program

/-- More than any render of files needs. -/
def fuel : Nat := 1000000000000

/-- The place that an absolute path leads to. -/
def placeOf (path : String) : Place := ⟨(Path.names ⟨path⟩).reverse⟩

/-- The absolute path of a place. -/
def pathOf (place : Place) : String := "/" ++ "/".intercalate place.names.reverse

/-- Add what stands at a place on the disk; what cannot be read is left out. A directory is not
entered on a way that leads through it already. -/
partial def addPlace (way : List String) (tree : FileTree) (place : Place) : IO FileTree := do
  let path ← IO.FS.realPath (pathOf place)
  if ← path.isDir then
    let mut tree := tree.insert place .directory
    unless way.contains path.toString do
      for entry in ← path.readDir do
        let added := addPlace (path.toString :: way) tree (place.child entry.fileName)
        match ← added.toBaseIO with
        | .ok more => tree := more
        | .error _ => pure ()
    return tree
  else
    return tree.insert place (.file (← IO.FS.readBinFile path))

/-- Add what a path leads to, unless it was added before. -/
def addPath (tree : FileTree) (path : Path) : IO FileTree := do
  let place := placeOf (← IO.FS.realPath path.text).toString
  let inside := place = tree.home ∨ (tree.home.namesFrom? place).isSome
  if inside ∧ (tree.entry? place).isSome then return tree
  else addPlace [] (tree.openWay place.parent) place

/-- Add what paths lead to, as far as there is anything. -/
def addPaths (tree : FileTree) (paths : List Path) : IO FileTree :=
  paths.foldlM (fun tree path => do
    match ← (addPath tree path).toBaseIO with
    | .ok more => return more
    | .error _ => return tree) tree

/-- The paths that a command line names. -/
def namedPaths : Command → List Path
  | .render template options =>
    ⟨template⟩ :: options.data ++ options.templates.toList ++ options.outputDir.toList ++
      options.config.toList ++ options.out.toList ++ (options.out.bind Path.parent?).toList
  | .check names templates => names.map Path.mk ++ templates.toList
  | .version | .help => []

/-- The paths that the configuration of a command line names. -/
def configuredPaths (files : FileTree) : Command → List Path
  | .render _ options =>
    match options.loadConfig files with
    | .ok config => config.templateDir.toList ++ config.outputDir.toList
    | .error _ => []
  | _ => []

/-- The files that a command line can see. -/
def visibleFiles (args : List String) : IO FileTree := do
  let home := placeOf (← IO.FS.realPath (← IO.currentDir)).toString
  match Command.read args with
  | .error _ | .ok .version | .ok .help => return .bare home
  | .ok command =>
    let files ← addPlace [] (.bare home) home
    let files ← addPaths files (namedPaths command)
    addPaths files (configuredPaths files command)

/-- Remove from the disk the files that are gone and write those that are new or changed. -/
def applyChanges (before after : FileTree) : IO Unit := do
  for (place, entry) in before.entries.entries do
    if entry ≠ .directory ∧ (after.entry? place).isNone then IO.FS.removeFile (pathOf place)
  for (place, entry) in after.entries.entries do
    if before.entry? place ≠ some entry then
      match entry with
      | .directory => IO.FS.createDirAll (pathOf place)
      | .file bytes => IO.FS.writeBinFile (pathOf place) bytes

/-- The time now. -/
def now : IO Moment := do
  let time ← Std.Time.Timestamp.now
  return ⟨time.toSecondsSinceUnixEpoch.val.toNat⟩

/-- Run the program and give its exit status. -/
def run (args : List String) : IO UInt32 := do
  let files ← visibleFiles args
  match Command.runArguments fuel (← now).text files args with
  | none =>
    IO.eprintln "Error: rendering does not end"
    return 1
  | some report =>
    applyChanges files report.files
    IO.print report.output
    IO.eprint report.notes
    return report.status.toUInt32

end TextTemplate.Program

/-- The entry of the program. -/
def main (args : List String) : IO UInt32 := TextTemplate.Program.run args

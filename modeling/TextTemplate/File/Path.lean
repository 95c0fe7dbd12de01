/-!
# Paths

A path is a text of pieces between slashes. Empty pieces, and single dots other than at the very
front of a relative path, name nothing and are passed over when a path is taken apart. Joining an
absolute path to a directory discards the directory.
-/
namespace TextTemplate

/-- A path to a file or directory, as it is written. -/
structure Path where
  /-- Its text. -/
  text : String
deriving DecidableEq, Repr, Inhabited

namespace Path

/-- The text between slashes. -/
def split : List Char → List (List Char)
  | [] => [[]]
  | c :: rest =>
    match split rest with
    | [] => [[c]]
    | piece :: pieces => if c = '/' then [] :: piece :: pieces else (c :: piece) :: pieces

/-- Whether a path starts from the root. -/
def isAbsolute (p : Path) : Bool := p.text.toList.head? == some '/'

/-- Whether a path ends with a slash, so that it must name a directory. -/
def endsWithSlash (p : Path) : Bool := p.text.toList.getLast? == some '/'

/-- The pieces of a path after its root, if it has one. -/
def pieces (p : Path) : List (List Char) :=
  if p.isAbsolute then split (p.text.toList.drop 1) else split p.text.toList

/-- The names to follow from the root or the working directory; single and double dots are among
them. -/
def names (p : Path) : List String := (p.pieces.filter (· ≠ [])).map String.ofList

/-- Remove, from reversed pieces, those at the front that name nothing. -/
def dropIdle (absolute : Bool) : List (List Char) → List (List Char)
  | [] => []
  | [piece] => if piece = [] ∨ (absolute ∧ piece = ['.']) then [] else [piece]
  | piece :: next :: rest =>
    if piece = [] ∨ piece = ['.'] then dropIdle absolute (next :: rest) else piece :: next :: rest

/-- The pieces of a path from the last to the first, without those at its end that name nothing. -/
def backwards (p : Path) : List (List Char) := dropIdle p.isAbsolute p.pieces.reverse

/-- The path of the given reversed pieces. -/
def ofBackwards (absolute : Bool) (pieces : List (List Char)) : Path :=
  let text := ['/'].intercalate pieces.reverse
  ⟨String.ofList (if absolute then '/' :: text else text)⟩

/-- The path without its last component; the root and the empty path have none. -/
def parent? (p : Path) : Option Path :=
  match p.backwards with
  | [] => none
  | _ :: rest => some (ofBackwards p.isAbsolute (dropIdle p.isAbsolute rest))

/-- The last component, if it is a name. -/
def fileName? (p : Path) : Option (List Char) :=
  match p.backwards with
  | [] => none
  | name :: _ => if name = ['.'] ∨ name = ['.', '.'] then none else some name

/-- The part of the last name after its last dot, if there is a dot after the first character. -/
def extension? (p : Path) : Option String :=
  match p.fileName? with
  | none => none
  | some name =>
    let after := name.reverse.takeWhile (· ≠ '.')
    let before := name.length - after.length
    if before ≤ 1 then none else some (String.ofList after.reverse)

/-- The path followed by another; an absolute one takes its place. -/
def join (dir p : Path) : Path :=
  if p.isAbsolute || dir.text.isEmpty then p
  else if dir.endsWithSlash then ⟨dir.text ++ p.text⟩
  else ⟨dir.text ++ "/" ++ p.text⟩

/-- The path and up to `limit` of the paths around it, innermost first, without the root and the
empty path. -/
def enclosing : Nat → Path → List Path
  | 0, _ => []
  | limit + 1, p =>
    match p.parent? with
    | none => []
    | some outer => p :: enclosing limit outer

/-- The path and all the paths around it, innermost first, without the root and the empty path. -/
def ancestors (p : Path) : List Path := enclosing (p.pieces.length + 1) p

/-- The path with a text put after it. -/
def withSuffix (p : Path) (suffix : String) : Path := ⟨p.text ++ suffix⟩

/-- A path joined to the empty path is unchanged. -/
theorem join_empty (p : Path) : join ⟨""⟩ p = p := by
  simp [join]

/-- An absolute path discards the directory that it is joined to. -/
theorem join_of_isAbsolute (dir : Path) {p : Path} (absolute : p.isAbsolute = true) :
    dir.join p = p := by
  simp [join, absolute]

end Path

end TextTemplate

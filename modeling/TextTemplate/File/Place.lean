/-!
# Places

A place in a tree of directories is told by the names on the way between it and the root. Unlike a
path it says the same from every working directory, and two places are the same only if their names
are.
-/
namespace TextTemplate

/-- A place in a tree of directories and files. -/
structure Place where
  /-- The names on the way to the root, the innermost first. -/
  names : List String

namespace Place

/-- The place of the root. -/
def root : Place := ⟨[]⟩

/-- The place of a name in the directory at a place. -/
def child (place : Place) (name : String) : Place := ⟨name :: place.names⟩

/-- The place of the directory around a place; the root is its own. -/
def parent (place : Place) : Place := ⟨place.names.tail⟩

/-- Whether two ways are the same. Their innermost names, which differ most often, are compared
first. -/
def decideNames : (a b : List String) → Decidable (a = b)
  | [], [] => .isTrue rfl
  | [], _ :: _ | _ :: _, [] => .isFalse nofun
  | name :: outer, other :: rest =>
    if same : name = other then
      match decideNames outer rest with
      | .isTrue around => .isTrue (same ▸ around ▸ rfl)
      | .isFalse differ => .isFalse fun all => differ (List.tail_eq_of_cons_eq all)
    else .isFalse fun all => same (List.head_eq_of_cons_eq all)

/-- Two places are the same if the ways to them are. -/
instance : DecidableEq Place
  | ⟨a⟩, ⟨b⟩ =>
    match decideNames a b with
    | .isTrue same => .isTrue (congrArg mk same)
    | .isFalse differ => .isFalse fun same => differ (mk.inj same)

/-- The names on the way from a directory to a place below it, the outermost first. -/
def namesFrom? (dir place : Place) : Option (List String) :=
  if dir.names.isSuffixOf place.names ∧ place ≠ dir then
    some (place.names.take (place.names.length - dir.names.length)).reverse
  else none

end Place

end TextTemplate

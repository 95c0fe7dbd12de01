/-!
# Sets of characters given by ranges

A character class of Unicode is a list of ranges of code points, sorted and apart from one another.
`Ranges.Holds` is membership; on a sorted list the search may stop at the first range that lies
wholly above the character.
-/
namespace TextTemplate.Text

/-- Ranges of code points, each with both its ends, in ascending order. -/
abbrev Ranges := List (Nat × Nat)

namespace Ranges

/-- Whether a code point lies in one of the ranges, which must be in ascending order. -/
def holds (code : Nat) : Ranges → Bool
  | [] => false
  | (low, high) :: rest =>
    if code < low then false else if code ≤ high then true else holds code rest

/-- A code point that the search finds lies between the ends of one of the ranges. -/
theorem exists_of_holds {code : Nat} {ranges : Ranges} (found : ranges.holds code = true) :
    ∃ range ∈ ranges, range.1 ≤ code ∧ code ≤ range.2 := by
  induction ranges with
  | nil => simp [holds] at found
  | cons range rest ih =>
    simp only [holds] at found
    split at found
    · cases found
    · split at found
      · exact ⟨range, by simp, by omega, by assumption⟩
      · obtain ⟨other, member, bounds⟩ := ih found
        exact ⟨other, by simp [member], bounds⟩

end Ranges

end TextTemplate.Text

import TextTemplate.Text.Ranges

/-!
# Blanks

The characters that count as blank are those with the Unicode property `White_Space`. `trim` drops
them from both ends of a text. Main statement: a trimmed text has no blank at either end, and
trimming it again changes nothing.
-/
namespace TextTemplate.Text

/-- The Unicode property `White_Space`. -/
def blankRanges : Ranges := [
  (0x9, 0xD), (0x20, 0x20), (0x85, 0x85), (0xA0, 0xA0), (0x1680, 0x1680), (0x2000, 0x200A),
  (0x2028, 0x2029), (0x202F, 0x202F), (0x205F, 0x205F), (0x3000, 0x3000)]

/-- Whether a character is blank. -/
def isBlank (c : Char) : Bool := blankRanges.holds c.toNat

/-- Drop the blanks in front. -/
def trimLeft (cs : List Char) : List Char := cs.dropWhile isBlank

/-- Drop the blanks at the end. -/
def trimRight (cs : List Char) : List Char := (cs.reverse.dropWhile isBlank).reverse

/-- Drop the blanks at both ends. -/
def trim (cs : List Char) : List Char := trimRight (trimLeft cs)

/-- Drop the blanks at both ends of a text. -/
def trimText (text : String) : String := String.ofList (trim text.toList)

/-- A left-trimmed text does not begin with a blank. -/
theorem head?_trimLeft {cs : List Char} {c : Char} (first : (trimLeft cs).head? = some c) :
    isBlank c = false := by
  have stop := List.head?_dropWhile_not isBlank cs
  rw [show cs.dropWhile isBlank = trimLeft cs from rfl, first] at stop
  simpa using stop

/-- A right-trimmed text is what a run of blanks is cut from. -/
theorem trimRight_append_blanks (cs : List Char) :
    ∃ blanks, cs = trimRight cs ++ blanks ∧ ∀ c ∈ blanks, isBlank c = true := by
  refine ⟨(cs.reverse.takeWhile isBlank).reverse, ?_, ?_⟩
  · rw [trimRight, ← List.reverse_append, List.takeWhile_append_dropWhile, List.reverse_reverse]
  · intro c member
    exact List.all_eq_true.1 List.all_takeWhile c (List.mem_reverse.1 member)

/-- What is left of a text after the end was trimmed begins like the text. -/
theorem head?_of_head?_trimRight {cs : List Char} {c : Char}
    (first : (trimRight cs).head? = some c) : cs.head? = some c := by
  obtain ⟨blanks, split, -⟩ := trimRight_append_blanks cs
  rw [split, List.head?_append, first, Option.some_or]

/-- Trimming cuts a run of blanks from either end. -/
theorem eq_append_trim (cs : List Char) :
    ∃ before after, cs = before ++ trim cs ++ after ∧
      (∀ c ∈ before, isBlank c = true) ∧ (∀ c ∈ after, isBlank c = true) := by
  obtain ⟨after, split, blank⟩ := trimRight_append_blanks (trimLeft cs)
  refine ⟨cs.takeWhile isBlank, after, ?_, ?_, blank⟩
  · rw [List.append_assoc, trim, ← split, trimLeft, List.takeWhile_append_dropWhile]
  · exact fun c member => List.all_eq_true.1 List.all_takeWhile c member

/-- Blanks in front do not matter to a left-trimmed text. -/
theorem trimLeft_append_blanks {gap cs : List Char} (blank : ∀ c ∈ gap, isBlank c = true) :
    trimLeft (gap ++ cs) = trimLeft cs :=
  List.dropWhile_append_of_pos blank

/-- A text that does not begin with a blank is left-trimmed. -/
theorem trimLeft_eq_self {cs : List Char} (first : ∀ c ∈ cs.head?, isBlank c = false) :
    trimLeft cs = cs := by
  cases cs with
  | nil => rfl
  | cons c cs => simp [trimLeft, first c rfl]

/-- What is not blank stays when the end is trimmed. -/
theorem trimRight_append {front cs : List Char} (dense : ∀ c ∈ front, isBlank c = false) :
    trimRight (front ++ cs) = front ++ trimRight cs := by
  have stays : front.reverse.dropWhile isBlank = front.reverse := by
    refine trimLeft_eq_self fun c first => dense c ?_
    exact List.mem_reverse.1 (List.mem_of_mem_head? first)
  rw [trimRight, List.reverse_append, List.dropWhile_append, stays, trimRight]
  split
  · rename_i none
    rw [List.isEmpty_iff.1 none, List.reverse_reverse, List.reverse_nil, List.append_nil]
  · rw [List.reverse_append, List.reverse_reverse]

/-- Nothing is left of blanks. -/
theorem trimRight_blanks {gap : List Char} (blank : ∀ c ∈ gap, isBlank c = true) :
    trimRight gap = [] := by
  have none : trimLeft (gap.reverse ++ []) = trimLeft [] :=
    trimLeft_append_blanks fun c member => blank c (List.mem_reverse.1 member)
  rw [List.append_nil] at none
  rw [trimRight, show gap.reverse.dropWhile isBlank = [] from none, List.reverse_nil]

end TextTemplate.Text

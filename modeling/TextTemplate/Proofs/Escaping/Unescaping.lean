import TextTemplate.Proofs.Escaping.Escaped
/-!
# Unescaping

What `html` writes can be read back: going through a text from left to right and replacing each
entity by its character undoes the escaping, also where the text held what looks like an entity.
So no two texts are escaped alike, and a text is escaped to itself only if there is nothing to
escape in it. Main statement: `html` works piece by piece, can be undone, makes escaped texts and
leaves exactly the plain ones (`Escaper.html_faithful`).
-/
namespace TextTemplate.Escaper

/-- Characters with each entity replaced by the character that it stands for, read from left to
right. What begins no entity stands for itself. -/
def unescapeChars : List Char → List Char
  | '&' :: 'a' :: 'm' :: 'p' :: ';' :: rest => '&' :: unescapeChars rest
  | '&' :: 'l' :: 't' :: ';' :: rest => '<' :: unescapeChars rest
  | '&' :: 'g' :: 't' :: ';' :: rest => '>' :: unescapeChars rest
  | '&' :: 'q' :: 'u' :: 'o' :: 't' :: ';' :: rest => '"' :: unescapeChars rest
  | '&' :: '#' :: '3' :: '9' :: ';' :: rest => '\'' :: unescapeChars rest
  | c :: rest => c :: unescapeChars rest
  | [] => []

/-- A text with each entity replaced by the character that it stands for. -/
def unescape (s : String) : String := String.ofList (unescapeChars s.toList)

/-! ### Reading back -/

/-- A character that is no ampersand stands for itself. -/
theorem unescapeChars_cons {c : Char} (plain : c ≠ '&') (rest : List Char) :
    unescapeChars (c :: rest) = c :: unescapeChars rest := by
  rw [unescapeChars] <;> simp [plain]

/-- The entity of a character is read as that character, whatever follows. -/
theorem unescapeChars_entity_append (c : Char) (rest : List Char) :
    unescapeChars (entity c ++ rest) = c :: unescapeChars rest := by
  unfold entity
  split
  case h_6 amp lt gt quot apos => exact unescapeChars_cons amp rest
  all_goals rfl

/-- Unescaping gives back what was escaped. -/
theorem unescape_html (s : String) : unescape (html s) = s := by
  have undone : ∀ chars : List Char, unescapeChars (chars.flatMap entity) = chars := by
    intro chars
    induction chars with
    | nil => rfl
    | cons c rest ih => rw [List.flatMap_cons, unescapeChars_entity_append, ih]
  rw [unescape, html, String.toList_ofList, undone, String.ofList_toList]

/-- No two texts are escaped alike. -/
theorem html_injective : Function.Injective html :=
  Function.LeftInverse.injective unescape_html

/-! ### Texts that stay as they are -/

/-- A character that is no markup stands for itself. -/
theorem entity_of_plain {c : Char} (plain : c ∉ Text.markup) : entity c = [c] := by
  simp only [Text.markup, List.mem_cons, List.not_mem_nil, or_false, not_or] at plain
  unfold entity
  split <;> simp_all

/-- The entity of a character with a meaning in markup is longer than the character. -/
theorem one_lt_length_entity {c : Char} (marked : c ∈ Text.markup) : 1 < (entity c).length := by
  simp only [Text.markup, List.mem_cons, List.not_mem_nil, or_false] at marked
  rcases marked with rfl | rfl | rfl | rfl | rfl <;> decide

/-- Every character is escaped as something. -/
theorem length_entity_pos (c : Char) : 0 < (entity c).length := by
  by_cases marked : c ∈ Text.markup
  · exact Nat.lt_of_succ_lt (one_lt_length_entity marked)
  · rw [entity_of_plain marked]
    exact Nat.one_pos

/-- Escaping makes no text shorter. -/
theorem length_le_flatMap_entity (chars : List Char) :
    chars.length ≤ (chars.flatMap entity).length := by
  induction chars with
  | nil => exact Nat.le_refl 0
  | cons c rest ih =>
    have some_ := length_entity_pos c
    rw [List.flatMap_cons, List.length_append, List.length_cons]
    omega

/-- Escaping changes no characters exactly if none is markup. -/
theorem flatMap_entity_eq_self_iff (chars : List Char) :
    chars.flatMap entity = chars ↔ ∀ c ∈ chars, c ∉ Text.markup := by
  induction chars with
  | nil => simp
  | cons c rest ih =>
    rw [List.flatMap_cons, List.forall_mem_cons]
    by_cases marked : c ∈ Text.markup
    · -- an entity makes the whole longer, and nothing after it makes it shorter again
      have longer := one_lt_length_entity marked
      have later := length_le_flatMap_entity rest
      refine iff_of_false (fun same => ?_) fun plain => plain.1 marked
      have lengths := congrArg List.length same
      rw [List.length_append, List.length_cons] at lengths
      omega
    · rw [entity_of_plain marked, List.singleton_append, List.cons_eq_cons, ih]
      simp [marked]

/-- Escaping changes no text exactly if it has no markup. -/
theorem html_eq_self_iff (s : String) : html s = s ↔ Text.Plain s := by
  rw [Text.Plain, ← flatMap_entity_eq_self_iff, ← String.toList_inj, html, String.toList_ofList]

/-- Escaping loses nothing, lets nothing through and changes nothing without need. -/
theorem html_faithful (s t : String) :
    html (s ++ t) = html s ++ html t ∧
      (html s = html t ↔ s = t) ∧ unescape (html s) = s ∧
      Text.Escaped (html s) ∧
      (html s = s ↔ Text.Plain s) :=
  ⟨html_append s t, html_injective.eq_iff, unescape_html s, Text.escaped_html s, html_eq_self_iff s⟩

/-- What looks like an entity is escaped and read back as any other text. -/
example : html "&lt;" = "&amp;lt;" ∧ unescape "&amp;lt;" = "&lt;" := by decide

end TextTemplate.Escaper

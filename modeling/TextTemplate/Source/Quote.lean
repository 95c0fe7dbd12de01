/-!
# Quoted literals in a source

A literal of a template is written between two quotes of one kind, single or double; there are no
escapes, so a literal ends at the next quote of its kind. Whoever looks for the end of a tag and
whoever reads the tag's content must agree on where literals end: both use `closeQuote`.
-/
namespace TextTemplate.Source

/-- Whether a character opens a literal. -/
def isQuote (c : Char) : Bool := c == '\'' || c == '"'

/-- The text up to the next quote of the given kind, and what follows that quote. -/
def closeQuote (quote : Char) : List Char → Option (List Char × List Char)
  | [] => none
  | c :: rest =>
    if c = quote then some ([], rest)
    else (closeQuote quote rest).map fun (body, after) => (c :: body, after)

/-- What is found is the text before a quote, with no such quote in it, and the text after. -/
theorem closeQuote_eq_some_iff {quote : Char} {cs body after : List Char} :
    closeQuote quote cs = some (body, after) ↔ cs = body ++ quote :: after ∧ quote ∉ body := by
  induction cs generalizing body with
  | nil => simp [closeQuote]
  | cons c rest ih =>
    by_cases same : c = quote
    · subst same
      constructor
      · intro found
        simp only [closeQuote, if_pos, Option.some.injEq, Prod.mk.injEq] at found
        obtain ⟨rfl, rfl⟩ := found
        simp
      · rintro ⟨split, free⟩
        cases body with
        | nil => simpa [closeQuote] using split
        | cons d body =>
          simp only [List.cons_append, List.cons.injEq] at split
          exact absurd (split.1 ▸ List.mem_cons_self) free
    · rw [closeQuote, if_neg same, Option.map_eq_some_iff]
      constructor
      · rintro ⟨⟨inner, tail⟩, found, shape⟩
        simp only [Prod.mk.injEq] at shape
        obtain ⟨rfl, rfl⟩ := shape
        obtain ⟨rfl, free⟩ := ih.1 found
        exact ⟨rfl, by simp [Ne.symm same, free]⟩
      · rintro ⟨split, free⟩
        cases body with
        | nil => exact absurd (List.cons.inj split).1 same
        | cons d body =>
          simp only [List.cons_append, List.cons.injEq] at split
          obtain ⟨rfl, rfl⟩ := split
          exact ⟨(body, after), ih.2 ⟨rfl, fun member => free (List.mem_cons_of_mem _ member)⟩, rfl⟩

/-- No literal is found exactly when there is no such quote. -/
theorem closeQuote_eq_none_iff {quote : Char} {cs : List Char} :
    closeQuote quote cs = none ↔ quote ∉ cs := by
  induction cs with
  | nil => simp [closeQuote]
  | cons c rest ih =>
    by_cases same : c = quote
    · simp [closeQuote, same]
    · simp [closeQuote, same, ih, Ne.symm same]

/-- What follows a literal is shorter than what the literal was looked for in. -/
theorem length_of_closeQuote {quote : Char} {cs body after : List Char}
    (found : closeQuote quote cs = some (body, after)) : after.length < cs.length := by
  obtain ⟨rfl, _⟩ := closeQuote_eq_some_iff.1 found
  simp only [List.length_append, List.length_cons]
  omega

end TextTemplate.Source

/-!
# Cutting a text in two

A text is cut at the first occurrence of a mark. The law says what the two parts are.
-/
namespace TextTemplate.Text

/-- What stands before and after the first occurrence of a mark, if there is one. -/
def cutAt (mark : Char) : List Char → Option (List Char × List Char)
  | [] => none
  | c :: rest =>
    if c = mark then some ([], rest)
    else (cutAt mark rest).map fun (before, after) => (c :: before, after)

/-- A text is cut at a mark that has none before it. -/
theorem cutAt_eq_some_iff {mark : Char} {cs before after : List Char} :
    cutAt mark cs = some (before, after) ↔ cs = before ++ mark :: after ∧ mark ∉ before := by
  induction cs generalizing before with
  | nil => simp [cutAt]
  | cons c rest ih =>
    by_cases here : c = mark
    · subst here
      cases before with
      | nil => simp [cutAt, eq_comm]
      | cons b bs => simp [cutAt]; intro same; simp [← same]
    · cases before with
      | nil => simp [cutAt, here]
      | cons b bs =>
        simp only [cutAt, here, if_false, Option.map_eq_some_iff, Prod.mk.injEq, List.cons.injEq,
          List.cons_append, List.mem_cons, not_or]
        constructor
        · rintro ⟨⟨a, z⟩, found, ⟨rfl, rfl⟩, rfl⟩
          obtain ⟨shape, absent⟩ := ih.1 found
          exact ⟨⟨rfl, shape⟩, fun same => here same.symm, absent⟩
        · rintro ⟨⟨rfl, shape⟩, _, absent⟩
          exact ⟨(bs, after), ih.2 ⟨shape, absent⟩, ⟨rfl, rfl⟩, rfl⟩

end TextTemplate.Text

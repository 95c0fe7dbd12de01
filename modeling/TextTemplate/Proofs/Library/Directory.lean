import TextTemplate.Proofs.Library.Name
import TextTemplate.Proofs.File.Way
/-!
# Templates in their directory

Names are meant relative to the directory of templates, and a path from the root would discard it. A
name need not begin with a slash to become such a path: where `./` is dropped from `.//x`, a slash
is left in front. Main statement: exactly the names of this kind leave the directory, and all others
are looked for under it (`place_under`).
-/
namespace TextTemplate

namespace Path

/-- A path that goes on from a directory. -/
structure Under (dir p : Path) : Prop where
  /-- It is a relative path joined to the directory, and its names follow those of the directory. -/
  joined : ∃ rel : Path, rel.isAbsolute = false ∧ p = dir.join rel ∧
    p.names = dir.names ++ rel.names
  /-- Its text begins with that of the directory. -/
  text : dir.text.toList <+: p.text.toList
  /-- It starts from the root exactly if the directory does. -/
  root : p.isAbsolute = dir.isAbsolute

/-- The pieces of two texts with a slash between them are those of both. -/
theorem split_append (front back : List Char) :
    split (front ++ '/' :: back) = split front ++ split back := by
  induction front with
  | nil => exact split_slash back
  | cons c rest ih =>
    by_cases slash : c = '/'
    · subst slash
      rw [List.cons_append, split_slash, split_slash, ih, List.cons_append]
    · obtain ⟨first, later, parts⟩ := List.exists_cons_of_ne_nil (split_ne_nil rest)
      rw [parts, List.cons_append] at ih
      rw [List.cons_append, split_cons slash ih, split_cons slash parts, List.cons_append]

/-- The first slash of a path may be its root, which has no name. -/
theorem names_append (front back : List Char) :
    names ⟨String.ofList (front ++ '/' :: back)⟩ =
      names ⟨String.ofList front⟩ ++ named (split back) := by
  rw [names_eq, names_eq, ← named_append]
  cases front with
  | nil => simp [pieces, isAbsolute, split, named]
  | cons c rest =>
    by_cases slash : c = '/'
    · simp [pieces, isAbsolute, slash, split_append]
    · have apart := split_append (c :: rest) back
      rw [List.cons_append] at apart
      simp [pieces, isAbsolute, slash, apart]

/-- What is put behind a text does not change whether it is absolute. -/
theorem isAbsolute_append {front : List Char} (some_ : front ≠ []) (back : List Char) :
    isAbsolute ⟨String.ofList (front ++ back)⟩ = isAbsolute ⟨String.ofList front⟩ := by
  obtain ⟨c, rest, rfl⟩ := List.exists_cons_of_ne_nil some_
  simp [isAbsolute]

/-- A slash stands between a directory and what is joined to it, whether the directory ends with it
or not. -/
theorem exists_join {dir rel : Path} (relative : rel.isAbsolute = false)
    (some_ : dir.text.toList ≠ []) :
    ∃ front, (dir.text.toList = front ∨ dir.text.toList = front ++ ['/']) ∧
      (dir.join rel).text.toList = front ++ '/' :: rel.text.toList := by
  have filled : dir.text.isEmpty = false := by simpa using some_
  cases ends : dir.endsWithSlash with
  | true =>
    obtain ⟨front, text⟩ := List.getLast?_eq_some_iff.mp (eq_of_beq ends)
    exact ⟨front, .inr text, by simp [join, relative, filled, ends, text]⟩
  | false => exact ⟨_, .inl rfl, by simp [join, relative, filled, ends]⟩

/-- A path is its text. -/
theorem ofList_text (p : Path) : ⟨String.ofList p.text.toList⟩ = p := by
  rw [String.ofList_toList]

/-- A slash at its end adds no name to those of a directory. -/
theorem names_of_ends {dir : Path} {front : List Char}
    (text : dir.text.toList = front ∨ dir.text.toList = front ++ ['/']) :
    dir.names = names ⟨String.ofList front⟩ := by
  rw [← ofList_text dir]
  rcases text with same | slash
  · rw [same]
  · rw [slash, names_append]
    exact List.append_nil _

/-- A relative path that is joined to a directory lies under it. -/
theorem under_join (dir : Path) {rel : Path} (relative : rel.isAbsolute = false) :
    dir.Under (dir.join rel) := by
  by_cases none_ : dir.text.toList = []
  · have empty : dir = ⟨""⟩ := congrArg Path.mk (String.toList_inj.mp none_)
    subst empty
    rw [join_empty]
    exact ⟨⟨rel, relative, (join_empty rel).symm, rfl⟩, List.nil_prefix, relative⟩
  · obtain ⟨front, text, joined⟩ := exists_join relative none_
    have within : rel.names = named (split rel.text.toList) := by
      rw [names_eq, pieces, relative, if_neg Bool.false_ne_true]
    have names : (dir.join rel).names = dir.names ++ rel.names := by
      rw [← ofList_text (dir.join rel), joined, names_append, names_of_ends text, within]
    have starts : dir.text.toList <+: (dir.join rel).text.toList := by
      rcases text with same | slash
      · exact ⟨'/' :: rel.text.toList, by rw [same, joined]⟩
      · exact ⟨rel.text.toList, by rw [slash, joined, List.append_assoc]; rfl⟩
    have root : (dir.join rel).isAbsolute = dir.isAbsolute := by
      obtain ⟨tail, longer⟩ := starts
      rw [← ofList_text (dir.join rel), ← longer, isAbsolute_append none_, ofList_text]
    exact ⟨⟨rel, relative, rfl, names⟩, starts, root⟩

end Path

namespace Library

open Text

/-- A text of which a slash or backslash is left in front once every `./` is dropped. -/
inductive Rooted : List Char → Prop
  | root {c : Char} (rest : List Char) (mark : c = '/' ∨ c = '\\') : Rooted (c :: rest)
  | here {c : Char} {rest : List Char} (mark : c = '/' ∨ c = '\\') (behind : Rooted rest) :
      Rooted ('.' :: c :: rest)

/-- Slashes of both kinds become slashes. -/
theorem slash_eq_iff (c : Char) : slash c = '/' ↔ c = '/' ∨ c = '\\' := by
  unfold slash
  split
  · rename_i backslash
    simp [backslash]
  · rename_i other
    simp [other]

/-- Only a dot becomes a dot. -/
theorem slash_eq_dot_iff (c : Char) : slash c = '.' ↔ c = '.' := by
  unfold slash
  split
  · rename_i backslash
    rw [backslash]
    decide
  · exact Iff.rfl

/-- A name begins with a slash after its dots were dropped exactly if it is rooted. -/
theorem head?_dropHere_iff (cs : List Char) :
    (dropHere (cs.map slash)).head? = some '/' ↔ Rooted cs := by
  generalize slashed : cs.map slash = text
  fun_induction dropHere text generalizing cs with
  | case1 rest ih =>
    obtain ⟨dot, behind, rfl, dotted, tail⟩ := List.map_eq_cons_iff.mp slashed
    obtain ⟨c, after, rfl, mark, same⟩ := List.map_eq_cons_iff.mp tail
    obtain rfl := (slash_eq_dot_iff dot).mp dotted
    rw [ih after same]
    refine ⟨.here ((slash_eq_iff c).mp mark), fun rooted => ?_⟩
    cases rooted with
    | root _ mark => exact absurd mark (by decide)
    | here _ behind => exact behind
  | case2 text bare =>
    subst slashed
    constructor
    · intro first
      cases cs with
      | nil => cases first
      | cons c rest => exact .root rest ((slash_eq_iff c).mp (Option.some.inj first))
    · intro rooted
      cases rooted with
      | root rest mark => exact congrArg some ((slash_eq_iff _).mpr mark)
      | @here c rest mark behind =>
        exact absurd (congrArg₂ List.cons ((slash_eq_dot_iff '.').mpr rfl)
          (congrArg₂ List.cons ((slash_eq_iff c).mpr mark) rfl)) (bare (rest.map slash))

instance (cs : List Char) : Decidable (Rooted cs) := decidable_of_iff _ (head?_dropHere_iff cs)

/-- The normal form of a name is a path from the root exactly if the name is rooted. -/
theorem isAbsolute_normalise_iff (name : String) :
    Path.isAbsolute ⟨normalise name⟩ = true ↔ Rooted (trim name.toList) := by
  rw [Path.isAbsolute, normalise_eq, String.toList_ofList, beq_iff_eq, head?_dropHere_iff]

/-- A path that a name has in a directory of templates. -/
structure Placed (dir : Path) (name : String) (place : Path) : Prop where
  /-- It goes on from the directory unless the name is rooted. -/
  under : ¬ Rooted (trim name.toList) → dir.Under place
  /-- It starts from the root and discards the directory if the name is rooted. -/
  discarded : Rooted (trim name.toList) →
    place = ⟨normalise name⟩ ∧ place.isAbsolute = true

/-- A name without a root is placed in the directory that is set. -/
theorem placed_path {config : Config} {dir : Path} (set : config.templateDir = some dir)
    (name : String) : Placed dir name (path config name) := by
  have joined : path config name = dir.join ⟨normalise name⟩ := by rw [path, set]
  rw [joined]
  refine ⟨fun free => ?_, fun rooted => ?_⟩
  · have relative : Path.isAbsolute ⟨normalise name⟩ = false :=
      Bool.eq_false_iff.mpr (mt (isAbsolute_normalise_iff name).mp free)
    exact dir.under_join relative
  · have absolute := (isAbsolute_normalise_iff name).mpr rooted
    rw [Path.join_of_isAbsolute dir absolute]
    exact ⟨rfl, absolute⟩

/-- The path of a name goes on from the directory of templates unless the name is rooted, and so
does the path at which the template of the name is looked for, unless the normal form of the name
is rooted as a name of its own. -/
theorem place_under {config : Config} {dir : Path} (set : config.templateDir = some dir)
    (name : String) :
    Placed dir name (path config name) ∧
      ∀ library : Library, library.get? (normalise name) = none → ∃ place,
        Placed dir (normalise name) place ∧
          ∀ files, library.load config files name =
            library.readAt files (normalise name) place := by
  refine ⟨placed_path set name, fun library unknown => ?_⟩
  exact ⟨path config (normalise name), placed_path set (normalise name),
    fun files => load_of_unknown config files unknown⟩

/-- A template that has no file is not found at the path of the normal form of its name. -/
theorem load_of_absent {library : Library} {config : Config} {files : FileTree} {name : String}
    (unknown : library.get? (normalise name) = none) {place : Path}
    (looked : path config (normalise name) = place) (absent : files.isFile place = false) :
    library.load config files name = .error (.notFound (normalise name) place) := by
  rw [load_of_unknown config files unknown, looked, readAt, absent, if_neg Bool.false_ne_true]

/-- A name with dots, blanks and separators of both kinds is looked for under a directory. -/
theorem place_under_parts :
    let config : Config := { Config.default with templateDir := some ⟨"T/"⟩ }
    Path.Under ⟨"T/"⟩ (path config " .\\./..//parts\\ page ") ∧
      path config " .\\./..//parts\\ page " = ⟨"T/..//parts/ page"⟩ ∧
      ∃ place, Path.Under ⟨"T/"⟩ place ∧ ∀ files,
        load ∅ config files " .\\./..//parts\\ page " =
          readAt ∅ files "..//parts/ page" place := by
  intro config
  have normal : normalise " .\\./..//parts\\ page " = "..//parts/ page" := by
    decide +kernel
  have set : config.templateDir = some ⟨"T/"⟩ := rfl
  obtain ⟨placed, found⟩ := place_under set " .\\./..//parts\\ page "
  obtain ⟨place, read, looked⟩ := found ∅ (Table.get?_empty _)
  rw [normal] at read looked
  refine ⟨placed.under (by decide +kernel), ?_, place, read.under (by decide +kernel), looked⟩
  rw [path, normal]
  decide +kernel

/-- Names that do not begin with a slash, and are looked for outside of their directory: in front of
the first is left a slash, and in front of the second a blank, which is dropped only when its normal
form is taken as a name. -/
theorem place_under_fails :
    let config : Config := { Config.default with templateDir := some ⟨"T"⟩ }
    ((trim ".//x".toList).head? = some '.' ∧ path config ".//x" = ⟨"/x"⟩ ∧
      ¬ Path.Under ⟨"T"⟩ (path config ".//x") ∧
      load ∅ config (.bare ⟨[]⟩) ".//x" = .error (.notFound "/x" ⟨"/x"⟩)) ∧
    (trim "./ /x".toList).head? = some '.' ∧ path config "./ /x" = ⟨"T/ /x"⟩ ∧
      load ∅ config (.bare ⟨[]⟩) "./ /x" = .error (.notFound " /x" ⟨"/x"⟩) := by
  intro config
  have normal : normalise ".//x" = "/x" ∧ normalise "/x" = "/x" := by
    decide +kernel
  have blank : normalise "./ /x" = " /x" ∧ normalise " /x" = "/x" := by
    decide +kernel
  have rooted : path config ".//x" = ⟨"/x"⟩ := by
    rw [path, normal.1]
    decide +kernel
  have twice : path config "/x" = ⟨"/x"⟩ ∧ path config " /x" = ⟨"/x"⟩ := by
    rw [path, path, normal.2, blank.2]
    decide +kernel
  have absent : (FileTree.bare ⟨[]⟩).isFile ⟨"/x"⟩ = false := by
    decide +kernel
  refine ⟨⟨by decide +kernel, rooted, fun under => ?_, ?_⟩, by decide +kernel, ?_, ?_⟩
  · rw [rooted] at under
    exact absurd under.text (by decide +kernel)
  · have looked : path config (normalise ".//x") = ⟨"/x"⟩ := by rw [normal.1, twice.1]
    rw [load_of_absent (Table.get?_empty _) looked absent, normal.1]
  · rw [path, blank.1]
    decide +kernel
  · have looked : path config (normalise "./ /x") = ⟨"/x"⟩ := by rw [blank.1, twice.2]
    rw [load_of_absent (Table.get?_empty _) looked absent, blank.1]

end Library

end TextTemplate

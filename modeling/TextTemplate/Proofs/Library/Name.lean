import TextTemplate.Proofs.Template.Reading
import Mathlib.Data.List.Basic
/-!
# Names of templates

A name is trimmed before the `./` in front of it are dropped, so blanks that stand behind them come
to the front and stay there. Taken as a name itself, such a normal form loses its blanks, and it is
then another name. Main statement: this is the only way to leave the normal forms
(`normalise_normalise_iff`), and a name whose normal form does not begin with a blank means one
template and one file, on every way on which it is used (`one_template`).
-/
namespace TextTemplate

namespace Text

/-- A right-trimmed text does not end with a blank. -/
theorem getLast?_trimRight {cs : List Char} {c : Char} (last : (trimRight cs).getLast? = some c) :
    isBlank c = false := by
  rw [trimRight, List.getLast?_reverse] at last
  exact head?_trimLeft last

/-- What does not end in a blank is not trimmed at its end. -/
theorem trimRight_eq_self {cs : List Char} (last : ∀ c ∈ cs.getLast?, isBlank c = false) :
    trimRight cs = cs := by
  have stays : cs.reverse.dropWhile isBlank = cs.reverse :=
    trimLeft_eq_self fun c first => last c (List.head?_reverse ▸ first)
  rw [trimRight, stays, List.reverse_reverse]

/-- Trimming the end makes no text longer. -/
theorem length_trim_le (cs : List Char) : (trim cs).length ≤ (trimLeft cs).length := by
  have shorter := (List.dropWhile_sublist (l := (trimLeft cs).reverse) isBlank).length_le
  simpa [trim, trimRight] using shorter

end Text

namespace Library

open Text

/-- A backslash is read as a slash. -/
def slash (c : Char) : Char := if c = '\\' then '/' else c

/-- A name is trimmed, its slashes are turned, and the dots in front are dropped. -/
theorem normalise_eq (name : String) :
    normalise name = String.ofList (dropHere ((trim name.toList).map slash)) := rfl

/-- Turning slashes changes no blank. -/
theorem isBlank_slash (c : Char) : isBlank (slash c) = isBlank c := by
  unfold slash
  split
  · rename_i backslash
    rw [backslash]
    decide
  · rfl

/-- No backslash is left when slashes were turned. -/
theorem slash_ne (c : Char) : slash c ≠ '\\' := by
  unfold slash
  split
  · decide
  · assumption

/-- What is left after `./` was dropped stood at the end. -/
theorem dropHere_suffix (cs : List Char) : dropHere cs <:+ cs := by
  fun_induction dropHere cs with
  | case1 rest ih => exact ih.trans ⟨['.', '/'], rfl⟩
  | case2 cs _ => exact List.suffix_refl cs

/-- Dropping dots in front is done after one time. -/
theorem dropHere_dropHere (cs : List Char) : dropHere (dropHere cs) = dropHere cs := by
  fun_induction dropHere cs with
  | case1 rest ih => exact ih
  | case2 cs none =>
    unfold dropHere
    split
    · rename_i rest
      exact absurd rfl (none rest)
    · rfl

/-- The characters of a normal form: no blank at either end, no backslash, and no `./` in front. -/
structure Normal (key : List Char) : Prop where
  /-- It does not begin with a blank. -/
  first : ∀ c ∈ key.head?, isBlank c = false
  /-- It does not end in a blank. -/
  last : ∀ c ∈ key.getLast?, isBlank c = false
  /-- It has no backslash. -/
  slashes : '\\' ∉ key
  /-- It has no dots in front to be dropped. -/
  here : dropHere key = key

/-- A name in normal form is left as it is. -/
theorem normalise_of_normal {key : String} (normal : Normal key.toList) : normalise key = key := by
  have trimmed : trim key.toList = key.toList := by
    rw [trim, trimLeft_eq_self normal.first, trimRight_eq_self normal.last]
  have slashed : key.toList.map slash = key.toList := by
    refine (List.map_congr_left fun c member => ?_).trans (List.map_id key.toList)
    refine if_neg fun backslash => normal.slashes ?_
    rw [← backslash]
    exact member
  rw [normalise_eq, trimmed, slashed, normal.here, String.ofList_toList]

/-- The end of a name is trimmed for good. -/
theorem last_normalise (name : String) :
    ∀ c ∈ (normalise name).toList.getLast?, isBlank c = false := by
  intro c last
  rw [normalise_eq, String.toList_ofList] at last
  obtain ⟨front, whole⟩ := dropHere_suffix ((trim name.toList).map slash)
  have mapped : ((trim name.toList).map slash).getLast? = some c := by
    rw [← whole, List.getLast?_append, last]
    rfl
  rw [List.getLast?_map] at mapped
  obtain ⟨d, end_, rfl⟩ := Option.map_eq_some_iff.mp mapped
  rw [isBlank_slash]
  exact getLast?_trimRight end_

/-- The normal form of a name does not begin with a blank. -/
def Solid (name : String) : Prop := ∀ c ∈ (normalise name).toList.head?, isBlank c = false

/-- The normal form of a name that is solid is normal. -/
theorem normal_normalise {name : String} (solid : Solid name) :
    Normal (normalise name).toList where
  first := solid
  last := last_normalise name
  slashes member := by
    rw [normalise_eq, String.toList_ofList] at member
    obtain ⟨c, -, backslash⟩ := List.mem_map.mp ((dropHere_suffix _).mem member)
    exact slash_ne c backslash
  here := by rw [normalise_eq, String.toList_ofList, dropHere_dropHere]

/-- A name never gets longer, and it gets shorter if it begins with a blank. -/
theorem length_normalise_lt {key : String} {c : Char} {rest : List Char}
    (begins : key.toList = c :: rest) (blank : isBlank c = true) :
    (normalise key).toList.length < key.toList.length := by
  have dropped : trimLeft key.toList = trimLeft rest := by
    rw [begins, trimLeft, List.dropWhile_cons_of_pos blank, trimLeft]
  have shorter : (trimLeft rest).length ≤ rest.length := (List.dropWhile_sublist _).length_le
  calc (normalise key).toList.length
      = (dropHere ((trim key.toList).map slash)).length := by
        rw [normalise_eq, String.toList_ofList]
    _ ≤ ((trim key.toList).map slash).length := (dropHere_suffix _).length_le
    _ = (trim key.toList).length := List.length_map slash
    _ ≤ (trimLeft key.toList).length := length_trim_le _
    _ = (trimLeft rest).length := by rw [dropped]
    _ < (c :: rest).length := Nat.lt_succ_of_le shorter
    _ = key.toList.length := by rw [begins]

/-- A normal form is that of itself exactly if it does not begin with a blank. -/
theorem normalise_normalise_iff (name : String) :
    normalise (normalise name) = normalise name ↔ Solid name := by
  constructor
  · intro same c first
    by_contra blank
    obtain ⟨rest, begins⟩ := List.head?_eq_some_iff.mp first
    have shorter := length_normalise_lt begins (by simpa using blank)
    rw [same] at shorter
    exact Nat.lt_irrefl _ shorter
  · exact fun solid => normalise_of_normal (normal_normalise solid)

/-- The template that is known by a key once it was read from the file at a place. -/
def readAt (library : Library) (files : FileTree) (key : String) (place : Path) :
    Except RenderError (Template × Library) :=
  if files.isFile place then
    match files.readText place with
    | .error cause => .error (.file ⟨place, cause⟩)
    | .ok source =>
      match Source.parse key source.toList with
      | .error error => .error (.parse key error)
      | .ok t => .ok (t, library.insert key t)
  else .error (.notFound key place)

/-- A template that is not known is looked for at the path of its key. -/
theorem load_of_unknown {library : Library} {name : String} (config : Config) (files : FileTree)
    (unknown : library.get? (normalise name) = none) :
    library.load config files name =
      library.readAt files (normalise name) (path config (normalise name)) := by
  unfold load readAt readSource
  cases file : files.isFile (path config (normalise name)) with
  | false => simp only [unknown, file, Bool.false_eq_true, if_false]
  | true =>
    simp only [unknown, file, if_true]
    cases files.readText (path config (normalise name)) with
    | error cause => rfl
    | ok source =>
      simp only [Except.mapError]
      cases Source.parse (normalise name) source.toList <;> rfl

/-- Registering reads the source under the normal form of the name and knows the template by it. -/
theorem register_eq_ok_iff {library after : Library} {name source : String} {t : Template} :
    library.register name source = .ok (t, after) ↔
      Source.parse (normalise name) source.toList = .ok t ∧
        after = library.insert (normalise name) t := by
  unfold register
  dsimp only
  cases Source.parse (normalise name) source.toList with
  | error error => simp
  | ok d =>
    simp only [Except.ok.injEq, Prod.mk.injEq]
    constructor
    · rintro ⟨rfl, rfl⟩
      exact ⟨rfl, rfl⟩
    · rintro ⟨rfl, rfl⟩
      exact ⟨rfl, rfl⟩

/-- A registered template has the normal form for its name and is known under it. -/
theorem get?_of_register {library after : Library} {name source : String} {t : Template}
    (registered : library.register name source = .ok (t, after)) :
    t.name = normalise name ∧ after.get? (normalise name) = some t := by
  obtain ⟨read, rfl⟩ := register_eq_ok_iff.mp registered
  exact ⟨(Source.regular_of_parse read).1, by rw [Table.get?_insert, if_pos rfl]⟩

/-- A name whose normal form does not begin with a blank has one normal form, one file, which is
looked for at the path of the name itself, and one template: what was registered or loaded by the
name is known by the name that it has, and loaded by it whatever the files are. -/
theorem one_template {library : Library} (parsed : library.Parsed) (config : Config) {name : String}
    (solid : Solid name) :
    normalise (normalise name) = normalise name ∧
      (library.get? (normalise name) = none → ∀ files, library.load config files name =
        library.readAt files (normalise name) (path config name)) ∧
      ∀ t after, ((∃ source, library.register name source = .ok (t, after)) ∨
          ∃ files, library.load config files name = .ok (t, after)) →
        after.isLoaded t.name = true ∧
          ∀ files, after.load config files t.name = .ok (t, after) := by
  have same := (normalise_normalise_iff name).mpr solid
  refine ⟨same, fun unknown files => ?_, fun t after known => ?_⟩
  · have place : path config (normalise name) = path config name := by
      unfold path
      rw [same]
    rw [load_of_unknown config files unknown, place]
  · have named : t.name = normalise name ∧ after.get? (normalise name) = some t := by
      rcases known with ⟨source, registered⟩ | ⟨files, loaded⟩
      · exact get?_of_register registered
      · exact ⟨(parsed.load loaded).2.1, get?_of_load loaded⟩
    have found : after.get? (normalise t.name) = some t := by rw [named.1, same, named.2]
    refine ⟨?_, fun files => load_of_get? found⟩
    rw [isLoaded, Table.contains, found]
    rfl

/-- So it is for a name with blanks around it, a backslash in it, and `./` in front. -/
theorem one_template_page :
    ∃ t after, register ∅ " ./.\\parts\\page " "x" = .ok (t, after) ∧ t.name = "parts/page" ∧
      after.isLoaded t.name = true ∧
      ∀ files, after.load default files t.name = .ok (t, after) := by
  have normal : normalise " ./.\\parts\\page " = "parts/page" := by
    decide +kernel
  have solid : Solid " ./.\\parts\\page " := by
    have first : "parts/page".toList.head? = some 'p' := by decide
    rw [Solid, normal, first]
    rintro _ ⟨⟩
    decide
  have read : Source.parse (normalise " ./.\\parts\\page ") "x".toList =
      .ok ⟨"parts/page", [.text "x"], ∅⟩ := by
    rw [normal]
    with_unfolding_all rfl
  have registered : register ∅ " ./.\\parts\\page " "x" = .ok (_, _) :=
    register_eq_ok_iff.mpr ⟨read, rfl⟩
  obtain ⟨-, -, known⟩ := one_template parsed_empty default solid
  exact ⟨_, _, registered, rfl, known _ _ (.inl ⟨"x", registered⟩)⟩

/-- With a blank after `./` they fall apart: the template that was registered is not known by the
name that it has, and the template is not looked for at the path of the name. -/
theorem one_template_fails :
    (∃ t after, register ∅ "./ x" "hi" = .ok (t, after) ∧ t.name = " x" ∧
      after.isLoaded t.name = false) ∧
    path default "./ x" = ⟨" x"⟩ ∧
    load ∅ default (.bare ⟨[]⟩) "./ x" = .error (.notFound " x" ⟨"x"⟩) := by
  have normal : normalise "./ x" = " x" := by
    decide +kernel
  have again : normalise " x" = "x" := by
    decide +kernel
  have read : Source.parse (normalise "./ x") "hi".toList = .ok ⟨" x", [.text "hi"], ∅⟩ := by
    rw [normal]
    with_unfolding_all rfl
  have place : path default " x" = ⟨"x"⟩ := by
    rw [path, again]
    rfl
  have absent : (FileTree.bare ⟨[]⟩).isFile ⟨"x"⟩ = false := by
    decide +kernel
  refine ⟨⟨_, _, register_eq_ok_iff.mpr ⟨read, rfl⟩, rfl, ?_⟩, ?_, ?_⟩
  · rw [isLoaded, again, normal]
    decide
  · rw [path, normal]
    rfl
  · rw [load_of_unknown default _ (Table.get?_empty _), normal, place, readAt, absent]
    rfl

end Library

end TextTemplate

import TextTemplate.Escaping
import TextTemplate.Text.Digit
import Mathlib.Data.List.Basic
/-!
# Escaped texts

A text is escaped if markup cannot tell anything in it from plain characters: it has no angle
brackets and no quotes, and an ampersand in it begins an entity. Texts written one after the other
are escaped if each is, since an entity is never split. Main statement: whatever the text, `html`
makes an escaped text of it (`escaped_html`).
-/
namespace TextTemplate.Text

/-- The characters with a meaning in markup. -/
def markup : List Char := ['&', '<', '>', '"', '\'']

/-- The entities that stand for them. -/
def entities : List String := ["&amp;", "&lt;", "&gt;", "&quot;", "&#39;"]

/-- No character of the text has a meaning in markup. -/
def Plain (s : String) : Prop := ∀ c ∈ s.toList, c ∉ markup

instance (s : String) : Decidable (Plain s) :=
  List.decidableBAll (· ∉ markup) s.toList

/-- The text has no angle brackets and no quotes, and every ampersand in it is the first character
of an entity. -/
structure Escaped (s : String) : Prop where
  /-- No character of markup stands in the text but ampersands. -/
  unmarked : ∀ c ∈ s.toList, c ∉ ['<', '>', '"', '\'']
  /-- An ampersand begins an entity. -/
  ampersand : ∀ before after, s.toList = before ++ '&' :: after →
    ∃ entity ∈ entities, entity.toList <+: '&' :: after

section Laws

variable {s t : String}

/-- Two texts without markup have none together. -/
theorem Plain.append (first : Plain s) (second : Plain t) : Plain (s ++ t) := by
  intro c member
  rw [String.toList_append, List.mem_append] at member
  exact member.elim (first c) (second c)

/-- A text without characters of markup is escaped as it stands. -/
theorem Plain.escaped (plain : Plain s) : Escaped s where
  unmarked c member marked := plain c member (List.mem_cons_of_mem _ marked)
  ampersand before after shape := by
    have member : '&' ∈ s.toList := shape ▸ List.mem_append_right _ List.mem_cons_self
    exact absurd List.mem_cons_self (plain '&' member)

/-- The empty text is escaped. -/
theorem escaped_empty : Escaped "" :=
  Plain.escaped (by decide)

/-- An entity that begins in the first of two texts ends in it. -/
theorem Escaped.append (first : Escaped s) (second : Escaped t) : Escaped (s ++ t) where
  unmarked c member := by
    rw [String.toList_append, List.mem_append] at member
    exact member.elim (first.unmarked c) (second.unmarked c)
  ampersand before after shape := by
    rw [String.toList_append, List.append_eq_append_iff] at shape
    rcases shape with ⟨between, -, inSecond⟩ | ⟨rest, inFirst, follows⟩
    · exact second.ampersand between after inSecond
    · cases rest with
      | nil => exact second.ampersand [] after follows.symm
      | cons c rest =>
        obtain ⟨rfl, rfl⟩ := List.cons.inj follows
        obtain ⟨entity, member, begins⟩ := first.ampersand before rest inFirst
        exact ⟨entity, member, begins.trans (List.prefix_append _ t.toList)⟩

/-- Escaped texts are escaped when they are joined. -/
theorem escaped_join {texts : List String} (each : ∀ text ∈ texts, Escaped text) :
    Escaped (String.join texts) := by
  induction texts with
  | nil => exact escaped_empty
  | cons first rest ih =>
    rw [String.join_cons]
    have later := ih fun text member => each text (List.mem_cons_of_mem _ member)
    exact (each first List.mem_cons_self).append later

end Laws

/-- An entity has one ampersand, its first character. -/
theorem escaped_of_mem_entities {entity : String} (member : entity ∈ entities) :
    Escaped entity := by
  have shapes : ∀ entity ∈ entities,
      (entity.toList.all (· ∉ ['<', '>', '"', '\''])) = true ∧ '&' ∉ entity.toList.tail := by
    decide
  obtain ⟨all, once⟩ := shapes entity member
  have unmarked := fun c inside => of_decide_eq_true (List.all_eq_true.mp all c inside)
  refine ⟨unmarked, fun before after shape => ⟨entity, member, ?_⟩⟩
  cases before with
  | nil =>
    rw [shape]
    exact List.prefix_refl _
  | cons c before =>
    rw [shape] at once
    exact absurd (List.mem_append_right _ List.mem_cons_self) once

/-- What is written for a character is escaped. -/
theorem escaped_entity (c : Char) : Escaped (String.ofList (Escaper.entity c)) := by
  unfold Escaper.entity
  split
  case h_6 amp lt gt quot apos =>
    refine Plain.escaped fun d member marked => ?_
    rw [String.toList_ofList, List.mem_singleton] at member
    simp only [markup, member, List.mem_cons, List.not_mem_nil, or_false] at marked
    rcases marked with is | is | is | is | is
    · exact amp is
    · exact lt is
    · exact gt is
    · exact quot is
    · exact apos is
  all_goals
    rw [String.ofList_toList]
    exact escaped_of_mem_entities (by decide)

/-- Escaping makes an escaped text of every text. -/
theorem escaped_html (s : String) : Escaped (Escaper.html s) := by
  unfold Escaper.html
  induction s.toList with
  | nil => exact escaped_empty
  | cons c rest ih =>
    rw [List.flatMap_cons, String.ofList_append]
    exact (escaped_entity c).append ih

/-- Whole numbers are written in digits, after a minus sign if they are negative. -/
theorem plain_writeWhole (n : Int64) : Plain (writeWhole n) := by
  have digits : ∀ k : Nat, Plain k.repr := by
    intro k c member marked
    rw [Nat.toList_repr] at member
    have digit : c.isDigit = true := Nat.isDigit_of_mem_toDigits (by decide) (by decide) member
    have none : markup.any Char.isDigit = false := by decide
    exact List.any_eq_false.mp none c marked digit
  unfold writeWhole
  cases n.toInt with
  | ofNat k => exact digits k
  | negSucc k => exact Plain.append (by decide) (digits (k + 1))

end TextTemplate.Text

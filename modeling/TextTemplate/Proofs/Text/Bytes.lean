import TextTemplate.Source.Token
/-!
# Texts by their bytes

A text is stored in UTF-8, where a character takes one to four bytes. Places in it are told by the
number of bytes before them, and only where a character begins or the text ends may it be cut:
`slice?` is the text between two such places, and none between any others.

The searches here tell where something is found by the number of bytes in front of it. Each law says
what a search finds in the words of the text alone.
-/
namespace TextTemplate.Text

/-- The number of bytes that a text takes. -/
def byteSize : List Char → Nat
  | [] => 0
  | c :: cs => c.utf8Size + byteSize cs

/-- A text cut in two after a number of bytes, if a character begins or the text ends there. -/
def splitBytes? : Nat → List Char → Option (List Char × List Char)
  | 0, cs => some ([], cs)
  | _ + 1, [] => none
  | n + 1, c :: cs =>
    if c.utf8Size ≤ n + 1 then
      (splitBytes? (n + 1 - c.utf8Size) cs).map fun (front, back) => (c :: front, back)
    else none

/-- The text between two places. -/
def slice? (start stop : Nat) (cs : List Char) : Option (List Char) :=
  if start ≤ stop then do
    let (_, rest) ← splitBytes? start cs
    let (part, _) ← splitBytes? (stop - start) rest
    return part
  else none

/-- The byte at a place, whether a character begins there or not. -/
def byte? (place : Nat) (cs : List Char) : Option UInt8 :=
  (cs.flatMap String.utf8EncodeChar)[place]?

/-- The first place from which a text goes on as wanted. -/
def find? (wanted : List Char → Bool) : List Char → Option Nat
  | [] => none
  | c :: cs => if wanted (c :: cs) then some 0 else (find? wanted cs).map (c.utf8Size + ·)

/-- The place of the first character of a sort. -/
def findChar? (sort : Char → Bool) (cs : List Char) : Option Nat := find? (·.head?.any sort) cs

section Sizes

variable {c : Char} {cs front back : List Char}

/-- An empty text takes no bytes. -/
@[simp] theorem byteSize_nil : byteSize [] = 0 := rfl

/-- A character takes its bytes in front of the others. -/
@[simp] theorem byteSize_cons (c : Char) (cs : List Char) :
    byteSize (c :: cs) = c.utf8Size + byteSize cs := rfl

/-- Two texts take the bytes of both. -/
@[simp] theorem byteSize_append (front back : List Char) :
    byteSize (front ++ back) = byteSize front + byteSize back := by
  induction front with
  | nil => exact (Nat.zero_add _).symm
  | cons c front ih => rw [List.cons_append, byteSize_cons, byteSize_cons, ih, Nat.add_assoc]

/-- The size of a text is that of the string that it is. -/
theorem byteSize_eq_utf8ByteSize (cs : List Char) :
    byteSize cs = (String.ofList cs).utf8ByteSize := by
  induction cs with
  | nil => rfl
  | cons c cs ih =>
    rw [byteSize_cons, ih, String.ofList_cons, String.utf8ByteSize_append,
      String.utf8ByteSize_singleton]

/-- Only the empty text takes no byte. -/
theorem byteSize_eq_zero_iff : byteSize cs = 0 ↔ cs = [] := by
  cases cs with
  | nil => simp
  | cons c cs =>
    have positive := c.utf8Size_pos
    refine iff_of_false ?_ nofun
    rw [byteSize_cons]
    omega

/-- Of two fronts of one text the one that takes no fewer bytes begins with the other. -/
theorem exists_append_of_byteSize_le {rest : List Char} (same : front ++ rest = back ++ cs)
    (less : byteSize back ≤ byteSize front) : ∃ between, front = back ++ between := by
  rcases List.append_eq_append_iff.mp same with ⟨between, longer, -⟩ | ⟨between, shape, -⟩
  · rw [longer, byteSize_append] at less
    have none_ : between = [] := byteSize_eq_zero_iff.mp (by omega)
    exact ⟨[], by rw [longer, none_]; simp⟩
  · exact ⟨between, shape⟩

end Sizes

section Slices

variable {n start stop : Nat} {cs front back part : List Char}

/-- A text is cut where its front takes that number of bytes. -/
theorem splitBytes?_eq_some_iff :
    splitBytes? n cs = some (front, back) ↔ cs = front ++ back ∧ byteSize front = n := by
  constructor
  · intro cut
    induction cs generalizing n front with
    | nil =>
      cases n with
      | zero =>
        cases cut
        exact ⟨rfl, rfl⟩
      | succ n => cases cut
    | cons c cs ih =>
      cases n with
      | zero =>
        cases cut
        exact ⟨rfl, rfl⟩
      | succ n =>
        rw [splitBytes?] at cut
        split at cut
        · obtain ⟨⟨inner, tail⟩, inside, same⟩ := Option.map_eq_some_iff.mp cut
          cases same
          obtain ⟨rfl, size⟩ := ih inside
          refine ⟨rfl, ?_⟩
          rw [byteSize_cons]
          omega
        · cases cut
  · rintro ⟨rfl, rfl⟩
    induction front with
    | nil =>
      rw [List.nil_append]
      cases back <;> rfl
    | cons c front ih =>
      obtain ⟨n, size⟩ := Nat.exists_eq_add_of_le' c.utf8Size_pos
      have whole : byteSize (c :: front) = n + byteSize front + 1 := by
        rw [byteSize_cons, size]
        omega
      have fits : c.utf8Size ≤ n + byteSize front + 1 := by omega
      have left : n + byteSize front + 1 - c.utf8Size = byteSize front := by omega
      rw [List.cons_append, whole, splitBytes?, if_pos fits, left, ih]
      rfl

/-- A text can be cut exactly at the valid positions of its string. -/
theorem isSome_splitBytes?_iff :
    (splitBytes? n cs).isSome ↔ (⟨n⟩ : String.Pos.Raw).IsValid (String.ofList cs) := by
  rw [String.Pos.Raw.isValid_ofList, Option.isSome_iff_exists]
  constructor
  · rintro ⟨⟨front, back⟩, cut⟩
    obtain ⟨rfl, size⟩ := splitBytes?_eq_some_iff.mp cut
    exact ⟨front.length, by rw [List.take_left, ← byteSize_eq_utf8ByteSize, size]⟩
  · rintro ⟨i, place⟩
    rw [← byteSize_eq_utf8ByteSize] at place
    exact ⟨(cs.take i, cs.drop i),
      splitBytes?_eq_some_iff.mpr ⟨(List.take_append_drop i cs).symm, place.symm⟩⟩

/-- A slice is what stands between a front that takes so many bytes and the rest. -/
theorem slice?_eq_some_iff :
    slice? start stop cs = some part ↔
      ∃ before after, cs = before ++ (part ++ after) ∧ byteSize before = start ∧
        start + byteSize part = stop := by
  unfold slice?
  constructor
  · intro cut
    split at cut
    · rename_i less
      obtain ⟨⟨before, rest⟩, first, cut⟩ := Option.bind_eq_some_iff.mp cut
      obtain ⟨⟨inner, after⟩, second, same⟩ := Option.bind_eq_some_iff.mp cut
      cases same
      obtain ⟨rfl, size⟩ := splitBytes?_eq_some_iff.mp first
      obtain ⟨rfl, size'⟩ := splitBytes?_eq_some_iff.mp second
      exact ⟨before, after, rfl, size, by omega⟩
    · cases cut
  · rintro ⟨before, after, rfl, rfl, rfl⟩
    have first : splitBytes? (byteSize before) (before ++ (part ++ after)) =
        some (before, part ++ after) := splitBytes?_eq_some_iff.mpr ⟨rfl, rfl⟩
    have second : splitBytes? (byteSize before + byteSize part - byteSize before)
        (part ++ after) = some (part, after) :=
      splitBytes?_eq_some_iff.mpr ⟨rfl, by omega⟩
    rw [if_pos (Nat.le_add_right _ _), first]
    dsimp only [Option.bind_eq_bind, Option.bind_some]
    rw [second]
    rfl

/-- There is a slice exactly between two valid positions of the string, in their order. -/
theorem isSome_slice?_iff :
    (slice? start stop cs).isSome ↔ start ≤ stop ∧
      (⟨start⟩ : String.Pos.Raw).IsValid (String.ofList cs) ∧
      (⟨stop⟩ : String.Pos.Raw).IsValid (String.ofList cs) := by
  simp only [← isSome_splitBytes?_iff, Option.isSome_iff_exists, Prod.exists,
    splitBytes?_eq_some_iff, slice?_eq_some_iff]
  constructor
  · rintro ⟨part, before, after, rfl, rfl, rfl⟩
    exact ⟨Nat.le_add_right _ _, ⟨before, part ++ after, rfl, rfl⟩, before ++ part, after,
      (List.append_assoc _ _ _).symm, byteSize_append before part⟩
  · rintro ⟨less, ⟨before, rest, rfl, rfl⟩, front, after, whole, rfl⟩
    obtain ⟨part, rfl⟩ := exists_append_of_byteSize_le whole.symm less
    rw [List.append_assoc] at whole
    exact ⟨part, before, after, whole, rfl, (byteSize_append before part).symm⟩

/-- The first character takes two bytes, and a slice may not begin between them. -/
example : slice? 1 3 ['ä', 'b'] = none ∧ slice? 2 3 ['ä', 'b'] = some ['b'] := by decide

/-- The slice from a place to the end is what is left of the text there. -/
theorem slice?_rest (before rest : List Char) :
    slice? (byteSize before) (byteSize (before ++ rest)) (before ++ rest) = some rest :=
  slice?_eq_some_iff.mpr ⟨before, [], by rw [List.append_nil], rfl, (byteSize_append _ _).symm⟩

/-- Nothing is left out of a slice to the end. -/
theorem byteSize_of_slice? (cut : slice? start (byteSize cs) cs = some part) :
    start + byteSize part = byteSize cs := by
  obtain ⟨-, -, -, -, size⟩ := slice?_eq_some_iff.mp cut
  exact size

end Slices

section Bytes

variable {c : Char} {b : UInt8} {cs : List Char}

/-- Past the front of a text the bytes are those of what is left. -/
theorem byte?_append (front back : List Char) (n : Nat) :
    byte? (byteSize front + n) (front ++ back) = byte? n back := by
  have size : (front.flatMap String.utf8EncodeChar).length = byteSize front := by
    induction front with
    | nil => rfl
    | cons c front ih =>
      rw [List.flatMap_cons, List.length_append, String.length_utf8EncodeChar, ih, byteSize_cons]
  rw [byte?, List.flatMap_append, List.getElem?_append_right (by omega), size,
    Nat.add_sub_cancel_left]
  rfl

/-- The first byte of a character is the character itself if it is an ASCII one, and no ASCII
character otherwise. -/
theorem exists_utf8EncodeChar (c : Char) :
    ∃ first rest, String.utf8EncodeChar c = first :: rest ∧
      (first.toNat = c.toNat ∨ 128 ≤ c.toNat ∧ 128 ≤ first.toNat) := by
  have code : c.val.toNat = c.toNat := rfl
  fun_cases String.utf8EncodeChar c
  · refine ⟨_, _, rfl, .inl ?_⟩
    simp
    omega
  all_goals
    refine ⟨_, _, rfl, .inr ?_⟩
    simp
    omega

/-- Where a character begins, an ASCII character stands exactly if its byte does. -/
theorem byte?_zero_eq_some_iff (ascii : b.toNat < 128) :
    byte? 0 (c :: cs) = some b ↔ c.toNat = b.toNat := by
  obtain ⟨first, rest, encoded, code⟩ := exists_utf8EncodeChar c
  rw [byte?, List.flatMap_cons, encoded, List.cons_append, List.getElem?_cons_zero,
    Option.some.injEq, ← UInt8.toNat_inj]
  omega

end Bytes

section Searches

variable {n : Nat} {cs : List Char}

/-- What is found stands before the end. -/
theorem lt_byteSize_of_find? {wanted : List Char → Bool} (found : find? wanted cs = some n) :
    n < byteSize cs := by
  induction cs generalizing n with
  | nil => cases found
  | cons c cs ih =>
    have positive := c.utf8Size_pos
    rw [find?] at found
    rw [byteSize_cons]
    split at found
    · cases found
      omega
    · obtain ⟨m, inside, rfl⟩ := Option.map_eq_some_iff.mp found
      have := ih inside
      omega

/-- A character is looked for at the front and then behind the first one's bytes. -/
theorem findChar?_cons (sort : Char → Bool) (c : Char) (cs : List Char) :
    findChar? sort (c :: cs) =
      if sort c then some 0 else (findChar? sort cs).map (c.utf8Size + ·) := rfl

/-- In front of the first character of a sort stands what is of other sorts. -/
theorem findChar?_eq (sort : Char → Bool) (cs : List Char) :
    findChar? sort cs =
      (cs.dropWhile (!sort ·)).head?.map fun _ => byteSize (cs.takeWhile (!sort ·)) := by
  induction cs with
  | nil => rfl
  | cons c cs ih =>
    rw [findChar?_cons]
    cases here : sort c with
    | true => simp [here]
    | false => simp [here, ih, Function.comp_def]

end Searches

end TextTemplate.Text

import TextTemplate.Proofs.Source.Slices
import TextTemplate.Proofs.Template.Shape
/-!
# Scanning a tag by bytes

The words of a tag are scanned here from its characters with their places (`indices`), and each word
that is longer than a character is a slice between two of these places. A word knows where it stands
in the source (`LocatedWord`), and a literal stands from its first quote to its second.

Main statements: no slice fails and the words are those of `lexemes` (`words_locateWords`), and
outside of literals there is no character that may close a mark or open a literal
(`Scanned.exists_holds`).
-/
namespace TextTemplate.Source

open TextTemplate Text

/-- The characters of a text with their places, where the first one is given. -/
def indices : Nat → List Char → List (Nat × Char)
  | _, [] => []
  | n, c :: cs => (n, c) :: indices (n + c.utf8Size) cs

/-- The place of the next quote of the given kind, and the characters after it. -/
def literalEnd (quote : Char) : List (Nat × Char) → Option (Nat × List (Nat × Char))
  | [] => none
  | (place, c) :: rest => if c = quote then some (place, rest) else literalEnd quote rest

/-- The place where a run of characters of a sort ends that goes to the given place at least, and
the characters after it. Each of them takes as many bytes as `width` says. -/
def runEnd (sort : Char → Bool) (width : Char → Nat) :
    Nat → List (Nat × Char) → Nat × List (Nat × Char)
  | stop, [] => (stop, [])
  | stop, (place, c) :: rest =>
    if sort c then runEnd sort width (place + width c) rest else (stop, (place, c) :: rest)

/-- A word and where it stands. -/
structure LocatedWord where
  /-- What it is. -/
  word : Lexeme
  /-- The number of bytes of the source before it. -/
  start : Nat
  /-- The number of bytes of the source up to its end. -/
  stop : Nat

/-- The word that begins with a character, if it is no blank, and the characters after it. -/
def locateWord (source : Slice) (place : Nat) (c : Char) (rest : List (Nat × Char)) :
    ExceptT Fault Option (List LocatedWord × List (Nat × Char)) :=
  let located (word : Lexeme) (stop : Nat) : LocatedWord :=
    ⟨word, source.start + place, source.start + stop⟩
  -- Signs, quotes and digits take one byte, so their ends are reckoned by adding one.
  if isBlank c then return ([], rest)
  else match sign? c with
  | some word => return ([located word (place + 1)], rest)
  | none =>
    if isQuote c then
      match literalEnd c rest with
      | none => throw .unclosedLiteral
      | some (stop, after) => do
        let body ← sliced (source.between? (place + 1) stop)
        return ([located (.quoted (String.ofList body.text)) (stop + 1)], after)
    else if isWholeStart c then do
      let (stop, after) := runEnd Char.isDigit (fun _ => 1) (place + c.utf8Size) rest
      let digits ← sliced (source.between? place stop)
      match readWhole digits.text with
      | none => throw (.invalidInteger (String.ofList digits.text))
      | some n => return ([located (.whole n) stop], after)
    else if isNameStart c then do
      let (stop, after) := runEnd isNamePart Char.utf8Size (place + c.utf8Size) rest
      let name ← sliced (source.between? place stop)
      return ([located (.name (String.ofList name.text)) stop], after)
    else throw (.unexpectedCharacter c)

/-- The next word of a tag that goes on with the given characters, if no blank comes first; the
characters that it takes, and those after it. -/
def nextWord (c : Char) (cs : List Char) :
    Except Fault (Option Lexeme × List Char × List Char) :=
  if isBlank c then .ok (none, [c], cs)
  else match sign? c with
  | some word => .ok (some word, [c], cs)
  | none =>
    if isQuote c then
      match closeQuote c cs with
      | none => .error .unclosedLiteral
      | some (body, after) => .ok (some (.quoted (String.ofList body)), c :: (body ++ [c]), after)
    else if isWholeStart c then
      let digits := c :: cs.takeWhile Char.isDigit
      match readWhole digits with
      | none => .error (.invalidInteger (String.ofList digits))
      | some n => .ok (some (.whole n), digits, cs.dropWhile Char.isDigit)
    else if isNameStart c then
      let name := c :: cs.takeWhile isNamePart
      .ok (some (.name (String.ofList name)), name, cs.dropWhile isNamePart)
    else .error (.unexpectedCharacter c)

/-- The name of a tag and its arguments. -/
def splitTagAt (content : Slice) : Option (Slice × Slice) :=
  match findChar? isBlank content.text with
  | some place => do
    let name ← content.between? 0 place
    let args ← content.from? place
    return (name, args.trim)
  | none => some (content, ⟨content.stop, []⟩)

/-- The part of a token in which expressions may stand. -/
def LocatedToken.arguments? (token : LocatedToken) : Option Slice :=
  match token.kind with
  | .text => some ⟨token.body.start, []⟩
  | .variable => some token.content
  | .tag => (splitTagAt token.content).map (·.2)

/-- A word of a slice that takes the given characters after a text. -/
def Slice.wordAt (source : Slice) (before taken : List Char) (word : Lexeme) : LocatedWord :=
  ⟨word, source.start + byteSize before, source.start + (byteSize before + byteSize taken)⟩

section Words

variable {c : Char} {cs taken after : List Char} {word : Option Lexeme}

/-- The words of a tag are one after the other. -/
theorem lexemes_cons (c : Char) (cs : List Char) :
    lexemes (c :: cs) =
      (nextWord c cs >>= fun (word, _, after) => (word.toList ++ ·) <$> lexemes after) := by
  rw [lexemes, nextWord]
  by_cases blank : isBlank c = true
  · rw [if_pos blank, if_pos blank]
    exact (id_map _).symm
  rw [if_neg blank, if_neg blank]
  cases sign? c with
  | some word => rfl
  | none =>
    dsimp only
    by_cases quote : isQuote c = true
    · rw [if_pos quote, if_pos quote]
      split
      all_goals
        rename_i closed
        rw [closed]
        rfl
    rw [if_neg quote, if_neg quote]
    by_cases start : isWholeStart c = true
    · rw [if_pos start, if_pos start]
      cases readWhole (c :: cs.takeWhile Char.isDigit) <;> rfl
    rw [if_neg start, if_neg start]
    split <;> rfl

/-- A word takes the characters in front, and where no literal ends none that may close a mark or
open a literal. -/
theorem eq_of_nextWord (next : nextWord c cs = .ok (word, taken, after)) :
    c :: cs = taken ++ after ∧ taken ≠ [] ∧
      ((∃ s, word = some (.quoted s)) ∨ ∀ d ∈ taken, counts d = false) := by
  rw [nextWord] at next
  split at next
  · rename_i blank
    cases next
    refine ⟨rfl, List.cons_ne_nil _ _, .inr fun d member => ?_⟩
    rw [List.mem_singleton.mp member]
    exact counts_of_isBlank blank
  split at next
  · rename_i sign
    cases next
    refine ⟨rfl, List.cons_ne_nil _ _, .inr fun d member => ?_⟩
    rw [List.mem_singleton.mp member]
    unfold sign? at sign
    split at sign <;> cases sign <;> rfl
  split at next
  · split at next
    · cases next
    · rename_i closed
      cases next
      obtain ⟨rfl, -⟩ := closeQuote_eq_some_iff.mp closed
      exact ⟨by simp, List.cons_ne_nil _ _, .inl ⟨_, rfl⟩⟩
  split at next
  · rename_i start
    dsimp only at next
    split at next
    · cases next
    · cases next
      refine ⟨by simp, List.cons_ne_nil _ _,
        .inr (List.forall_mem_cons.mpr ⟨?_, fun d member => ?_⟩)⟩
      · rw [isWholeStart, Bool.or_eq_true, beq_iff_eq] at start
        rcases start with rfl | digit
        · rfl
        · exact counts_of_isDigit digit
      · exact counts_of_isDigit (List.all_eq_true.mp List.all_takeWhile d member)
  split at next
  · rename_i start
    cases next
    refine ⟨by simp, List.cons_ne_nil _ _, .inr (List.forall_mem_cons.mpr ⟨?_, fun d member => ?_⟩)⟩
    · exact counts_of_isNamePart (isNamePart_of_isNameStart start)
    · exact counts_of_isNamePart (List.all_eq_true.mp List.all_takeWhile d member)
  · cases next

/-- The place of the quote that ends a literal is the size of what the literal says. -/
theorem literalEnd_indices (quote : Char) (n : Nat) (cs : List Char) :
    literalEnd quote (indices n cs) = (closeQuote quote cs).map fun (body, after) =>
      (n + byteSize body, indices (n + byteSize body + quote.utf8Size) after) := by
  induction cs generalizing n with
  | nil => rfl
  | cons c cs ih =>
    rw [indices, literalEnd, closeQuote, ih]
    by_cases same : c = quote
    · simp [same]
    · rw [if_neg same, if_neg same, Option.map_map]
      congr 1
      funext found
      simp [Nat.add_assoc]

/-- A run ends after its characters, as long as their sizes are known. -/
theorem runEnd_indices {sort : Char → Bool} {width : Char → Nat}
    (known : ∀ c, sort c = true → width c = c.utf8Size) (n : Nat) (cs : List Char) :
    runEnd sort width n (indices n cs) =
      (n + byteSize (cs.takeWhile sort),
        indices (n + byteSize (cs.takeWhile sort)) (cs.dropWhile sort)) := by
  induction cs generalizing n with
  | nil => rfl
  | cons c cs ih =>
    rw [indices, runEnd]
    by_cases here : sort c = true
    · rw [if_pos here, known c here, ih, List.takeWhile_cons_of_pos here,
        List.dropWhile_cons_of_pos here, byteSize_cons, Nat.add_assoc]
    · rw [if_neg here, List.takeWhile_cons_of_neg here, List.dropWhile_cons_of_neg here]
      rfl

/-- A digit takes one byte. -/
theorem utf8Size_of_isDigit {c : Char} (digit : c.isDigit = true) : c.utf8Size = 1 := by
  have range := toNat_of_isDigit digit
  rw [Char.utf8Size_eq_one_iff, UInt32.le_iff_toNat_le]
  exact Nat.le_trans range.2 (by decide)

/-- A word is scanned as it is read, and no slice fails. -/
theorem locateWord_eq {source : Slice} {before : List Char}
    (shape : source.text = before ++ c :: cs) :
    locateWord source (byteSize before) c (indices (byteSize before + c.utf8Size) cs) =
      unsliced ((fun (word, taken, after) =>
        (word.toList.map (source.wordAt before taken),
          indices (byteSize before + byteSize taken) after)) <$> nextWord c cs) := by
  rw [locateWord, nextWord]
  by_cases blank : isBlank c = true
  · rw [if_pos blank, if_pos blank]
    rfl
  rw [if_neg blank, if_neg blank]
  cases sign : sign? c with
  | some word =>
    have size : c.utf8Size = 1 := by
      unfold sign? at sign
      split at sign <;> cases sign <;> rfl
    change pure ([(⟨word, _, source.start + (byteSize before + 1)⟩ : LocatedWord)],
      indices (byteSize before + c.utf8Size) cs) = _
    rw [← size]
    rfl
  | none =>
    dsimp only
    by_cases quote : isQuote c = true
    · rw [if_pos quote, if_pos quote, literalEnd_indices]
      cases closed : closeQuote c cs with
      | none => rfl
      | some found =>
        obtain ⟨body, after⟩ := found
        obtain ⟨rfl, -⟩ := closeQuote_eq_some_iff.mp closed
        have size := utf8Size_of_isQuote quote
        have cut := Slice.between?_eq (before ++ [c]) (c :: after)
          (show source.text = before ++ [c] ++ (body ++ c :: after) by simp [shape])
          (show _ = byteSize before + 1 by simp [size]) rfl
        have stop : byteSize before + byteSize (c :: (body ++ [c])) =
            byteSize before + 1 + byteSize body + 1 := by
          simp only [byteSize_cons, byteSize_append, byteSize_nil, size]
          omega
        dsimp only [Option.map_some]
        rw [size, cut, sliced_some_bind, Except.map_ok]
        simp only [Slice.wordAt, stop, Option.toList_some, List.map_cons, List.map_nil]
        rfl
    rw [if_neg quote, if_neg quote]
    by_cases start : isWholeStart c = true
    · have cut := Slice.between?_eq before (cs.dropWhile Char.isDigit)
        (show source.text = before ++ ((c :: cs.takeWhile Char.isDigit) ++ _) by simp [shape])
        rfl rfl
      rw [if_pos start, if_pos start,
        runEnd_indices fun d digit => (utf8Size_of_isDigit digit).symm]
      dsimp only
      rw [Nat.add_assoc, ← byteSize_cons, cut, sliced_some_bind]
      cases readWhole (c :: cs.takeWhile Char.isDigit) <;> rfl
    rw [if_neg start, if_neg start]
    by_cases first : isNameStart c = true
    · have cut := Slice.between?_eq before (cs.dropWhile isNamePart)
        (show source.text = before ++ ((c :: cs.takeWhile isNamePart) ++ _) by simp [shape])
        rfl rfl
      rw [if_pos first, if_pos first, runEnd_indices fun _ _ => rfl]
      dsimp only
      rw [Nat.add_assoc, ← byteSize_cons, cut, sliced_some_bind]
      rfl
    rw [if_neg first, if_neg first]
    rfl

/-- A word takes a character at least. -/
theorem length_of_nextWord (next : nextWord c cs = .ok (word, taken, after)) :
    c :: cs = taken ++ after ∧ after.length < (c :: cs).length := by
  obtain ⟨split, nonempty, -⟩ := eq_of_nextWord next
  have := List.length_pos_iff.mpr nonempty
  rw [split, List.length_append]
  exact ⟨rfl, by omega⟩

end Words

section Scanning

variable {source : Slice} {rest after : List (Nat × Char)}

/-- After a literal fewer characters are left. -/
theorem length_of_literalEnd {quote : Char} {place : Nat}
    (found : literalEnd quote rest = some (place, after)) : after.length < rest.length := by
  induction rest with
  | nil => cases found
  | cons first rest ih =>
    rw [literalEnd] at found
    rw [List.length_cons]
    split at found
    · cases found
      exact Nat.lt_succ_self _
    · exact Nat.lt_succ_of_lt (ih found)

/-- After a run no more characters are left than before. -/
theorem length_runEnd_le (sort : Char → Bool) (width : Char → Nat) (stop : Nat)
    (rest : List (Nat × Char)) : (runEnd sort width stop rest).2.length ≤ rest.length := by
  induction rest generalizing stop with
  | nil => exact Nat.le_refl _
  | cons first rest ih =>
    rw [runEnd]
    split
    · exact Nat.le_succ_of_le (ih _)
    · exact Nat.le_refl _

/-- What is left after a word is not longer than what is left after its first character. -/
theorem length_of_locateWord {place : Nat} {c : Char} {words : List LocatedWord}
    (next : (locateWord source place c rest).run = some (.ok (words, after))) :
    after.length ≤ rest.length := by
  rw [locateWord] at next
  split at next
  · cases next
    exact Nat.le_refl _
  split at next
  · cases next
    exact Nat.le_refl _
  split at next
  · split at next
    · cases next
    · rename_i found
      obtain ⟨body, -, same⟩ := run_ok_of_bind next
      cases same
      exact Nat.le_of_lt (length_of_literalEnd found)
  split at next
  · obtain ⟨digits, -, same⟩ := run_ok_of_bind next
    split at same
    · cases same
    · cases same
      exact length_runEnd_le _ _ _ _
  split at next
  · obtain ⟨name, -, same⟩ := run_ok_of_bind next
    cases same
    exact length_runEnd_le _ _ _ _
  · cases next

/-- The words that a tag goes on with from the given characters. -/
def locateWordsFrom (source : Slice) : List (Nat × Char) → ExceptT Fault Option (List LocatedWord)
  | [] => return []
  | (place, c) :: rest =>
    match _next : (locateWord source place c rest).run with
    | some (.ok (words, after)) => (words ++ ·) <$> locateWordsFrom source after
    | some (.error fault) => throw fault
    | none => sliced none
termination_by chars => chars.length
decreasing_by exact Nat.lt_succ_of_le (length_of_locateWord _next)

/-- The words of a tag. -/
def locateWords (source : Slice) : ExceptT Fault Option (List LocatedWord) :=
  locateWordsFrom source (indices 0 source.text)

/-- The first word is located, and then the others. -/
theorem locateWordsFrom_cons (source : Slice) (place : Nat) (c : Char) (rest : List (Nat × Char)) :
    locateWordsFrom source ((place, c) :: rest) =
      (locateWord source place c rest >>= fun (words, after) =>
        (words ++ ·) <$> locateWordsFrom source after) := by
  rw [locateWordsFrom]
  split
  all_goals
    rename_i next
    have next : locateWord source place c rest = ExceptT.mk _ := next
    rw [next]
    rfl

/-- No slice fails, and the words are those of the tag. -/
theorem words_locateWordsFrom {before cs : List Char} (shape : source.text = before ++ cs) :
    List.map LocatedWord.word <$> locateWordsFrom source (indices (byteSize before) cs) =
      unsliced (lexemes cs) := by
  -- A word takes any number of characters.
  induction size : cs.length using Nat.strongRecOn generalizing before cs with
  | ind n ih =>
    cases cs with
    | nil =>
      rw [indices, locateWordsFrom, lexemes]
      rfl
    | cons c cs =>
      rw [indices, locateWordsFrom_cons, locateWord_eq shape, lexemes_cons]
      rcases next : nextWord c cs with fault | ⟨word, taken, after⟩
      · rfl
      · obtain ⟨split, shorter⟩ := length_of_nextWord next
        rw [split, ← List.append_assoc] at shape
        have later := ih _ (by rw [← size]; exact shorter) shape rfl
        rw [byteSize_append] at later
        have front : (word.toList.map (source.wordAt before taken)).map LocatedWord.word =
            word.toList := by cases word <;> rfl
        have goesOn := map_append_unsliced (word.toList.map (source.wordAt before taken)) later
        rwa [front] at goesOn

/-- The words of a tag by bytes are its words, and no slice fails. -/
theorem words_locateWords (source : Slice) :
    List.map LocatedWord.word <$> locateWords source = unsliced (lexemes source.text) :=
  words_locateWordsFrom (List.nil_append _).symm

/-- A place is inside a literal. -/
def LocatedWord.Holds (word : LocatedWord) (place : Nat) : Prop :=
  (∃ s, word.word = .quoted s) ∧ word.start ≤ place ∧ place < word.stop

/-- The words that are scanned in what follows on a text. -/
inductive Scanned (source : Slice) : List Char → List Char → List LocatedWord → Prop
  | nil {before : List Char} : Scanned source before [] []
  | cons {before cs taken after : List Char} {c : Char} {word : Option Lexeme}
    {words : List LocatedWord} (next : nextWord c cs = .ok (word, taken, after))
    (later : Scanned source (before ++ taken) after words) :
    Scanned source before (c :: cs) (word.toList.map (source.wordAt before taken) ++ words)

/-- Words that were located after a text were scanned from what follows on it. -/
theorem scanned_of_locateWordsFrom {before cs : List Char} {words : List LocatedWord}
    (shape : source.text = before ++ cs)
    (done : (locateWordsFrom source (indices (byteSize before) cs)).run = some (.ok words)) :
    Scanned source before cs words := by
  induction size : cs.length using Nat.strongRecOn generalizing before cs words with
  | ind n ih =>
    cases cs with
    | nil =>
      rw [indices, locateWordsFrom] at done
      cases done
      exact .nil
    | cons c cs =>
      rw [indices, locateWordsFrom_cons, locateWord_eq shape] at done
      rcases next : nextWord c cs with fault | ⟨word, taken, after⟩
      · rw [next] at done
        cases done
      · rw [next] at done
        obtain ⟨later, onward, rfl⟩ := run_ok_of_map done
        obtain ⟨split, shorter⟩ := length_of_nextWord next
        rw [split, ← List.append_assoc] at shape
        rw [← byteSize_append] at onward
        exact .cons next (ih _ (by rw [← size]; exact shorter) shape onward rfl)

end Scanning

/-- What stands in a text and not in its front stands behind it. -/
theorem exists_append_of_not_mem {α : Type} {first rest front back : List α} {a : α}
    (shape : first ++ rest = front ++ a :: back) (free : a ∉ first) :
    ∃ front', front = first ++ front' ∧ rest = front' ++ a :: back := by
  rcases List.append_eq_append_iff.mp shape with ⟨mid, longer, behind⟩ | ⟨mid, shorter, behind⟩
  · exact ⟨mid, longer, behind⟩
  · cases mid with
    | nil => exact ⟨[], by rw [shorter, List.append_nil, List.append_nil], behind.symm⟩
    | cons d mid =>
      obtain ⟨rfl, -⟩ := List.cons.inj behind
      exact absurd (by rw [shorter]; exact List.mem_append_right _ List.mem_cons_self) free

namespace Scanned

variable {source : Slice} {before cs : List Char} {words : List LocatedWord}

/-- Words stand in what they were scanned from. -/
theorem within (scanned : Scanned source before cs words) {word : LocatedWord}
    (member : word ∈ words) :
    source.start + byteSize before ≤ word.start ∧
      word.stop ≤ source.start + (byteSize before + byteSize cs) := by
  induction scanned with
  | nil => cases member
  | cons next later ih =>
    obtain ⟨split, -, -⟩ := eq_of_nextWord next
    rw [split, byteSize_append]
    rcases List.mem_append.mp member with here | there
    · obtain ⟨lexeme, -, rfl⟩ := List.mem_map.mp here
      dsimp only [Slice.wordAt]
      omega
    · have := ih there
      rw [byteSize_append] at this
      omega

/-- A character that may close a mark or open a literal stands in one of the literals. -/
theorem exists_holds (scanned : Scanned source before cs words) {front back : List Char} {c : Char}
    (shape : cs = front ++ c :: back) (counting : counts c = true) :
    ∃ word ∈ words, word.Holds (source.start + (byteSize before + byteSize front)) := by
  induction scanned generalizing front with
  | nil => simp at shape
  | @cons before cs taken after first word words next later ih =>
    obtain ⟨split, -, sort⟩ := eq_of_nextWord next
    rw [split] at shape
    have onward {front' : List Char} (longer : front = taken ++ front')
        (rest : after = front' ++ c :: back) :
        ∃ found ∈ word.toList.map (source.wordAt before taken) ++ words,
          found.Holds (source.start + (byteSize before + byteSize front)) := by
      obtain ⟨found, member, holds⟩ := ih rest
      refine ⟨found, List.mem_append_right _ member, ?_⟩
      rwa [byteSize_append, Nat.add_assoc, ← byteSize_append, ← longer] at holds
    by_cases inside : byteSize taken ≤ byteSize front
    · obtain ⟨front', longer⟩ := exists_append_of_byteSize_le shape.symm inside
      rw [longer, List.append_assoc] at shape
      exact onward longer (List.append_cancel_left shape)
    · rcases sort with ⟨s, rfl⟩ | plain
      · refine ⟨_, List.mem_append_left _ (List.mem_singleton.mpr rfl), ⟨s, rfl⟩, ?_, ?_⟩
        · exact Nat.add_le_add_left (Nat.le_add_right _ _) _
        · rw [Slice.wordAt]
          dsimp only
          omega
      · obtain ⟨front', longer, -⟩ := exists_append_of_not_mem shape
          fun member => by rw [plain c member] at counting; cases counting
        rw [longer, byteSize_append] at inside
        omega

end Scanned

section Tokens

/-- The name of a tag is what comes before the first blank, and no slice fails. -/
theorem splitTagAt_eq (content : Slice) :
    splitTagAt content = some (⟨content.start, content.text.takeWhile (!isBlank ·)⟩,
      (⟨content.start + byteSize (content.text.takeWhile (!isBlank ·)),
        content.text.dropWhile (!isBlank ·)⟩ : Slice).trim) := by
  obtain ⟨n, cs⟩ := content
  have split := List.takeWhile_append_dropWhile (p := (!isBlank ·)) (l := cs)
  rw [splitTagAt, findChar?_eq]
  dsimp only
  cases behind : cs.dropWhile (!isBlank ·) with
  | nil =>
    rw [behind, List.append_nil] at split
    rw [split]
    rfl
  | cons c after =>
    rw [behind] at split
    have name := Slice.between?_eq [] (c :: after)
      (show (⟨n, cs⟩ : Slice).text = [] ++ (cs.takeWhile (!isBlank ·) ++ c :: after) from
        split.symm) byteSize_nil (Nat.zero_add _)
    have args := Slice.from?_eq (cs.takeWhile (!isBlank ·))
      (show (⟨n, cs⟩ : Slice).text = _ ++ c :: after from split.symm) rfl
    dsimp only [List.head?_cons, Option.map_some]
    rw [name, args]
    rfl

/-- The part of a token by bytes is its part. -/
theorem text_arguments? (token : LocatedToken) :
    token.arguments?.map Slice.text = some token.token.inner := by
  obtain ⟨kind, body, line⟩ := token
  cases kind with
  | text => rfl
  | «variable» => rfl
  | tag =>
    rw [LocatedToken.arguments?, splitTagAt_eq]
    rfl

end Tokens

end TextTemplate.Source

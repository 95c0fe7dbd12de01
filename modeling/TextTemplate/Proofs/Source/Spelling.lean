import TextTemplate.Source.Lexeme
import Mathlib.Data.List.Forall2
/-!
# How words are written

A word of a tag can be written in more than one way: a literal between quotes of either kind, a
number with zeros in front. `Lexeme.Spelled` lists the ways. Written words are laid out one after
the other with blanks around them as one likes (`Laid`); only where the first character of a word
would belong to the word before it must there be a blank between the two.

Main statement: words are read from a text exactly if the text is such a layout of them
(`lexemes_eq_ok_iff`).
-/
namespace TextTemplate.Source

open TextTemplate

/-- A name: a character that a name may begin with, and characters that may stand in a name. -/
inductive IsName : List Char → Prop
  | intro {c : Char} {rest : List Char} (start : Text.isNameStart c = true)
    (parts : ∀ d ∈ rest, Text.isNamePart d = true) : IsName (c :: rest)

instance : DecidablePred IsName
  | [] => .isFalse nofun
  | c :: rest =>
    decidable_of_iff (Text.isNameStart c = true ∧ rest.all Text.isNamePart = true)
      ⟨fun ⟨start, parts⟩ => .intro start (List.all_eq_true.mp parts),
        fun | .intro start parts => ⟨start, List.all_eq_true.mpr parts⟩⟩

/-- A run of ASCII digits. -/
structure IsDigits (cs : List Char) : Prop where
  /-- There is a digit at least. -/
  nonempty : cs ≠ []
  /-- There is nothing else. -/
  digits : ∀ c ∈ cs, c.isDigit = true

/-- The ways in which a word is written. -/
inductive Lexeme.Spelled : Lexeme → List Char → Prop
  | name {cs : List Char} (named : IsName cs) : Spelled (.name (String.ofList cs)) cs
  | digits {cs : List Char} {n : Int64} (run : IsDigits cs)
    (value : n.toInt = Nat.ofDigitChars 10 cs 0) : Spelled (.whole n) cs
  | negative {cs : List Char} {n : Int64} (run : IsDigits cs)
    (value : n.toInt = -(Nat.ofDigitChars 10 cs 0 : Int)) : Spelled (.whole n) ('-' :: cs)
  | quoted {cs : List Char} {quote : Char} (opens : isQuote quote = true) (free : quote ∉ cs) :
    Spelled (.quoted (String.ofList cs)) (quote :: (cs ++ [quote]))
  | dot : Spelled .dot ['.']
  | bar : Spelled .bar ['|']
  | colon : Spelled .colon [':']

/-- Whether a character right after a written word would belong to that word. -/
def continues : List Char → Char → Bool
  | [], _ => false
  | first :: _, c =>
    (Text.isNameStart first && Text.isNamePart c) || (isWholeStart first && c.isDigit)

/-- Texts one after the other, with blanks before, between and after them. Two may stand side by
side if the second does not go on with the first. -/
inductive Laid : List (List Char) → List Char → Prop
  | nil {blanks : List Char} (blank : ∀ c ∈ blanks, Text.isBlank c = true) : Laid [] blanks
  | cons {gap text rest : List Char} {texts : List (List Char)}
    (blank : ∀ c ∈ gap, Text.isBlank c = true)
    (apart : ∀ c ∈ rest.head?, continues text c = false) (later : Laid texts rest) :
    Laid (text :: texts) (gap ++ (text ++ rest))

/-- A text in which words are written one after the other. -/
def Spells (words : List Lexeme) (cs : List Char) : Prop :=
  ∃ texts, List.Forall₂ Lexeme.Spelled words texts ∧ Laid texts cs

section Characters

/-- The code points of blanks. -/
def blankCodes : List Nat := Text.blankRanges.flatMap fun range =>
  (List.range (range.2 + 1 - range.1)).map (range.1 + ·)

/-- A blank has one of the codes. -/
theorem mem_blankCodes {c : Char} (blank : Text.isBlank c = true) : c.toNat ∈ blankCodes := by
  obtain ⟨range, member, low, high⟩ := Text.Ranges.exists_of_holds blank
  refine List.mem_flatMap.mpr ⟨range, member, List.mem_map.mpr ⟨c.toNat - range.1, ?_, ?_⟩⟩
  · exact List.mem_range.mpr (by omega)
  · omega

/-- A blank is no part of a name. -/
theorem isNamePart_of_isBlank {c : Char} (blank : Text.isBlank c = true) :
    Text.isNamePart c = false := by
  have none : ∀ code ∈ blankCodes, Text.letterRanges.holds code = false ∧
      Text.numeralRanges.holds code = false ∧ code ≠ '_'.toNat := by
    decide +kernel
  obtain ⟨letter, numeral, underscore⟩ := none c.toNat (mem_blankCodes blank)
  have other : (c == '_') = false := by
    rw [beq_eq_false_iff_ne]
    rintro rfl
    exact underscore rfl
  rw [Text.isNamePart, Text.isLetter, Text.isNumeral, letter, numeral, other]
  rfl

/-- What no character of a text satisfies fails at each of them. -/
theorem eq_false_of_any {p : Char → Bool} {cs : List Char} (none : cs.any p = false) :
    ∀ c ∈ cs, p c = false :=
  fun c member => Bool.eq_false_iff.mpr (List.any_eq_false.mp none c member)

/-- A digit lies between `0` and `9`. -/
theorem toNat_of_isDigit {c : Char} (digit : c.isDigit = true) : 48 ≤ c.toNat ∧ c.toNat ≤ 57 := by
  rw [Char.isDigit, Bool.and_eq_true, decide_eq_true_eq, decide_eq_true_eq] at digit
  exact ⟨UInt32.le_iff_toNat_le.mp digit.1, UInt32.le_iff_toNat_le.mp digit.2⟩

/-- A blank is no digit. -/
theorem isDigit_of_isBlank {c : Char} (blank : Text.isBlank c = true) : c.isDigit = false := by
  have none : ∀ code ∈ blankCodes, ¬ (48 ≤ code ∧ code ≤ 57) := by decide +kernel
  have outside := none c.toNat (mem_blankCodes blank)
  rw [Bool.eq_false_iff]
  exact fun digit => outside (toNat_of_isDigit digit)

/-- A blank belongs to no word before it. -/
theorem continues_of_isBlank {c : Char} (blank : Text.isBlank c = true) (text : List Char) :
    continues text c = false := by
  cases text with
  | nil => rfl
  | cons first rest => simp [continues, isNamePart_of_isBlank blank, isDigit_of_isBlank blank]

/-- A name begins with no character with which words of other kinds begin, and with no blank. -/
theorem sort_of_isNameStart {c : Char} (start : Text.isNameStart c = true) :
    Text.isBlank c = false ∧ sign? c = none ∧ isQuote c = false ∧ isWholeStart c = false := by
  refine ⟨?_, ?_, ?_, ?_⟩
  · rw [Bool.eq_false_iff]
    intro blank
    have part := Text.isNamePart_of_isNameStart start
    rw [isNamePart_of_isBlank blank] at part
    cases part
  · unfold sign?
    split <;> first | rfl | exact absurd start (by decide +kernel)
  · rw [isQuote, Bool.or_eq_false_iff, beq_eq_false_iff_ne, beq_eq_false_iff_ne]
    constructor <;> rintro rfl <;> exact absurd start (by decide +kernel)
  · rw [isWholeStart, Bool.or_eq_false_iff, beq_eq_false_iff_ne]
    constructor
    · rintro rfl
      exact absurd start (by decide +kernel)
    · rw [Bool.eq_false_iff]
      intro digit
      have none : ∀ code < 58, 48 ≤ code →
          Text.letterRanges.holds code = false ∧ code ≠ '_'.toNat := by
        decide +kernel
      have range := toNat_of_isDigit digit
      obtain ⟨letter, underscore⟩ := none c.toNat (by omega) range.1
      rw [Text.isNameStart, Text.isLetter, letter, Bool.false_or, beq_iff_eq] at start
      exact underscore (congrArg Char.toNat start)

/-- A number begins with no character with which a sign or a literal begins, and with no blank. -/
theorem sort_of_isWholeStart {c : Char} (start : isWholeStart c = true) :
    Text.isBlank c = false ∧ sign? c = none ∧ isQuote c = false := by
  rw [isWholeStart, Bool.or_eq_true, beq_iff_eq] at start
  rcases start with rfl | digit
  · decide +kernel
  · have range := toNat_of_isDigit digit
    refine ⟨?_, ?_, ?_⟩
    · rw [Bool.eq_false_iff]
      intro blank
      rw [isDigit_of_isBlank blank] at digit
      cases digit
    · unfold sign?
      split <;> first | rfl | exact absurd digit (by decide)
    · rw [isQuote, Bool.or_eq_false_iff, beq_eq_false_iff_ne, beq_eq_false_iff_ne]
      constructor <;> rintro rfl <;> exact absurd digit (by decide)

/-- With a number begins no name. -/
theorem isNameStart_of_isWholeStart {c : Char} (start : isWholeStart c = true) :
    Text.isNameStart c = false := by
  rw [Bool.eq_false_iff]
  intro name
  have other := (sort_of_isNameStart name).2.2.2
  rw [start] at other
  cases other

/-- Nothing goes on with a literal. -/
theorem continues_of_isQuote {c : Char} (opens : isQuote c = true) (rest : List Char) (d : Char) :
    continues (c :: rest) d = false := by
  rw [isQuote, Bool.or_eq_true, beq_iff_eq, beq_iff_eq] at opens
  have start : Text.isNameStart c = false ∧ isWholeStart c = false := by
    rcases opens with rfl | rfl <;> decide +kernel
  rw [continues, start.1, start.2]
  rfl

/-- A word of one character is written with it, and nothing goes on with it. -/
theorem spelled_of_sign? {c : Char} {word : Lexeme} (sign : sign? c = some word) :
    word.Spelled [c] ∧ ∀ d, continues [c] d = false := by
  have past : Text.isNameStart '.' = false ∧ Text.isNameStart '|' = false ∧
      Text.isNameStart ':' = false := by
    decide +kernel
  unfold sign? at sign
  split at sign <;> cases sign
  · exact ⟨.dot, fun d => by rw [continues, past.1]; rfl⟩
  · exact ⟨.bar, fun d => by rw [continues, past.2.1]; rfl⟩
  · exact ⟨.colon, fun d => by rw [continues, past.2.2]; rfl⟩

/-- A literal begins with no character that is a sign, and with no blank. -/
theorem sort_of_isQuote {c : Char} (opens : isQuote c = true) :
    Text.isBlank c = false ∧ sign? c = none := by
  rw [isQuote, Bool.or_eq_true, beq_iff_eq, beq_iff_eq] at opens
  rcases opens with rfl | rfl <;> decide +kernel

end Characters

section Numbers

/-- An integer in range is the whole number that it is equal to. -/
theorem whole?_eq_some_iff {z : Int} {n : Int64} : Text.whole? z = some n ↔ n.toInt = z := by
  constructor
  · intro found
    unfold Text.whole? at found
    split at found
    · rename_i range
      obtain ⟨low, high⟩ := range
      cases found
      unfold Text.wholeMin at low
      unfold Text.wholeMax at high
      exact Int64.toInt_ofInt_of_le low (by omega)
    · cases found
  · rintro rfl
    exact Text.whole?_toInt n

/-- Digits are read as the number that they write. -/
theorem natOfDigits?_of_isDigits {cs : List Char} (run : IsDigits cs) :
    Text.natOfDigits? cs = some (Nat.ofDigitChars 10 cs 0) := by
  have nonempty : cs.isEmpty = false := by simp [run.nonempty]
  have digits : cs.all Char.isDigit = true := List.all_eq_true.mpr run.digits
  simp [Text.natOfDigits?, nonempty, digits]

/-- What is read as a number is written in digits. -/
theorem isDigits_of_natOfDigits? {cs : List Char} {value : Nat}
    (read : Text.natOfDigits? cs = some value) :
    IsDigits cs ∧ value = Nat.ofDigitChars 10 cs 0 := by
  unfold Text.natOfDigits? at read
  split at read
  · cases read
  · rename_i nonempty
    split at read
    · rename_i digits
      cases read
      exact ⟨⟨by simpa using nonempty, List.all_eq_true.mp digits⟩, rfl⟩
    · cases read

/-- A number without a sign is read as its digits. -/
theorem integer?_of_digit {c : Char} {rest : List Char} (digit : c.isDigit = true) {z : Int} :
    Text.integer? (c :: rest) = some z ↔
      ∃ value : Nat, Text.natOfDigits? (c :: rest) = some value ∧ (value : Int) = z := by
  unfold Text.integer?
  split
  · rename_i shape
    cases shape
    exact absurd digit (by decide)
  · rename_i shape
    cases shape
    exact absurd digit (by decide)
  · cases Text.natOfDigits? (c :: rest) <;> simp

/-- A number after a minus sign is the opposite of its digits. -/
theorem integer?_minus {rest : List Char} {z : Int} :
    Text.integer? ('-' :: rest) = some z ↔
      ∃ value : Nat, Text.natOfDigits? rest = some value ∧ -(value : Int) = z := by
  unfold Text.integer?
  cases read : Text.natOfDigits? rest <;> simp [read]

/-- What is read as a whole number is a number in its range, and is written so. -/
theorem readWhole_eq_some_iff {c : Char} {rest : List Char} {n : Int64}
    (start : isWholeStart c = true) :
    Text.readWhole (c :: rest) = some n ↔ Lexeme.Spelled (.whole n) (c :: rest) := by
  rw [Text.readWhole, Option.bind_eq_some_iff]
  constructor
  · rintro ⟨z, read, inRange⟩
    have value := whole?_eq_some_iff.mp inRange
    rw [isWholeStart, Bool.or_eq_true, beq_iff_eq] at start
    rcases start with rfl | digit
    · obtain ⟨k, digits, rfl⟩ := integer?_minus.mp read
      obtain ⟨run, rfl⟩ := isDigits_of_natOfDigits? digits
      exact .negative run value
    · obtain ⟨k, digits, rfl⟩ := (integer?_of_digit digit).mp read
      obtain ⟨run, rfl⟩ := isDigits_of_natOfDigits? digits
      exact .digits run value
  · intro spelled
    cases spelled with
    | digits run value =>
      have digit := run.digits c List.mem_cons_self
      have read := (integer?_of_digit digit).mpr ⟨_, natOfDigits?_of_isDigits run, rfl⟩
      exact ⟨_, read, whole?_eq_some_iff.mpr value⟩
    | negative run value =>
      have read := integer?_minus.mpr ⟨_, natOfDigits?_of_isDigits run, rfl⟩
      exact ⟨_, read, whole?_eq_some_iff.mpr value⟩

end Numbers

section Reading

variable {words : List Lexeme} {word : Lexeme} {text rest cs : List Char}

/-- Blanks before words are skipped. -/
theorem lexemes_blanks {gap : List Char} (blank : ∀ c ∈ gap, Text.isBlank c = true)
    (cs : List Char) : lexemes (gap ++ cs) = lexemes cs := by
  induction gap with
  | nil => rfl
  | cons c gap ih =>
    have here := blank c List.mem_cons_self
    rw [List.cons_append, lexemes, if_pos here]
    exact ih fun d member => blank d (List.mem_cons_of_mem _ member)

/-- What was mapped to a success was one. -/
theorem ok_of_map {ε α β : Type} {f : α → β} {x : Except ε α} {result : β}
    (mapped : f <$> x = .ok result) : ∃ v, x = .ok v ∧ f v = result := by
  cases x with
  | error cause => cases mapped
  | ok v => exact ⟨v, rfl, Except.ok.inj mapped⟩

/-- What is left after a run does not go on with it. -/
theorem head?_dropWhile_eq_false {p : Char → Bool} {cs : List Char} {c : Char}
    (first : c ∈ (cs.dropWhile p).head?) : p c = false := by
  have stop := List.head?_dropWhile_not p cs
  rw [Option.mem_def.mp first] at stop
  simpa using stop

/-- A run is taken as far as it goes. -/
theorem takeWhile_run {p : Char → Bool} {run rest : List Char} (holds : ∀ c ∈ run, p c = true)
    (stops : ∀ c ∈ rest.head?, p c = false) :
    (run ++ rest).takeWhile p = run ∧ (run ++ rest).dropWhile p = rest := by
  rw [List.takeWhile_append_of_pos holds, List.dropWhile_append_of_pos holds]
  cases rest with
  | nil => simp
  | cons c rest =>
    have stop := stops c rfl
    simp [stop]

/-- Blanks after a run belong to what is left after it. -/
theorem takeWhile_append_blanks {p : Char → Bool} {blanks : List Char}
    (other : ∀ c, Text.isBlank c = true → p c = false)
    (blank : ∀ c ∈ blanks, Text.isBlank c = true) (cs : List Char) :
    (cs ++ blanks).takeWhile p = cs.takeWhile p ∧
      (cs ++ blanks).dropWhile p = cs.dropWhile p ++ blanks := by
  have stops : ∀ c ∈ ((cs.dropWhile p) ++ blanks).head?, p c = false := by
    intro c first
    cases left : cs.dropWhile p with
    | nil =>
      rw [left, List.nil_append] at first
      exact other c (blank c (List.mem_of_mem_head? first))
    | cons d rest =>
      rw [left] at first
      cases first
      exact head?_dropWhile_eq_false (by rw [left]; rfl)
  have holds : ∀ c ∈ cs.takeWhile p, p c = true :=
    fun c member => List.all_eq_true.mp List.all_takeWhile c member
  have split : cs ++ blanks = cs.takeWhile p ++ (cs.dropWhile p ++ blanks) := by
    rw [← List.append_assoc, List.takeWhile_append_dropWhile]
  rw [split]
  exact takeWhile_run holds stops

/-- A literal is read up to the next quote of its kind. -/
theorem lexemes_literal {quote : Char} (opens : isQuote quote = true) (cs : List Char) :
    lexemes (quote :: cs) =
      match closeQuote quote cs with
      | none => .error .unclosedLiteral
      | some (body, after) => (.quoted (String.ofList body) :: ·) <$> lexemes after := by
  obtain ⟨blank, sign⟩ := sort_of_isQuote opens
  rw [lexemes]
  simp only [blank, sign, opens, Bool.false_eq_true, if_false, if_true]
  split
  · rename_i none
    rw [none]
  · rename_i found
    rw [found]

/-- A whole number is read, if no digit follows. -/
theorem lexemes_whole {c : Char} {tail : List Char} {n : Int64} (start : isWholeStart c = true)
    (digits : ∀ d ∈ tail, d.isDigit = true) (spelled : Lexeme.Spelled (.whole n) (c :: tail))
    (apart : ∀ d ∈ rest.head?, continues (c :: tail) d = false) :
    lexemes (c :: (tail ++ rest)) = (.whole n :: ·) <$> lexemes rest := by
  obtain ⟨blank, sign, quote⟩ := sort_of_isWholeStart start
  have stops : ∀ d ∈ rest.head?, d.isDigit = false := by
    intro d head
    have free := apart d head
    rw [continues, Bool.or_eq_false_iff, start, Bool.true_and] at free
    exact free.2
  obtain ⟨taken, dropped⟩ := takeWhile_run digits stops
  have read := (readWhole_eq_some_iff start).mpr spelled
  rw [lexemes]
  simp [blank, sign, quote, start, taken, dropped, read]

/-- A written word is read, if what follows does not go on with it. -/
theorem lexemes_spelled (spelled : word.Spelled text)
    (apart : ∀ c ∈ rest.head?, continues text c = false) :
    lexemes (text ++ rest) = (word :: ·) <$> lexemes rest := by
  cases spelled with
  | name named =>
    obtain ⟨start, parts⟩ := named
    rename_i c tail
    obtain ⟨blank, sign, quote, whole⟩ := sort_of_isNameStart start
    have stops : ∀ d ∈ rest.head?, Text.isNamePart d = false := by
      intro d head
      have free := apart d head
      rw [continues, Bool.or_eq_false_iff, start, Bool.true_and] at free
      exact free.1
    obtain ⟨taken, dropped⟩ := takeWhile_run parts stops
    rw [List.cons_append, lexemes]
    simp [blank, sign, quote, whole, start, taken, dropped]
  | digits run value =>
    cases text with
    | nil => exact absurd rfl run.nonempty
    | cons c tail =>
      have digit := run.digits c List.mem_cons_self
      have start : isWholeStart c = true := by simp [isWholeStart, digit]
      exact lexemes_whole start (fun d member => run.digits d (List.mem_cons_of_mem _ member))
        (.digits run value) apart
  | negative run value => exact lexemes_whole rfl run.digits (.negative run value) apart
  | @quoted body quote opens free =>
    have closed : closeQuote quote (body ++ quote :: rest) = some (body, rest) :=
      closeQuote_eq_some_iff.mpr ⟨rfl, free⟩
    rw [List.cons_append, List.append_assoc, List.singleton_append, lexemes_literal opens, closed]
  | dot => rw [List.singleton_append, lexemes]; rfl
  | bar => rw [List.singleton_append, lexemes]; rfl
  | colon => rw [List.singleton_append, lexemes]; rfl

/-- No words are read from nothing. -/
theorem Spells.nil : Spells [] [] := ⟨[], .nil, .nil nofun⟩

/-- A blank in front spells nothing more. -/
theorem Spells.blank {c : Char} (blank : Text.isBlank c = true) (spells : Spells words cs) :
    Spells words (c :: cs) := by
  obtain ⟨texts, spelled, laid⟩ := spells
  refine ⟨texts, spelled, ?_⟩
  cases laid with
  | nil blanks => exact .nil (by simpa [blank] using blanks)
  | @cons gap text rest texts blanks apart later =>
    have more : ∀ d ∈ c :: gap, Text.isBlank d = true := by simpa [blank] using blanks
    exact .cons more apart later

/-- A word in front is spelled before the others, unless it would go on with them. -/
theorem Spells.cons (spelled : word.Spelled text)
    (apart : ∀ c ∈ rest.head?, continues text c = false) (spells : Spells words rest) :
    Spells (word :: words) (text ++ rest) := by
  obtain ⟨texts, others, laid⟩ := spells
  have first : Laid (text :: texts) ([] ++ (text ++ rest)) := .cons nofun apart laid
  exact ⟨text :: texts, .cons spelled others, first⟩

/-- Blanks after words do not matter. -/
theorem lexemes_append_blanks {blanks : List Char}
    (blank : ∀ c ∈ blanks, Text.isBlank c = true) (cs : List Char) :
    lexemes (cs ++ blanks) = lexemes cs := by
  fun_induction lexemes cs with
  | case1 =>
    have skipped := lexemes_blanks blank []
    rw [List.append_nil] at skipped
    rw [List.nil_append, skipped, lexemes]
  | case2 c rest here ih => rw [List.cons_append, lexemes, if_pos here, ih]
  | case3 c rest here word sign ih =>
    rw [List.cons_append, lexemes]
    simp [here, sign, ih]
  | case4 c rest here sign quote lone =>
    have still : closeQuote c (rest ++ blanks) = none := by
      rw [closeQuote_eq_none_iff] at lone ⊢
      intro member
      rcases List.mem_append.mp member with inside | after
      · exact lone inside
      · have first := (sort_of_isQuote quote).1
        rw [blank c after] at first
        cases first
    rw [List.cons_append, lexemes_literal quote, still]
  | case5 c rest here sign quote body after found ih =>
    have still : closeQuote c (rest ++ blanks) = some (body, after ++ blanks) := by
      obtain ⟨rfl, free⟩ := closeQuote_eq_some_iff.mp found
      exact closeQuote_eq_some_iff.mpr ⟨by rw [List.append_assoc]; rfl, free⟩
    rw [List.cons_append, lexemes_literal quote, still]
    dsimp only
    rw [ih]
  | case6 c rest here sign quote whole digits bad =>
    obtain ⟨taken, dropped⟩ := takeWhile_append_blanks (fun _ => isDigit_of_isBlank) blank rest
    change Text.readWhole (c :: rest.takeWhile Char.isDigit) = none at bad
    rw [List.cons_append, lexemes]
    simp only [here, sign, quote, whole, Bool.false_eq_true, if_false, if_true, taken, bad]
    rfl
  | case7 c rest here sign quote whole digits n number =>
    rename_i ih
    obtain ⟨taken, dropped⟩ := takeWhile_append_blanks (fun _ => isDigit_of_isBlank) blank rest
    change Text.readWhole (c :: rest.takeWhile Char.isDigit) = some n at number
    rw [List.cons_append, lexemes]
    simp [here, sign, quote, whole, taken, dropped, number, ih]
  | case8 c rest here sign quote whole start name =>
    rename_i ih
    obtain ⟨taken, dropped⟩ := takeWhile_append_blanks (fun _ => isNamePart_of_isBlank) blank rest
    rw [List.cons_append, lexemes]
    simp only [here, sign, quote, whole, start, Bool.false_eq_true, if_false, if_true, taken,
      dropped, ih]
    rfl
  | case9 c rest here sign quote whole start =>
    rw [List.cons_append, lexemes]
    simp [here, sign, quote, whole, start]

/-- Blanks around words do not matter. -/
theorem lexemes_trim (cs : List Char) : lexemes (Text.trim cs) = lexemes cs := by
  obtain ⟨before, after, split, blank, blank'⟩ := Text.eq_append_trim cs
  conv => rhs; rw [split]
  rw [lexemes_append_blanks blank', lexemes_blanks blank]

/-- A text from which words are read is a layout of them. -/
theorem spells_of_lexemes (read : lexemes cs = .ok words) : Spells words cs := by
  fun_induction lexemes cs generalizing words with
  | case1 =>
    cases read
    exact .nil
  | case2 c rest blank ih => exact .blank blank (ih read)
  | case3 c rest blank word sign ih =>
    obtain ⟨later, after, rfl⟩ := ok_of_map read
    obtain ⟨spelled, past⟩ := spelled_of_sign? sign
    exact (ih after).cons spelled fun d _ => past d
  | case4 => cases read
  | case5 c rest blank sign quote body after found ih =>
    obtain ⟨later, after, rfl⟩ := ok_of_map read
    obtain ⟨rfl, free⟩ := closeQuote_eq_some_iff.mp found
    have past := continues_of_isQuote quote (body ++ [c])
    have written := (ih after).cons (.quoted quote free) fun d _ => past d
    rwa [List.cons_append, List.append_assoc, List.singleton_append] at written
  | case6 => cases read
  | case7 c rest blank sign quote whole digits n number =>
    rename_i ih
    obtain ⟨later, after, rfl⟩ := ok_of_map read
    have spelled := (readWhole_eq_some_iff whole).mp number
    have apart : ∀ d ∈ (rest.dropWhile Char.isDigit).head?, continues digits d = false := by
      intro d head
      have stop := head?_dropWhile_eq_false head
      simp [digits, continues, stop, isNameStart_of_isWholeStart whole]
    have written := (ih after).cons spelled apart
    rwa [List.cons_append, List.takeWhile_append_dropWhile] at written
  | case8 c rest blank sign quote whole start name =>
    rename_i ih
    obtain ⟨later, after, rfl⟩ := ok_of_map read
    have parts : ∀ d ∈ rest.takeWhile Text.isNamePart, Text.isNamePart d = true :=
      fun d member => List.all_eq_true.mp List.all_takeWhile d member
    have apart : ∀ d ∈ (rest.dropWhile Text.isNamePart).head?,
        continues (c :: rest.takeWhile Text.isNamePart) d = false := by
      intro d head
      have stop := head?_dropWhile_eq_false head
      simp only [Bool.not_eq_true] at whole
      simp [continues, stop, whole]
    have written := (ih after).cons (.name (.intro start parts)) apart
    rwa [List.cons_append, List.takeWhile_append_dropWhile] at written
  | case9 => cases read

/-- From a layout of words these words are read. -/
theorem lexemes_of_spells (spells : Spells words cs) : lexemes cs = .ok words := by
  obtain ⟨texts, spelled, laid⟩ := spells
  induction laid generalizing words with
  | nil blank =>
    cases spelled
    have skipped := lexemes_blanks blank []
    rw [List.append_nil] at skipped
    rw [skipped, lexemes]
  | cons blank apart later ih =>
    cases spelled with
    | cons first others =>
      rw [lexemes_blanks blank, lexemes_spelled first apart, ih others]
      rfl

/-- Words are read from a text exactly if it is a layout of them. -/
theorem lexemes_eq_ok_iff : lexemes cs = .ok words ↔ Spells words cs :=
  ⟨spells_of_lexemes, lexemes_of_spells⟩

end Reading

end TextTemplate.Source

import TextTemplate.Proofs.Source.Seam
import TextTemplate.Proofs.Text.Bytes
/-!
# Cutting a source by bytes

A source is cut here as one cuts a text stored in UTF-8: every place is a number of bytes, reckoned
by hand from the places where something was found, and every part is a slice between two places,
which fails if a place lies outside the text or inside a character. A slice of the source knows
where it begins, so a token knows where it stands (`LocatedToken`).

Main statements: no slice fails and the tokens are those of `tokenize` (`tokens_locate`), and each
variable and tag stands between its delimiters (`marked_of_locateFrom`).
-/
namespace TextTemplate.Source

open TextTemplate Text

/-- A slice taken while something else may be wrong. -/
def sliced {ε α : Type} (cut : Option α) : ExceptT ε Option α := ExceptT.mk (cut.map .ok)

/-- Where a slice can be taken the rest is done with it. -/
theorem sliced_some_bind {ε α β : Type} (a : α) (next : α → ExceptT ε Option β) :
    sliced (some a) >>= next = next a := rfl

/-- A result that no slice is taken for. -/
def unsliced {ε α : Type} (result : Except ε α) : ExceptT ε Option α := ExceptT.mk (some result)

/-- What is done with a result may be done before. -/
theorem map_unsliced {ε α β : Type} (f : α → β) (result : Except ε α) :
    f <$> unsliced result = unsliced (f <$> result) := by
  cases result <;> rfl

/-- Two results in turn are one. -/
theorem unsliced_bind {ε α β : Type} (result : Except ε α) (next : α → Except ε β) :
    (unsliced result >>= fun a => unsliced (next a)) = unsliced (result >>= next) := by
  cases result <;> rfl

/-- Tokens in front of others may be cut off before. -/
theorem map_append_unsliced {ε α β : Type} {f : α → β} {cut : ExceptT ε Option (List α)}
    {result : Except ε (List β)} (front : List α) (later : List.map f <$> cut = unsliced result) :
    List.map f <$> (front ++ ·) <$> cut = unsliced ((front.map f ++ ·) <$> result) := by
  rw [← map_unsliced, ← later, ← comp_map, ← comp_map]
  congr 1
  funext tokens
  exact List.map_append

/-- What ends with a result went through a result. -/
theorem run_ok_of_bind {ε α β : Type} {cut : ExceptT ε Option α} {next : α → ExceptT ε Option β}
    {b : β} (done : (cut >>= next).run = some (.ok b)) :
    ∃ a, cut.run = some (.ok a) ∧ (next a).run = some (.ok b) := by
  rw [ExceptT.run_bind] at done
  obtain ⟨result, run, goesOn⟩ := Option.bind_eq_some_iff.mp done
  cases result with
  | error fault => cases goesOn
  | ok a => exact ⟨a, run, goesOn⟩

/-- Where something is done with a result there is a result. -/
theorem run_ok_of_map {ε α β : Type} {f : α → β} {cut : ExceptT ε Option α} {b : β}
    (done : (f <$> cut).run = some (.ok b)) : ∃ a, cut.run = some (.ok a) ∧ f a = b := by
  rw [← bind_pure_comp] at done
  obtain ⟨a, run, same⟩ := run_ok_of_bind done
  cases same
  exact ⟨a, run, rfl⟩

/-! ### Searches -/

/-- The kind of mark that a byte after an opening brace makes. -/
def Delimiter.ofByte? (b : UInt8) : Option Delimiter :=
  if b = '{'.toUInt8 then some .variable
  else if b = '%'.toUInt8 then some .tag
  else if b = '#'.toUInt8 then some .comment
  else none

/-- The place and the kind of the first opening delimiter at or after a place. As with all searches
here, the outer `none` says that a slice failed. -/
def findOpener (text : List Char) (start : Nat) : Option (Option (Nat × Delimiter)) :=
  match _sliced : slice? start (byteSize text) text with
  | none => none
  | some rest =>
    match _found : findChar? (· == '{') rest with
    | none => some none
    | some n =>
      match (byte? (start + n + 1) text).bind Delimiter.ofByte? with
      | some d => some (some (start + n, d))
      | none => findOpener text (start + n + 1)
termination_by byteSize text - start
decreasing_by
  have := byteSize_of_slice? _sliced
  have := lt_byteSize_of_find? _found
  omega

/-- The place of the first closing delimiter outside quoted literals at or after a place; where a
quote is never closed, of the first one after it. -/
def findCloser (d : Delimiter) (text : List Char) (start : Nat) : Option (Option Nat) :=
  if start < byteSize text then
    match slice? start (byteSize text) text with
    | none => none
    | some rest =>
      if closesWith d rest then some (some start)
      else match rest with
        | [] => some none
        | c :: _ =>
          if isQuote c then
            match slice? 1 (byteSize rest) rest with
            | none => none
            | some inside =>
              match findChar? (· == c) inside with
              -- Both quotes take one byte.
              | some n => findCloser d text (start + (n + 2))
              | none => some ((find? (closesWith d) rest).map (start + ·))
          else findCloser d text (start + c.utf8Size)
  else some none
termination_by byteSize text - start
decreasing_by
  · omega
  · have := c.utf8Size_pos
    omega

/-- The place of the end of a mark. -/
def findEnd (d : Delimiter) (text : List Char) : Option (Option Nat) :=
  match d with
  | .comment => some (find? (closesWith .comment) text)
  | d => findCloser d text 0

/-! ### Tokens that know where they stand -/

/-- A part of a source. -/
structure Slice where
  /-- The number of bytes of the source before it. -/
  start : Nat
  /-- The part as a text. -/
  text : List Char

namespace Slice

/-- The number of bytes of the source up to its end. -/
def stop (s : Slice) : Nat := s.start + byteSize s.text

/-- The slice of a slice between two of its places. -/
def between? (s : Slice) (start stop : Nat) : Option Slice :=
  (slice? start stop s.text).map fun part => ⟨s.start + start, part⟩

/-- The slice of a slice from one of its places to its end. -/
def from? (s : Slice) (start : Nat) : Option Slice := s.between? start (byteSize s.text)

/-- A slice without the blanks at both ends. -/
def trim (s : Slice) : Slice :=
  ⟨s.start + byteSize (s.text.takeWhile isBlank), Text.trim s.text⟩

end Slice

/-- A token and where it stands. -/
structure LocatedToken where
  /-- What it is. -/
  kind : TokenKind
  /-- Its text; for a variable or tag, all that stands between the delimiters. -/
  body : Slice
  /-- The line on which it begins. -/
  line : Nat

namespace LocatedToken

/-- What it says; blanks at the ends of a variable or tag do not matter. -/
def content (t : LocatedToken) : Slice :=
  match t.kind with
  | .text => t.body
  | _ => t.body.trim

/-- The token by itself. -/
def token (t : LocatedToken) : Token := ⟨t.kind, t.content.text, t.line⟩

end LocatedToken

/-- The token of the text before a mark that begins at the given place. -/
def leading? (line : Nat) (rest : Slice) (stop : Nat) : Option (List LocatedToken) :=
  if stop = 0 then some [] else (rest.between? 0 stop).map fun text => [⟨.text, text, line⟩]

/-- The token of a mark; a comment makes none. -/
def Delimiter.located (d : Delimiter) (body : Slice) (line : Nat) : List LocatedToken :=
  match d with
  | .variable => [⟨.variable, body, line⟩]
  | .tag => [⟨.tag, body, line⟩]
  | .comment => []

/-- What is cut off the front of a source that begins on the given line: the text before its first
mark and the mark, with the line on which the source goes on and the rest of it, if there is a mark
at all. -/
def cutMark (line : Nat) (source : Slice) :
    ExceptT SyntaxError Option (List LocatedToken × Option (Nat × Slice)) := do
  if source.text.isEmpty then return ([], none)
  else match ← sliced (findOpener source.text 0) with
    | none => return ([⟨.text, source, line⟩], none)
    | some (place, d) =>
      let front ← sliced (leading? line source place)
      let line := line + lineEnds (front.flatMap (·.body.text))
      let inside ← sliced (source.from? (place + 2))
      match ← sliced (findEnd d inside.text) with
      | none => throw ⟨line, .unclosedMark d⟩
      | some size =>
        let body ← sliced (source.between? (place + 2) (place + 2 + size))
        let rest ← sliced (source.from? (place + 2 + size + 2))
        return (front ++ d.located body line, some (line + lineEnds body.text, rest))

section Searches

variable {d : Delimiter} {cs before : List Char}

/-- An opening brace makes the mark of the character after it. -/
theorem bind_ofByte? (cs : List Char) :
    (byte? 0 cs).bind Delimiter.ofByte? = cs.head?.bind Delimiter.ofMark? := by
  cases cs with
  | nil => rfl
  | cons c cs =>
    have first (b : UInt8) (ascii : b.toNat < 128) :
        byte? 0 (c :: cs) = some b ↔ c.toNat = b.toNat := byte?_zero_eq_some_iff ascii
    have brace := first '{'.toUInt8 (by decide)
    have percent := first '%'.toUInt8 (by decide)
    have hash := first '#'.toUInt8 (by decide)
    rw [List.head?_cons, Option.bind_some]
    unfold Delimiter.ofMark?
    split
    · rw [brace.mpr rfl]
      rfl
    · rw [percent.mpr rfl]
      rfl
    · rw [hash.mpr rfl]
      rfl
    · rename_i other other' other''
      cases first : byte? 0 (c :: cs) with
      | none => rfl
      | some b =>
        rw [Option.bind_some, Delimiter.ofByte?, if_neg, if_neg, if_neg]
        · rintro rfl
          exact other'' (Char.toNat_inj.mp (hash.mp first))
        · rintro rfl
          exact other' (Char.toNat_inj.mp (percent.mp first))
        · rintro rfl
          exact other (Char.toNat_inj.mp (brace.mp first))

/-- The place of the first closing delimiter is the size of the text before it. -/
theorem find?_closesWith (d : Delimiter) (cs : List Char) :
    find? (closesWith d) cs = (splitFirstCloser d cs).map fun (body, _) => byteSize body := by
  induction cs with
  | nil => rfl
  | cons c cs ih =>
    rw [find?, splitFirstCloser, ih]
    split
    · rfl
    · cases splitFirstCloser d cs <;> rfl

/-- The next quote is found where its literal ends. -/
theorem findChar?_quote (quote : Char) (cs : List Char) :
    findChar? (· == quote) cs = (closeQuote quote cs).map fun (body, _) => byteSize body := by
  induction cs with
  | nil => rfl
  | cons c cs ih =>
    rw [findChar?_cons, closeQuote, ih]
    by_cases same : c = quote
    · simp [same]
    · simp [same]
      cases closeQuote quote cs <;> rfl

/-- Where there is no brace there is no opening delimiter. -/
theorem unopened_of_not_mem (free : '{' ∉ cs) : Unopened cs :=
  fun _ inside => free (inside.subset List.mem_cons_self)

/-- A brace makes a mark with what follows it, or it is text. -/
theorem splitOpener_brace (cs : List Char) :
    splitOpener ('{' :: cs) =
      match cs.head?.bind Delimiter.ofMark? with
      | some d => ([], some (d, cs.drop 1))
      | none => ('{' :: (splitOpener cs).1, (splitOpener cs).2) := by
  cases cs with
  | nil => rfl
  | cons c cs =>
    rw [splitOpener, opener?, List.head?_cons, Option.bind_some]
    cases Delimiter.ofMark? c <;> rfl

/-- One step of the search for an opening delimiter: it goes to the next brace. -/
theorem findOpener_next (before cs : List Char) :
    findOpener (before ++ cs) (byteSize before) =
      match closeQuote '{' cs with
      | none => some none
      | some (front, tail) =>
        match tail.head?.bind Delimiter.ofMark? with
        | some d => some (some (byteSize before + byteSize front, d))
        | none => findOpener (before ++ cs) (byteSize (before ++ (front ++ ['{']))) := by
  rw [findOpener]
  split
  · rename_i none_
    rw [slice?_rest] at none_
    cases none_
  · rename_i rest cut
    rw [slice?_rest] at cut
    cases cut
    rw [findChar?_quote]
    rcases next : closeQuote '{' cs with _ | ⟨front, tail⟩
    · rfl
    · obtain ⟨rfl, -⟩ := closeQuote_eq_some_iff.mp next
      have shape : before ++ (front ++ '{' :: tail) = before ++ (front ++ ['{']) ++ tail := by simp
      have place : byteSize before + byteSize front + 1 =
          byteSize (before ++ (front ++ ['{'])) + 0 := by
        have brace : byteSize ['{'] = 1 := rfl
        simp only [byteSize_append, brace]
        omega
      dsimp only [Option.map_some]
      rw [place, shape, byte?_append, bind_ofByte?]
      rfl

/-- The place of the first opening delimiter is the size of the text before it. -/
theorem findOpener_eq (before cs : List Char) :
    findOpener (before ++ cs) (byteSize before) =
      some ((splitOpener cs).2.map fun (d, _) =>
        (byteSize before + byteSize (splitOpener cs).1, d)) := by
  -- Text from a brace to the next one may be of any length.
  induction size : cs.length using Nat.strongRecOn generalizing before cs with
  | ind n ih =>
    rw [findOpener_next]
    rcases next : closeQuote '{' cs with _ | ⟨front, tail⟩
    · have whole : splitOpener (cs ++ []) = (cs ++ [], none) :=
        splitOpener_append (unopened_of_not_mem (closeQuote_eq_none_iff.mp next)) fun _ _ => nofun
      rw [List.append_nil] at whole
      rw [whole]
      rfl
    · obtain ⟨rfl, free⟩ := closeQuote_eq_some_iff.mp next
      have passed : splitOpener (front ++ '{' :: tail) =
          (front ++ (splitOpener ('{' :: tail)).1, (splitOpener ('{' :: tail)).2) :=
        splitOpener_append (unopened_of_not_mem free)
          fun d ends => absurd (List.mem_of_getLast? ends) free
      have shape : before ++ (front ++ '{' :: tail) = before ++ (front ++ ['{']) ++ tail := by simp
      have shorter : tail.length < n := by
        rw [← size, List.length_append, List.length_cons]
        omega
      rw [passed, splitOpener_brace]
      dsimp only
      cases tail.head?.bind Delimiter.ofMark? with
      | some d => simp
      | none =>
        dsimp only
        rw [shape, ih _ shorter (before ++ (front ++ ['{'])) tail rfl]
        cases (splitOpener tail).2 with
        | none => rfl
        | some found =>
          simp only [Option.map_some, byteSize_append, byteSize_cons, byteSize_nil]
          congr 3
          omega

/-- A quote takes one byte. -/
theorem utf8Size_of_isQuote {c : Char} (quote : isQuote c = true) : c.utf8Size = 1 := by
  rw [isQuote, Bool.or_eq_true, beq_iff_eq, beq_iff_eq] at quote
  rcases quote with rfl | rfl <;> rfl

/-- One step of the search for a closing delimiter. -/
theorem findCloser_cons (d : Delimiter) (before : List Char) (c : Char) (rest : List Char) :
    findCloser d (before ++ c :: rest) (byteSize before) =
      if closesWith d (c :: rest) then some (some (byteSize before))
      else if isQuote c then
        match closeQuote c rest with
        | some (literal, _) =>
          findCloser d (before ++ c :: rest) (byteSize before + (byteSize literal + 2))
        | none => some ((splitFirstCloser d (c :: rest)).map fun (body, _) =>
            byteSize before + byteSize body)
      else findCloser d (before ++ c :: rest) (byteSize before + c.utf8Size) := by
  have inside : byteSize before < byteSize (before ++ c :: rest) := by
    have := c.utf8Size_pos
    rw [byteSize_append, byteSize_cons]
    omega
  rw [findCloser, if_pos inside, slice?_rest]
  dsimp only
  split
  · rfl
  · split
    · rename_i quote
      have cut : slice? 1 (byteSize (c :: rest)) (c :: rest) = some rest := by
        have behind := slice?_rest [c] rest
        rwa [byteSize_cons, utf8Size_of_isQuote quote] at behind
      rw [cut]
      dsimp only
      rw [findChar?_quote, find?_closesWith]
      cases closeQuote c rest with
      | none =>
        dsimp only [Option.map_none]
        rw [Option.map_map]
        rfl
      | some found => rfl
    · rfl

/-- A place behind a longer front is the place of what is found behind the rest of the front. -/
theorem map_byteSize_append (before front : List Char) (found : Option (List Char × List Char)) :
    (found.map fun (body, _) => byteSize (before ++ front) + byteSize body) =
      found.map fun (body, _) => byteSize before + byteSize (front ++ body) := by
  cases found with
  | none => rfl
  | some found =>
    simp only [Option.map_some, byteSize_append]
    rw [Nat.add_assoc]

/-- The place of the closing delimiter is the size of the text before it. -/
theorem findCloser_eq (d : Delimiter) (before cs : List Char) :
    findCloser d (before ++ cs) (byteSize before) =
      some ((splitCloser d cs).map fun (body, _) => byteSize before + byteSize body) := by
  fun_induction splitCloser d cs generalizing before with
  | case1 =>
    rw [findCloser, List.append_nil, if_neg (Nat.lt_irrefl _)]
    rfl
  | case2 c rest closes =>
    rw [findCloser_cons, if_pos closes]
    rfl
  | case3 c rest goesOn quote literal tail closed ih =>
    have onward := ih (before ++ (c :: (literal ++ [c])))
    obtain ⟨rfl, -⟩ := closeQuote_eq_some_iff.mp closed
    have size := utf8Size_of_isQuote quote
    have shape : before ++ c :: (literal ++ c :: tail) =
        before ++ (c :: (literal ++ [c])) ++ tail := by simp
    have place : byteSize before + (byteSize literal + 2) =
        byteSize (before ++ (c :: (literal ++ [c]))) := by
      simp only [byteSize_append, byteSize_cons, byteSize_nil, size]
      omega
    rw [findCloser_cons, if_neg goesOn, if_pos quote, closed]
    dsimp only
    rw [place, shape, onward, map_byteSize_append, Option.map_map]
    simp [Function.comp_def]
  | case4 c rest goesOn quote lone =>
    rw [findCloser_cons, if_neg goesOn, if_pos quote, lone]
  | case5 c rest goesOn plain ih =>
    have onward := ih (before ++ [c])
    have shape : before ++ c :: rest = before ++ [c] ++ rest := by simp
    have place : byteSize before + c.utf8Size = byteSize (before ++ [c]) := by simp
    rw [findCloser_cons, if_neg goesOn, if_neg plain, place, shape, onward, map_byteSize_append,
      Option.map_map]
    rfl

/-- The place of the end of a mark is the size of its content. -/
theorem findEnd_eq (d : Delimiter) (cs : List Char) :
    findEnd d cs = some ((splitMark d cs).map fun (body, _) => byteSize body) := by
  have outside (d : Delimiter) :
      findCloser d cs 0 = some ((splitCloser d cs).map fun (body, _) => byteSize body) := by
    simpa using findCloser_eq d [] cs
  cases d with
  | comment => exact congrArg some (find?_closesWith .comment cs)
  | «variable» => exact outside .variable
  | tag => exact outside .tag

end Searches

section Slicing

variable {source : Slice} {part : List Char} {start stop : Nat}

/-- A slice of a slice is a slice of the source. -/
theorem Slice.between?_eq (before after : List Char)
    (shape : source.text = before ++ (part ++ after)) (place : byteSize before = start)
    (size : start + byteSize part = stop) :
    source.between? start stop = some ⟨source.start + start, part⟩ := by
  rw [Slice.between?, slice?_eq_some_iff.mpr ⟨before, after, shape, place, size⟩]
  rfl

/-- A slice up to the end takes what follows on the text before its place. -/
theorem Slice.from?_eq (before : List Char) (shape : source.text = before ++ part)
    (place : byteSize before = start) :
    source.from? start = some ⟨source.start + start, part⟩ := by
  refine Slice.between?_eq before [] (by rw [shape, List.append_nil]) place ?_
  rw [shape, byteSize_append, place]

end Slicing

section Locating

variable {line n : Nat} {cs text rest body after : List Char} {d : Delimiter}

/-- The text before a mark as a token, if there is any. -/
def leadingToken (line n : Nat) (text : List Char) : List LocatedToken :=
  if text.isEmpty then [] else [⟨.text, ⟨n, text⟩, line⟩]

/-- The text before a mark can be cut off. -/
theorem leading?_eq (line n : Nat) (text rest : List Char) :
    leading? line ⟨n, text ++ rest⟩ (byteSize text) = some (leadingToken line n text) := by
  unfold leading?
  cases text with
  | nil => rfl
  | cons c text =>
    have size : byteSize (c :: text) ≠ 0 := fun none_ => nomatch byteSize_eq_zero_iff.mp none_
    have cut : (⟨n, c :: text ++ rest⟩ : Slice).between? 0 (byteSize (c :: text)) =
        some ⟨n, c :: text⟩ := Slice.between?_eq [] rest rfl byteSize_nil (Nat.zero_add _)
    rw [if_neg size, cut]
    rfl

/-- The delimiters of every kind take two bytes. -/
theorem Delimiter.byteSize_opening (d : Delimiter) : byteSize ['{', d.mark] = 2 := by
  cases d <;> rfl

/-- A closing delimiter takes two bytes. -/
theorem Delimiter.byteSize_closing (d : Delimiter) : byteSize [d.closing, '}'] = 2 := by
  cases d <;> rfl

/-- What is cut off by bytes is what is cut off in characters, and no slice fails. -/
theorem cutMark_eq (line n : Nat) (cs : List Char) :
    cutMark line ⟨n, cs⟩ = unsliced (
      match splitOpener cs with
      | (text, none) => .ok (leadingToken line n text, none)
      | (text, some (d, rest)) =>
        match splitMark d rest with
        | none => .error ⟨line + lineEnds text, .unclosedMark d⟩
        | some (body, after) =>
          .ok (leadingToken line n text ++
              d.located ⟨n + (byteSize text + 2), body⟩ (line + lineEnds text),
            some (line + lineEnds text + lineEnds body,
              ⟨n + (byteSize text + 2 + byteSize body + 2), after⟩))) := by
  have found : findOpener cs 0 = _ := findOpener_eq [] cs
  unfold cutMark
  rcases opened : splitOpener cs with ⟨text, _ | ⟨d, rest⟩⟩
  · obtain ⟨rfl, -⟩ := unopened_of_splitOpener opened
    dsimp only
    rw [found, opened]
    cases text <;> rfl
  · obtain rfl := eq_of_splitOpener opened
    have opening : byteSize (text ++ ['{', d.mark]) = byteSize text + 2 := by
      rw [byteSize_append, d.byteSize_opening]
    have shape (cs : List Char) :
        text ++ '{' :: d.mark :: cs = (text ++ ['{', d.mark]) ++ cs := by simp
    have lines : (leadingToken line n text).flatMap (·.body.text) = text := by
      cases text <;> simp [leadingToken]
    rw [opened, Option.map_some, byteSize_nil, Nat.zero_add] at found
    dsimp only
    rw [found, if_neg (by simp)]
    simp only [sliced_some_bind]
    rw [leading?_eq, Slice.from?_eq _ (shape rest) opening]
    simp only [sliced_some_bind, findEnd_eq, lines]
    rcases closed : splitMark d rest with _ | ⟨body, after⟩
    · rfl
    · obtain rfl := eq_of_splitMark closed
      have ending : byteSize (text ++ ['{', d.mark] ++ (body ++ [d.closing, '}'])) =
          byteSize text + 2 + byteSize body + 2 := by
        rw [byteSize_append, opening, byteSize_append, d.byteSize_closing]
        omega
      have shape' : text ++ '{' :: d.mark :: (body ++ d.closing :: '}' :: after) =
          (text ++ ['{', d.mark] ++ (body ++ [d.closing, '}'])) ++ after := by simp
      simp only [Option.map_some]
      rw [Slice.between?_eq _ _ (shape _) opening rfl, Slice.from?_eq _ shape' ending]
      rfl

/-- What is left after a mark is shorter. -/
theorem length_of_cutMark {tokens : List LocatedToken} {source rest : Slice} {later : Nat}
    (cut : (cutMark line source).run = some (.ok (tokens, some (later, rest)))) :
    rest.text.length < source.text.length := by
  obtain ⟨n, cs⟩ := source
  rw [cutMark_eq] at cut
  have cut := Option.some.inj cut
  split at cut
  · cases cut
  · rename_i opened
    split at cut
    · cases cut
    · rename_i closed
      have := length_of_splitOpener opened
      have := length_of_splitMark closed
      cases cut
      dsimp only
      omega

/-- The tokens of a source that begins on the given line, with their places. -/
def locateFrom (line : Nat) (source : Slice) : ExceptT SyntaxError Option (List LocatedToken) :=
  match _cut : (cutMark line source).run with
  | some (.ok (tokens, some (later, rest))) => (tokens ++ ·) <$> locateFrom later rest
  | some (.ok (tokens, none)) => return tokens
  | some (.error fault) => throw fault
  | none => sliced none
termination_by source.text.length
decreasing_by exact length_of_cutMark _cut

/-- The tokens of a source with their places. -/
def locate (source : List Char) : ExceptT SyntaxError Option (List LocatedToken) :=
  locateFrom 1 ⟨0, source⟩

/-- Cutting goes on after each mark. -/
theorem locateFrom_bind (line : Nat) (source : Slice) :
    locateFrom line source = do
      let (tokens, next) ← cutMark line source
      match next with
      | some (later, rest) => (tokens ++ ·) <$> locateFrom later rest
      | none => return tokens := by
  rw [locateFrom]
  split
  all_goals
    rename_i cut
    have cut : cutMark line source = ExceptT.mk _ := cut
    rw [cut]
    rfl

/-- Cutting goes on after each mark, which ends where `splitMark` says. -/
theorem locateFrom_eq (line n : Nat) (cs : List Char) :
    locateFrom line ⟨n, cs⟩ =
      match splitOpener cs with
      | (text, none) => return leadingToken line n text
      | (text, some (d, rest)) =>
        match splitMark d rest with
        | none => throw ⟨line + lineEnds text, .unclosedMark d⟩
        | some (body, after) =>
          (leadingToken line n text ++
              d.located ⟨n + (byteSize text + 2), body⟩ (line + lineEnds text) ++ ·) <$>
            locateFrom (line + lineEnds text + lineEnds body)
              ⟨n + (byteSize text + 2 + byteSize body + 2), after⟩ := by
  rw [locateFrom_bind, cutMark_eq]
  rcases splitOpener cs with ⟨text, _ | ⟨d, rest⟩⟩
  · rfl
  · dsimp only
    cases splitMark d rest <;> rfl

/-- No slice fails, and the tokens are those of the source. -/
theorem tokens_locateFrom (line n : Nat) (cs : List Char) :
    List.map LocatedToken.token <$> locateFrom line ⟨n, cs⟩ =
      unsliced (tokensFrom line cs) := by
  fun_induction tokensFrom line cs generalizing n with
  | case1 line cs text opened =>
    rw [locateFrom_eq, opened]
    cases text <;> rfl
  | case2 line cs text d rest opened markLine unclosed =>
    rw [locateFrom_eq, opened]
    dsimp only
    rw [unclosed]
    rfl
  | case3 line cs text d rest opened markLine body after closed ih =>
    rw [locateFrom_eq, opened]
    dsimp only
    rw [closed]
    dsimp only
    have later := ih (n + (byteSize text + 2 + byteSize body + 2))
    have front : (leadingToken line n text).map LocatedToken.token =
        (textToken? text line).toList := by cases text <;> rfl
    have mark : (d.located ⟨n + (byteSize text + 2), body⟩ (line + lineEnds text)).map
        LocatedToken.token = (d.token? body markLine).toList := by cases d <;> rfl
    rw [map_append_unsliced _ later, List.map_append, front, mark]

/-- The tokens of a source by bytes are its tokens, and no slice fails. -/
theorem tokens_locate (source : List Char) :
    List.map LocatedToken.token <$> locate source = unsliced (tokenize source) :=
  tokens_locateFrom 1 0 source

/-- A slice is what stands in a mark of a source: an opening delimiter stands before it and a
closing one after it, and that is the one that is found. -/
def Slice.Marked (source : List Char) (d : Delimiter) (body : Slice) : Prop :=
  ∃ front after, source = front ++ '{' :: d.mark :: (body.text ++ d.closing :: '}' :: after) ∧
    body.start = byteSize front + 2 ∧
    splitCloser d (body.text ++ d.closing :: '}' :: after) = some (body.text, after)

/-- The text before a mark stands in no delimiters. -/
theorem not_marked_of_leading {token : LocatedToken} (member : token ∈ leadingToken line n text) :
    token.kind.delimiter? ≠ some d := by
  unfold leadingToken at member
  split at member
  · cases member
  · rw [List.mem_singleton.mp member]
    exact nofun

/-- The token of a mark tells its delimiter and stands between the two. -/
theorem eq_of_located {d' : Delimiter} {content : Slice} {token : LocatedToken}
    (member : token ∈ d'.located content line) (kind : token.kind.delimiter? = some d) :
    d' = d ∧ token.body = content := by
  cases d' with
  | comment => cases member
  | «variable» | tag =>
    rw [List.mem_singleton.mp member] at kind ⊢
    cases kind
    exact ⟨rfl, rfl⟩

/-- The end of a variable or tag is looked for outside literals. -/
theorem splitMark_of_kind {kind : TokenKind} (marked : kind.delimiter? = some d) :
    splitMark d = splitCloser d := by
  cases kind <;> cases marked <;> rfl

/-- Each variable and each tag stands in its delimiters. -/
theorem marked_of_locateFrom {before : List Char} {tokens : List LocatedToken}
    {token : LocatedToken}
    (cut : (locateFrom line ⟨byteSize before, cs⟩).run = some (.ok tokens))
    (member : token ∈ tokens) (kind : token.kind.delimiter? = some d) :
    Slice.Marked (before ++ cs) d token.body := by
  fun_induction tokensFrom line cs generalizing before tokens with
  | case1 line cs text opened =>
    rw [locateFrom_eq, opened] at cut
    cases cut
    exact absurd kind (not_marked_of_leading member)
  | case2 line cs text d' rest opened markLine =>
    rename_i unclosed
    rw [locateFrom_eq, opened] at cut
    dsimp only at cut
    rw [unclosed] at cut
    cases cut
  | case3 line cs text d' rest opened markLine body after closed =>
    rename_i ih
    rw [locateFrom_eq, opened] at cut
    dsimp only at cut
    rw [closed] at cut
    obtain ⟨later, onward, rfl⟩ := run_ok_of_map cut
    obtain rfl := eq_of_splitOpener opened
    obtain rfl := eq_of_splitMark closed
    rcases List.mem_append.mp member with here | there
    · rcases List.mem_append.mp here with front | mark
      · exact absurd kind (not_marked_of_leading front)
      · obtain ⟨rfl, inside⟩ := eq_of_located mark kind
        rw [splitMark_of_kind kind] at closed
        rw [inside]
        refine ⟨before ++ text, after, by simp, ?_, closed⟩
        rw [byteSize_append, Nat.add_assoc]
    · have place : byteSize before + (byteSize text + 2 + byteSize body + 2) =
          byteSize (before ++ (text ++ ['{', d'.mark] ++ (body ++ [d'.closing, '}']))) := by
        simp only [byteSize_append, d'.byteSize_opening, d'.byteSize_closing]
        omega
      rw [place] at onward
      simpa using ih onward there

end Locating

end TextTemplate.Source

import Mathlib.Order.Bounds.Defs
import TextTemplate.Proofs.Source.Parsing
/-!
# Where marks close

Two readers must agree on where literals end. One looks for the closing delimiter of a mark in all
that follows on it and does not know yet where the mark ends; the other reads the words of what the
first one took, without the blanks at its ends and without the name of a tag. They could take
different quotes for the ends of literals, all the more as the first one gives up on literals where
a quote is never closed.

Main statement: in a source that is read they agree. The closing delimiter of every variable and
every tag is the first one that is in none of the literals that are read in it, and giving up had no
part in finding it (`closes_first_of_parse`).
-/
namespace TextTemplate.Source

open TextTemplate Text

/-- The text before the first closing delimiter outside quoted literals, and the source after it;
where a quote is never closed, what another search finds from there on. -/
def closerOr (fallback : List Char → Option (List Char × List Char)) (d : Delimiter) :
    List Char → Option (List Char × List Char)
  | [] => none
  | c :: rest =>
    if closesWith d (c :: rest) then some ([], rest.drop 1)
    else if isQuote c then
      match _found : closeQuote c rest with
      | some (literal, after) =>
        (closerOr fallback d after).map fun (body, tail) => (c :: (literal ++ c :: body), tail)
      | none => fallback (c :: rest)
    else (closerOr fallback d rest).map fun (body, after) => (c :: body, after)
termination_by cs => cs.length
decreasing_by
  · have := length_of_closeQuote _found
    simp only [List.length_cons]
    omega
  · simp

/-- A closing delimiter stands in a source at a place. -/
def ClosesAt (source : List Char) (d : Delimiter) (place : Nat) : Prop :=
  ∃ before after, source = before ++ d.closing :: '}' :: after ∧ byteSize before = place

/-- A slice leaves out no character of another one that may close a mark or open a literal. -/
def Slice.CountedIn (outer inner : Slice) : Prop :=
  ∃ before after, outer.text = before ++ (inner.text ++ after) ∧
    inner.start = outer.start + byteSize before ∧
    (∀ c ∈ before, counts c = false) ∧ ∀ c ∈ after, counts c = false

/-- The words of a token and where they stand. -/
def LocatedToken.words (token : LocatedToken) : ExceptT Fault Option (List LocatedWord) := do
  locateWords (← sliced token.arguments?)

/-- The end of a mark is where the words in it say. -/
structure LocatedToken.ClosesFirst (source : List Char) (token : LocatedToken) (d : Delimiter)
    (words : List LocatedWord) : Prop where
  /-- The words are those that are read in the token. -/
  read : token.words.run = some (.ok words) ∧
    lexemes token.token.inner = .ok (words.map LocatedWord.word)
  /-- Its closing delimiter is the first one after its opening delimiter that is in none of the
  literals. -/
  first : IsLeast {place | token.body.start ≤ place ∧ ClosesAt source d place ∧
    ∀ word ∈ words, ¬ word.Holds place} token.body.stop
  /-- No word goes beyond the delimiters. -/
  within : ∀ word ∈ words, token.body.start ≤ word.start ∧ word.stop ≤ token.body.stop
  /-- It stands behind an opening delimiter, and where its end is looked for, whatever would be
  done about a quote that is never closed does not matter. -/
  settled : ∃ front rest after, source = front ++ '{' :: d.mark :: rest ∧
    token.body.start = byteSize front + 2 ∧
    ∀ fallback, closerOr fallback d rest = some (token.body.text, after)

section Search

variable {d : Delimiter} {c : Char} {cs after : List Char}

/-- The search goes on behind a character, or behind the literal that it opens. -/
theorem closerOr_cons (fallback : List Char → Option (List Char × List Char)) (d : Delimiter)
    (c : Char) (rest : List Char) :
    closerOr fallback d (c :: rest) =
      if closesWith d (c :: rest) then some ([], rest.drop 1)
      else if isQuote c then
        match closeQuote c rest with
        | some (literal, after) =>
          (closerOr fallback d after).map fun (body, tail) => (c :: (literal ++ c :: body), tail)
        | none => fallback (c :: rest)
      else (closerOr fallback d rest).map fun (body, after) => (c :: body, after) := by
  rw [closerOr]
  split
  · rfl
  · split
    · split
      all_goals
        rename_i found
        rw [found]
    · rfl

/-- The search that gives up on literals is that for the end of a mark. -/
theorem closerOr_splitFirstCloser (d : Delimiter) (cs : List Char) :
    closerOr (splitFirstCloser d) d cs = splitCloser d cs := by
  fun_induction splitCloser d cs with
  | case1 => rw [closerOr]
  | case2 c rest closes => rw [closerOr_cons, if_pos closes]
  | case3 c rest goesOn quote literal after found ih =>
    rw [closerOr_cons, if_neg goesOn, if_pos quote, found]
    dsimp only
    rw [ih]
  | case4 c rest goesOn quote none_ =>
    rw [closerOr_cons, if_neg goesOn, if_pos quote, none_]
  | case5 c rest goesOn plain ih => rw [closerOr_cons, if_neg goesOn, if_neg plain, ih]

/-- The search with its own fallback goes on in the same way. -/
theorem splitCloser_cons (d : Delimiter) (c : Char) (rest : List Char) :
    splitCloser d (c :: rest) =
      if closesWith d (c :: rest) then some ([], rest.drop 1)
      else if isQuote c then
        match closeQuote c rest with
        | some (literal, after) =>
          (splitCloser d after).map fun (body, tail) => (c :: (literal ++ c :: body), tail)
        | none => splitFirstCloser d (c :: rest)
      else (splitCloser d rest).map fun (body, after) => (c :: body, after) := by
  have step := closerOr_cons (splitFirstCloser d) d c rest
  simpa only [closerOr_splitFirstCloser] using step

/-- What is found behind the same text is the same. -/
theorem eq_of_map_append (front : List Char) {x y : Option (List Char × List Char)}
    (same : (x.map fun (body, after) => (front ++ body, after)) =
      y.map fun (body, after) => (front ++ body, after)) : x = y := by
  refine Option.map_injective ?_ same
  rintro ⟨body, after⟩ ⟨body', after'⟩ same
  obtain ⟨first, rfl⟩ := Prod.mk.inj same
  rw [List.append_cancel_left first]

/-- A closing delimiter does not begin in a text in which it is looked for in vain. -/
theorem Clear.goesOn (clear : Clear d (c :: cs)) (rest : List Char) :
    ¬ closesWith d (c :: (cs ++ rest)) = true := by
  intro closes
  have found := clear rest
  rw [List.cons_append, splitCloser_cons, if_pos closes] at found
  cases later : splitCloser d rest <;> rw [later] at found <;> cases found

/-- A clear text without a first character that is no quote is clear. -/
theorem Clear.tail (clear : Clear d (c :: cs)) (plain : ¬ isQuote c = true) : Clear d cs := by
  intro rest
  have found := clear rest
  rw [List.cons_append, splitCloser_cons, if_neg (clear.goesOn rest), if_neg plain] at found
  refine eq_of_map_append [c] (found.trans ?_)
  rw [Option.map_map]
  rfl

/-- Each literal that begins in such a text ends in it. -/
theorem Clear.closed (clear : Clear d (c :: cs)) (quote : isQuote c = true) :
    ∃ literal tail, closeQuote c cs = some (literal, tail) ∧ Clear d tail := by
  rcases inside : closeQuote c cs with _ | ⟨literal, tail⟩
  · -- A literal that would end behind the mark would hide its closing delimiter.
    have free := closeQuote_eq_none_iff.mp inside
    have found := clear (d.closing :: '}' :: c :: d.closing :: '}' :: [])
    have hidden : closeQuote c (cs ++ d.closing :: '}' :: c :: d.closing :: '}' :: []) =
        some (cs ++ [d.closing, '}'], d.closing :: '}' :: []) := by
      refine closeQuote_eq_some_iff.mpr ⟨by simp, fun member => ?_⟩
      rcases List.mem_append.mp member with before | closing
      · exact free before
      · rw [isQuote, Bool.or_eq_true, beq_iff_eq, beq_iff_eq] at quote
        rcases quote with rfl | rfl <;> cases d <;> revert closing <;> decide
    rw [List.cons_append, splitCloser_cons, if_neg (clear.goesOn _), if_pos quote, hidden] at found
    dsimp only at found
    rw [splitCloser_closing, splitCloser_closing] at found
    simp at found
  · obtain ⟨rfl, free⟩ := closeQuote_eq_some_iff.mp inside
    refine ⟨literal, tail, rfl, fun rest => ?_⟩
    have found := clear rest
    have closed : closeQuote c (literal ++ c :: tail ++ rest) = some (literal, tail ++ rest) :=
      closeQuote_eq_some_iff.mpr ⟨by simp, free⟩
    rw [List.cons_append, splitCloser_cons, if_neg (clear.goesOn rest), if_pos quote, closed]
      at found
    refine eq_of_map_append (c :: (literal ++ [c])) ?_
    rw [Option.map_map]
    simpa [Function.comp_def] using found

/-- Behind a text in which a closing delimiter is looked for in vain it is found, whatever would be
done about a quote that is never closed. -/
theorem Clear.closerOr_eq (clear : Clear d cs)
    (fallback : List Char → Option (List Char × List Char)) (after : List Char) :
    closerOr fallback d (cs ++ d.closing :: '}' :: after) = some (cs, after) := by
  induction size : cs.length using Nat.strongRecOn generalizing cs with
  | ind n ih =>
    cases cs with
    | nil => simp [closerOr_cons, closesWith]
    | cons c cs =>
      rw [List.cons_append, closerOr_cons, if_neg (clear.goesOn _)]
      by_cases quote : isQuote c = true
      · obtain ⟨literal, tail, inside, later⟩ := clear.closed quote
        obtain ⟨rfl, free⟩ := closeQuote_eq_some_iff.mp inside
        have closed : closeQuote c (literal ++ c :: tail ++ d.closing :: '}' :: after) =
            some (literal, tail ++ d.closing :: '}' :: after) :=
          closeQuote_eq_some_iff.mpr ⟨by simp, free⟩
        have shorter : tail.length < n := by
          rw [← size, List.length_cons, List.length_append, List.length_cons]
          omega
        rw [if_pos quote, closed]
        dsimp only
        rw [ih _ shorter later rfl]
        rfl
      · have shorter : cs.length < n := by
          rw [← size, List.length_cons]
          exact Nat.lt_succ_self _
        rw [if_neg quote, ih _ shorter (clear.tail quote) rfl]
        rfl

end Search

namespace Slice.CountedIn

variable {outer middle inner : Slice}

/-- What is counted in a part is counted in the whole. -/
theorem trans (first : outer.CountedIn middle) (second : middle.CountedIn inner) :
    outer.CountedIn inner := by
  obtain ⟨before, after, text, start, free, free'⟩ := first
  obtain ⟨before', after', text', start', more, more'⟩ := second
  refine ⟨before ++ before', after' ++ after, ?_, ?_, List.forall_mem_append.mpr ⟨free, more⟩,
    List.forall_mem_append.mpr ⟨more', free'⟩⟩
  · rw [text, text']
    simp only [List.append_assoc]
  · rw [start', start, byteSize_append, Nat.add_assoc]

/-- Blanks may be left out. -/
theorem trim (outer : Slice) : outer.CountedIn outer.trim := by
  obtain ⟨after, split, blank⟩ := trimRight_append_blanks (trimLeft outer.text)
  refine ⟨outer.text.takeWhile isBlank, after, ?_, rfl,
    fun c member => counts_of_isBlank (List.all_eq_true.mp List.all_takeWhile c member),
    fun c member => counts_of_isBlank (blank c member)⟩
  change outer.text = _ ++ (trimRight (trimLeft outer.text) ++ after)
  rw [← split, trimLeft, List.takeWhile_append_dropWhile]

/-- A front that does not count may be left out. -/
theorem of_front {before back : List Char} {n : Nat} (free : ∀ c ∈ before, counts c = false) :
    (⟨n, before ++ back⟩ : Slice).CountedIn ⟨n + byteSize before, back⟩ :=
  ⟨before, [], by rw [List.append_nil], rfl, free, nofun⟩

/-- A character that counts stands in a slice that leaves out none, at the same place. -/
theorem exists_text (counted : outer.CountedIn inner) {front back : List Char} {c : Char}
    (shape : outer.text = front ++ c :: back) (counting : counts c = true) :
    ∃ front' back', inner.text = front' ++ c :: back' ∧
      inner.start + byteSize front' = outer.start + byteSize front := by
  obtain ⟨before, after, text, start, free, free'⟩ := counted
  have weighs {cs : List Char} (none_ : ∀ e ∈ cs, counts e = false) : c ∉ cs := by
    intro member
    rw [none_ c member] at counting
    cases counting
  rw [text] at shape
  obtain ⟨front', longer, inside⟩ := exists_append_of_not_mem shape (weighs free)
  have place : inner.start + byteSize front' = outer.start + byteSize front := by
    rw [start, longer, byteSize_append, Nat.add_assoc]
  rcases List.append_eq_append_iff.mp inside with ⟨mid, -, rest⟩ | ⟨mid, whole, rest⟩
  · exact absurd (by rw [rest]; exact List.mem_append_right _ List.mem_cons_self) (weighs free')
  · cases mid with
    | nil =>
      have behind : c :: back = after := rest
      exact absurd (by rw [← behind]; exact List.mem_cons_self) (weighs free')
    | cons e mid =>
      obtain ⟨rfl, -⟩ := List.cons.inj rest
      exact ⟨front', mid, whole, place⟩

end Slice.CountedIn

section Tokens

variable {d : Delimiter} {token : LocatedToken} {args : Slice}

/-- A variable or tag that is of the grammar says in its arguments all that may close a mark or
open a literal. -/
theorem countedIn_arguments (fits : token.token.Fits AcceptedField)
    (kind : token.kind.delimiter? = some d) (cut : token.arguments? = some args) :
    token.body.CountedIn args := by
  obtain ⟨kind_, body, line⟩ := token
  cases kind_ with
  | text => cases kind
  | «variable» =>
    cases cut
    exact .trim body
  | tag =>
    obtain ⟨texts, -, inner⟩ := fits
    have plain := eq_false_of_any (inner.clear (d := d)).2
    rw [Builder.splitTag, String.toList_ofList] at plain
    rw [LocatedToken.arguments?, splitTagAt_eq] at cut
    cases cut
    have name : body.trim.CountedIn ⟨body.trim.start +
        byteSize (body.trim.text.takeWhile (!isBlank ·)),
        body.trim.text.dropWhile (!isBlank ·)⟩ := by
      have front : (⟨body.trim.start, body.trim.text.takeWhile (!isBlank ·) ++
          body.trim.text.dropWhile (!isBlank ·)⟩ : Slice).CountedIn _ := .of_front plain
      rwa [List.takeWhile_append_dropWhile] at front
    exact ((Slice.CountedIn.trim body).trans name).trans (.trim _)

/-- The character of a closing delimiter may close a mark. -/
theorem counts_closing (d : Delimiter) : counts d.closing = true := by cases d <;> rfl

/-- Where a closing delimiter stands in a source in front of the end of a mark, it stands in the
content of the mark. -/
theorem Slice.Marked.exists_text {source : List Char} {body : Slice}
    (marked : Slice.Marked source d body) {place : Nat} (closes : ClosesAt source d place)
    (behind : body.start ≤ place) (inFront : place < body.stop) :
    ∃ front back, body.text = front ++ d.closing :: back ∧
      body.start + byteSize front = place := by
  obtain ⟨opened, after, shape, start, -⟩ := marked
  obtain ⟨before, rest, shape', rfl⟩ := closes
  have opening : byteSize (opened ++ ['{', d.mark]) = body.start := by
    rw [start, byteSize_append, d.byteSize_opening]
  have whole : before ++ d.closing :: '}' :: rest =
      opened ++ ['{', d.mark] ++ (body.text ++ d.closing :: '}' :: after) := by
    rw [← shape', shape]
    simp
  obtain ⟨front, rfl⟩ := exists_append_of_byteSize_le whole (by rw [opening]; exact behind)
  rw [List.append_assoc, List.append_cancel_left_eq] at whole
  rw [byteSize_append, opening] at inFront ⊢
  obtain ⟨back, text⟩ := exists_append_of_byteSize_le whole.symm
    (by rw [Slice.stop] at inFront; omega)
  rw [text, List.append_assoc, List.append_cancel_left_eq] at whole
  cases back with
  | nil =>
    rw [List.append_nil] at text
    rw [Slice.stop, text] at inFront
    exact absurd inFront (Nat.lt_irrefl _)
  | cons c back =>
    obtain ⟨same, -⟩ := List.cons.inj whole
    exact ⟨front, back, by rw [text, same], rfl⟩

/-- A variable or tag that is of the grammar and has words closes where they say. -/
theorem closesFirst_of_fits {source : List Char} {words : List LocatedWord}
    (marked : Slice.Marked source d token.body) (kind : token.kind.delimiter? = some d)
    (fits : token.token.Fits AcceptedField) (run : token.words.run = some (.ok words)) :
    token.ClosesFirst source d words := by
  obtain ⟨args, cut, done⟩ : ∃ args, token.arguments? = some args ∧
      (locateWords args).run = some (.ok words) := by
    obtain ⟨args, cut, done⟩ := run_ok_of_bind run
    obtain ⟨args', cut', same⟩ := Option.map_eq_some_iff.mp cut
    cases same
    exact ⟨args, cut', done⟩
  have counted := countedIn_arguments fits kind cut
  have scanned := scanned_of_locateWordsFrom (List.nil_append _).symm done
  have within : ∀ word ∈ words,
      token.body.start ≤ word.start ∧ word.stop ≤ token.body.stop := by
    intro word member
    obtain ⟨before, after, text, start, -, -⟩ := counted
    have inside := scanned.within member
    rw [Slice.stop, text, byteSize_append, byteSize_append]
    rw [start, byteSize_nil] at inside
    omega
  have read : lexemes token.token.inner = .ok (words.map LocatedWord.word) := by
    have inner := text_arguments? token
    have same := congrArg ExceptT.run (words_locateWords args)
    rw [cut, Option.map_some, Option.some.injEq] at inner
    rw [ExceptT.run_map, done, inner] at same
    exact (Option.some.inj same).symm
  have clear : Clear d token.body.text := by
    obtain ⟨kind_, body, line⟩ := token
    cases kind_ with
    | text => cases kind
    | «variable» | tag => exact .of_trim (fits.clear nofun)
  have isClosing : ClosesAt source d token.body.stop := by
    obtain ⟨opened, after, shape, start, -⟩ := marked
    refine ⟨opened ++ '{' :: d.mark :: token.body.text, after, by rw [shape]; simp, ?_⟩
    have opening := d.byteSize_opening
    rw [byteSize_cons, byteSize_cons, byteSize_nil] at opening
    rw [Slice.stop, start, byteSize_append, byteSize_cons, byteSize_cons]
    omega
  have outside : ∀ word ∈ words, ¬ word.Holds token.body.stop := by
    rintro word member ⟨-, -, before⟩
    exact absurd (within word member).2 (Nat.not_le_of_lt before)
  refine ⟨⟨run, read⟩, ⟨⟨Nat.le_add_right _ _, isClosing, outside⟩, ?_⟩, within, ?_⟩
  · rintro place ⟨behind, closes, free⟩
    by_contra inFront
    obtain ⟨front, back, text, here⟩ :=
      marked.exists_text closes behind (Nat.lt_of_not_le inFront)
    obtain ⟨front', back', text', here'⟩ := counted.exists_text text (counts_closing d)
    obtain ⟨word, member, holds⟩ := scanned.exists_holds text' (counts_closing d)
    rw [byteSize_nil, Nat.zero_add, here', here] at holds
    exact free word member holds
  · obtain ⟨opened, after, shape, start, -⟩ := marked
    exact ⟨opened, _, after, shape, start, fun fallback => clear.closerOr_eq fallback after⟩

end Tokens

section Words

variable {b built : Builder}

/-- A token that is added to a builder has words. -/
theorem exists_words_of_add {token : Token} (added : b.add token = .ok built) :
    ∃ words, lexemes token.inner = .ok words := by
  have bare (none_ : token.reading.inside.isEmpty = true) :
      ∃ words, lexemes token.inner = .ok words := by
    rw [token.inside_reading] at none_
    rw [List.isEmpty_iff.mp none_]
    exact ⟨[], by rw [lexemes]⟩
  have read {words : List Lexeme} (laid : token.reading.inside.words = .ok words) :
      ∃ words, lexemes token.inner = .ok words := by
    rw [token.inside_reading] at laid
    exact ⟨words, laid⟩
  have takes := Builder.takes_of_add added
  generalize token.reading = reading at takes bare read
  cases takes with
  | text => exact bare rfl
  | «variable» _ laid | inherits laid | includes laid | creates laid | opened laid =>
    exact read laid
  | divided _ _ _ none_ | closed _ _ none_ => exact bare none_
  | closedBlock _ _ ends => exact ends.elim bare read

/-- The insides of all tokens that were added are made of words. -/
theorem exists_words_of_addAll {tokens : List Token} (added : b.addAll tokens = .ok built) :
    ∀ token ∈ tokens, ∃ words, lexemes token.inner = .ok words := by
  induction tokens generalizing b with
  | nil => exact nofun
  | cons token tokens ih =>
    obtain ⟨next, first, rest⟩ := Builder.ok_of_bind added
    exact List.forall_mem_cons.mpr ⟨exists_words_of_add first, ih rest⟩

end Words

/-- The words of a token stand somewhere in it. -/
theorem exists_located {token : LocatedToken} {words : List Lexeme}
    (read : lexemes token.token.inner = .ok words) :
    ∃ located, token.words.run = some (.ok located) := by
  obtain ⟨args, cut, inner⟩ := Option.map_eq_some_iff.mp (text_arguments? token)
  have done : (List.map LocatedWord.word <$> locateWords args).run = some (.ok words) := by
    rw [words_locateWords, inner, read]
    rfl
  obtain ⟨located, run, -⟩ := run_ok_of_map done
  refine ⟨located, ?_⟩
  rw [LocatedToken.words, cut, sliced_some_bind, run]

/-- In a source that is read every variable and every tag closes at the first closing delimiter
that is in none of the literals that are read in it. -/
theorem closes_first_of_parse {name : String} {source : List Char} {t : Template}
    (read : parse name source = .ok t) :
    ∃ tokens, (locate source).run = some (.ok tokens) ∧
      tokenize source = .ok (tokens.map LocatedToken.token) ∧
      ∀ token ∈ tokens, ∀ d, token.kind.delimiter? = some d →
        ∃ words, token.ClosesFirst source d words := by
  obtain ⟨bare, cut, rest⟩ := Builder.ok_of_bind read
  obtain ⟨built, added, -⟩ := Builder.ok_of_bind rest
  have done : (List.map LocatedToken.token <$> locate source).run = some (.ok bare) := by
    rw [tokens_locate, cut]
    rfl
  obtain ⟨tokens, run, rfl⟩ := run_ok_of_map done
  refine ⟨tokens, run, cut, fun token member d kind => ?_⟩
  have among : token.token ∈ tokens.map LocatedToken.token := List.mem_map_of_mem member
  obtain ⟨words, laid⟩ := exists_words_of_addAll added token.token among
  obtain ⟨located, found⟩ := exists_located laid
  have marked : Slice.Marked ([] ++ source) d token.body := marked_of_locateFrom run member kind
  exact ⟨located, closesFirst_of_fits marked kind (fits_of_addAll added token.token among) found⟩

/-- A source whose literals hold closing delimiters and a quote of the other kind. -/
def riddled : List Char :=
  "\x7b\x7b x|default:'\x7d\x7d' \x7d\x7d\x7b% include \"a%\x7d'b\" %\x7d".toList

/-- So it is where the literals themselves hold closing delimiters. -/
theorem closes_first_of_parse_riddled :
    ∃ tokens, (locate riddled).run = some (.ok tokens) ∧
      tokenize riddled = .ok (tokens.map LocatedToken.token) ∧
      ∀ token ∈ tokens, ∀ d, token.kind.delimiter? = some d →
        ∃ words, token.ClosesFirst riddled d words := by
  have read : parse "riddled" riddled =
      .ok ⟨"riddled", [.variable ⟨.path "x" [], [.default (.text "\x7d\x7d")]⟩,
        .includes ⟨.literal (.text "a%\x7d'b"), []⟩], ∅⟩ := by
    with_unfolding_all rfl
  exact closes_first_of_parse read

end TextTemplate.Source

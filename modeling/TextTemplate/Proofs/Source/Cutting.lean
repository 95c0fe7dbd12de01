import TextTemplate.Proofs.Source.Spelling
import TextTemplate.Source.Token
/-!
# Cutting a source into its pieces

A source is written piece by piece: text as it stands, and variables and tags between their
delimiters (`Piece`). The pieces can be told apart if no text has an opening delimiter in it or
makes one with what follows, and if every content reaches up to its own closing delimiter
(`Apart`). Then cutting the source gives the pieces back (`tokensFrom_source`).

Words that are laid out never close a mark: delimiters inside literals do not count, and outside of
literals there are none (`Laid.clear`).
-/
namespace TextTemplate.Source

open TextTemplate

/-- A piece of a source: text, or what stands between the delimiters of a variable or tag. -/
structure Piece where
  /-- What the piece is. -/
  kind : TokenKind
  /-- Its text; for a variable or tag, what stands between the delimiters. -/
  content : List Char

/-- The delimiters of a kind of piece; text has none. -/
def TokenKind.delimiter? : TokenKind → Option Delimiter
  | .text => none
  | .variable => some .variable
  | .tag => some .tag

/-- A piece as it is written. -/
def Piece.source (piece : Piece) : List Char :=
  match piece.kind.delimiter? with
  | none => piece.content
  | some d => '{' :: d.mark :: (piece.content ++ [d.closing, '}'])

/-- What a piece says: blanks at the ends of a variable or tag do not matter. -/
def Piece.saying (piece : Piece) : TokenKind × List Char :=
  (piece.kind, if piece.kind.delimiter?.isNone then piece.content else Text.trim piece.content)

/-- What a token says, wherever it stands. -/
def Token.saying (token : Token) : TokenKind × List Char := (token.kind, token.content)

/-- There is no opening delimiter in a text. -/
def Unopened (text : List Char) : Prop := ∀ d : Delimiter, ¬ ['{', d.mark] <:+: text

/-- A content in which the closing delimiter of a mark is looked for in vain. -/
def Clear (d : Delimiter) (cs : List Char) : Prop :=
  ∀ rest, splitCloser d (cs ++ rest) =
    (splitCloser d rest).map fun (body, after) => (cs ++ body, after)

/-- Pieces that can be told apart in the source that they make. -/
inductive Apart : List Piece → Prop
  | nil : Apart []
  | last {text : List Char} (nonempty : text ≠ []) (unopened : Unopened text) :
    Apart [⟨.text, text⟩]
  | text {text : List Char} {next : Piece} {rest : List Piece} (nonempty : text ≠ [])
    (unopened : Unopened text) (ends : text.getLast? ≠ some '{')
    (marked : next.kind ≠ .text) (later : Apart (next :: rest)) :
    Apart (⟨.text, text⟩ :: next :: rest)
  | mark {kind : TokenKind} {d : Delimiter} {content : List Char} {rest : List Piece}
    (marked : kind.delimiter? = some d) (clear : Clear d content) (later : Apart rest) :
    Apart (⟨kind, content⟩ :: rest)

section Clear

variable {d : Delimiter} {front back : List Char}

/-- An empty content closes nothing. -/
theorem Clear.nil : Clear d [] := by
  intro rest
  rw [List.nil_append]
  cases splitCloser d rest <;> rfl

/-- Two contents close nothing one after the other if neither does. -/
theorem Clear.append (first : Clear d front) (second : Clear d back) : Clear d (front ++ back) := by
  intro rest
  rw [List.append_assoc, first, second]
  cases splitCloser d rest with
  | none => rfl
  | some found => exact congrArg (fun cs => some (cs, found.2)) (List.append_assoc _ _ _).symm

/-- Whether a character may close a mark or open a literal. -/
def counts (c : Char) : Bool := c == '}' || c == '%' || c == '#' || isQuote c

/-- A content closes nothing if none of its characters may close a mark or open a literal. -/
theorem Clear.of_plain (plain : ∀ c ∈ front, counts c = false) : Clear d front := by
  induction front with
  | nil => exact .nil
  | cons c front ih =>
    have here := plain c List.mem_cons_self
    have later := ih fun c member => plain c (List.mem_cons_of_mem _ member)
    intro rest
    simp only [counts, Bool.or_eq_false_iff, beq_eq_false_iff_ne] at here
    obtain ⟨⟨⟨brace, percent⟩, hash⟩, quote⟩ := here
    have other : (d.closing == c) = false := by
      rw [beq_eq_false_iff_ne]
      cases d
      · exact brace.symm
      · exact percent.symm
      · exact hash.symm
    have goesOn : closesWith d (c :: (front ++ rest)) = false := by
      rw [closesWith, List.isPrefixOf_cons_cons, other, Bool.false_and]
    rw [List.cons_append, splitCloser]
    simp only [goesOn, quote, Bool.false_eq_true, if_false]
    rw [later rest]
    cases splitCloser d rest <;> rfl

/-- A quoted literal closes nothing, whatever is in it. -/
theorem Clear.of_quoted {quote : Char} {body : List Char} (opens : isQuote quote = true)
    (free : quote ∉ body) : Clear d (quote :: (body ++ [quote])) := by
  intro rest
  have closed : closeQuote quote (body ++ quote :: rest) = some (body, rest) :=
    closeQuote_eq_some_iff.mpr ⟨rfl, free⟩
  have goesOn : closesWith d (quote :: (body ++ quote :: rest)) = false := by
    rw [isQuote, Bool.or_eq_true, beq_iff_eq, beq_iff_eq] at opens
    rcases opens with rfl | rfl <;> cases d <;> rfl
  rw [List.cons_append, List.append_assoc, List.singleton_append, splitCloser]
  simp only [goesOn, opens, Bool.false_eq_true, if_false, if_true]
  split
  · rename_i found
    rw [closed] at found
    cases found
    cases splitCloser d rest <;> simp
  · rename_i none
    rw [closed] at none
    cases none

/-- A character that may close a mark or open a literal belongs to no name and no number, and it
is no blank. -/
theorem sort_of_counts {c : Char} (weighs : counts c = true) :
    Text.isNamePart c = false ∧ c.isDigit = false ∧ Text.isBlank c = false := by
  simp only [counts, isQuote, Bool.or_eq_true, beq_iff_eq] at weighs
  rcases weighs with ((rfl | rfl) | rfl) | rfl | rfl <;> decide +kernel

/-- A character of a name closes nothing and opens no literal. -/
theorem counts_of_isNamePart {c : Char} (part : Text.isNamePart c = true) : counts c = false := by
  rw [Bool.eq_false_iff]
  intro weighs
  rw [(sort_of_counts weighs).1] at part
  cases part

/-- Neither does a digit. -/
theorem counts_of_isDigit {c : Char} (digit : c.isDigit = true) : counts c = false := by
  rw [Bool.eq_false_iff]
  intro weighs
  rw [(sort_of_counts weighs).2.1] at digit
  cases digit

/-- Neither does a blank. -/
theorem counts_of_isBlank {c : Char} (blank : Text.isBlank c = true) : counts c = false := by
  rw [Bool.eq_false_iff]
  intro weighs
  rw [(sort_of_counts weighs).2.2] at blank
  cases blank

/-- A name closes nothing. -/
theorem IsName.clear {cs : List Char} (named : IsName cs) : Clear d cs := by
  obtain ⟨start, parts⟩ := named
  refine .of_plain fun c member => counts_of_isNamePart ?_
  rcases List.mem_cons.mp member with rfl | later
  · exact Text.isNamePart_of_isNameStart start
  · exact parts c later

/-- In no written word is the end of a mark found. -/
theorem Lexeme.Spelled.clear {word : Lexeme} {cs : List Char} (spelled : word.Spelled cs) :
    Clear d cs := by
  cases spelled with
  | name named => exact named.clear
  | digits run => exact .of_plain fun c member => counts_of_isDigit (run.digits c member)
  | negative run =>
    refine .of_plain fun c member => ?_
    rcases List.mem_cons.mp member with rfl | later
    · decide
    · exact counts_of_isDigit (run.digits c later)
  | quoted opens free => exact .of_quoted opens free
  | dot => exact .of_plain (eq_false_of_any (by decide))
  | bar => exact .of_plain (eq_false_of_any (by decide))
  | colon => exact .of_plain (eq_false_of_any (by decide))

/-- Blanks close nothing. -/
theorem Clear.of_blank {gap : List Char} (blank : ∀ c ∈ gap, Text.isBlank c = true) :
    Clear d gap :=
  .of_plain fun c member => counts_of_isBlank (blank c member)

/-- Among texts that are laid out the end of a mark is looked for in vain if it is in each. -/
theorem Laid.clear {texts : List (List Char)} {cs : List Char} (laid : Laid texts cs)
    (clear : ∀ text ∈ texts, Clear d text) : Clear d cs := by
  induction laid with
  | nil blank => exact .of_blank blank
  | cons blank apart later ih =>
    have first := clear _ List.mem_cons_self
    have others := ih fun text member => clear text (List.mem_cons_of_mem _ member)
    exact (Clear.of_blank blank).append (first.append others)

/-- In words that are laid out the end of a mark is looked for in vain. -/
theorem Spells.clear {words : List Lexeme} {cs : List Char} (spells : Spells words cs) :
    Clear d cs := by
  obtain ⟨texts, spelled, laid⟩ := spells
  refine laid.clear ?_
  clear laid
  induction spelled with
  | nil => exact nofun
  | cons first others ih => exact List.forall_mem_cons.mpr ⟨first.clear, ih⟩

end Clear

section Tokens

variable {text cs : List Char} {line : Nat}

/-- A delimiter is told by its mark. -/
theorem Delimiter.ofMark?_mark (d : Delimiter) : Delimiter.ofMark? d.mark = some d := by
  cases d <;> rfl

/-- A character that tells a delimiter is its mark. -/
theorem Delimiter.mark_of_ofMark? {c : Char} {d : Delimiter}
    (marked : Delimiter.ofMark? c = some d) : c = d.mark := by
  unfold Delimiter.ofMark? at marked
  split at marked <;> cases marked <;> rfl

/-- No mark is made where two texts meet. -/
def Seam (front back : List Char) : Prop :=
  ∀ d : Delimiter, front.getLast? = some '{' → back.head? ≠ some d.mark

/-- Text without an opening delimiter in it is passed over when one is looked for. -/
theorem splitOpener_append (unopened : Unopened text) (seam : Seam text cs) :
    splitOpener (text ++ cs) = (text ++ (splitOpener cs).1, (splitOpener cs).2) := by
  induction text with
  | nil => rfl
  | cons c text ih =>
    have later : Unopened text := fun d inside =>
      unopened d (inside.trans (List.suffix_cons c text).isInfix)
    have rest : Seam text cs := by
      intro d ends
      cases text with
      | nil => cases ends
      | cons f text => exact seam d (by rw [List.getLast?_cons_cons, ends])
    have shut : opener? (c :: (text ++ cs)) = none := by
      unfold opener?
      split
      · rename_i e after shape
        obtain ⟨brace, shape⟩ := List.cons.inj shape
        cases marked : Delimiter.ofMark? e with
        | none => rfl
        | some d =>
          have mark : e = d.mark := Delimiter.mark_of_ofMark? marked
          cases text with
          | nil =>
            have head : cs.head? = some d.mark := by
              rw [show cs = e :: after from shape, mark]
              rfl
            exact absurd head (seam d (by rw [brace]; rfl))
          | cons f text =>
            obtain ⟨same, -⟩ := List.cons.inj shape
            refine absurd ?_ (unopened d)
            rw [← mark, brace, same]
            exact ⟨[], text, rfl⟩
      · rfl
    rw [List.cons_append, splitOpener, shut]
    dsimp only
    rw [ih later rest]
    rfl

/-- How a source is cut, told without what makes the cutting end. -/
theorem tokensFrom_eq (line : Nat) (cs : List Char) :
    tokensFrom line cs =
      match splitOpener cs with
      | (text, none) => .ok (textToken? text line).toList
      | (text, some (d, rest)) =>
        match splitMark d rest with
        | none => .error ⟨line + lineEnds text, .unclosedMark d⟩
        | some (body, after) =>
          ((textToken? text line).toList ++
              (d.token? body (line + lineEnds text)).toList ++ ·) <$>
            tokensFrom (line + lineEnds text + lineEnds body) after := by
  rw [tokensFrom]
  split
  · rename_i opened
    rw [opened]
  · rename_i opened
    rw [opened]
    dsimp only
    split
    · rename_i closed
      rw [closed]
    · rename_i closed
      rw [closed]

/-- A mark ends where its closing delimiter stands. -/
theorem splitCloser_closing (d : Delimiter) (cs : List Char) :
    splitCloser d (d.closing :: '}' :: cs) = some ([], cs) := by
  rw [splitCloser]
  simp [closesWith]

/-- Text that is all there is is one token. -/
theorem tokensFrom_last (nonempty : text ≠ []) (unopened : Unopened text) :
    tokensFrom line text = .ok [⟨.text, text, line⟩] := by
  have passed : splitOpener (text ++ []) = (text ++ [], none) :=
    splitOpener_append unopened fun _ _ => nofun
  rw [List.append_nil] at passed
  rw [tokensFrom_eq, passed]
  simp [textToken?, nonempty]

/-- What follows on text that ends before a mark is cut by itself. -/
theorem tokensFrom_append (nonempty : text ≠ []) (unopened : Unopened text)
    (ends : text.getLast? ≠ some '{') (marked : opener? cs ≠ none) :
    tokensFrom line (text ++ cs) =
      (⟨.text, text, line⟩ :: ·) <$> tokensFrom (line + lineEnds text) cs := by
  have passed : splitOpener (text ++ cs) = (text ++ (splitOpener cs).1, (splitOpener cs).2) :=
    splitOpener_append unopened fun _ final => absurd final ends
  obtain ⟨⟨d, rest⟩, found⟩ := Option.ne_none_iff_exists'.mp marked
  have here : splitOpener cs = ([], some (d, rest)) := by
    cases cs with
    | nil => cases found
    | cons c cs => rw [splitOpener, found]
  rw [here, List.append_nil] at passed
  rw [tokensFrom_eq line, tokensFrom_eq _ cs, passed, here]
  dsimp only
  cases splitMark d rest with
  | none => simp [lineEnds]
  | some closed =>
    obtain ⟨body, after⟩ := closed
    simp [lineEnds, textToken?, nonempty]

/-- What follows on a mark is cut by itself. -/
theorem tokensFrom_mark {kind : TokenKind} {d : Delimiter} {content : List Char}
    (marked : kind.delimiter? = some d) (clear : Clear d content) :
    tokensFrom line ('{' :: d.mark :: (content ++ d.closing :: '}' :: cs)) =
      (⟨kind, Text.trim content, line⟩ :: ·) <$> tokensFrom (line + lineEnds content) cs := by
  have opened : splitOpener ('{' :: d.mark :: (content ++ d.closing :: '}' :: cs)) =
      ([], some (d, content ++ d.closing :: '}' :: cs)) := by
    rw [splitOpener]
    simp [opener?, Delimiter.ofMark?_mark]
  have closed : splitMark d (content ++ d.closing :: '}' :: cs) = some (content, cs) := by
    have found := clear (d.closing :: '}' :: cs)
    rw [splitCloser_closing, Option.map_some] at found
    dsimp only at found
    rw [List.append_nil] at found
    cases kind <;> cases marked <;> exact found
  have token : d.token? content line = some ⟨kind, Text.trim content, line⟩ := by
    cases kind <;> cases marked <;> rfl
  rw [tokensFrom_eq, opened]
  dsimp only
  rw [closed]
  simp [lineEnds, textToken?, token]

end Tokens

/-- A source written piece by piece is cut into tokens that say what the pieces say. -/
theorem tokensFrom_source {pieces : List Piece} (apart : Apart pieces) (line : Nat) :
    ∃ tokens, tokensFrom line (pieces.flatMap Piece.source) = .ok tokens ∧
      tokens.map Token.saying = pieces.map Piece.saying := by
  induction apart generalizing line with
  | nil =>
    refine ⟨[], ?_, rfl⟩
    rw [List.flatMap_nil, tokensFrom_eq]
    rfl
  | @last text nonempty unopened =>
    refine ⟨[⟨.text, text, line⟩], ?_, rfl⟩
    rw [List.flatMap_singleton]
    exact tokensFrom_last nonempty unopened
  | @text text next rest nonempty unopened ends marked later ih =>
    obtain ⟨tokens, cut, same⟩ := ih (line + lineEnds text)
    refine ⟨⟨.text, text, line⟩ :: tokens, ?_, ?_⟩
    · have opens : opener? ((next :: rest).flatMap Piece.source) ≠ none := by
        obtain ⟨kind, content⟩ := next
        cases kind
        · exact absurd rfl marked
        · exact nofun
        · exact nofun
      rw [List.flatMap_cons]
      change tokensFrom line (text ++ _) = _
      rw [tokensFrom_append nonempty unopened ends opens, cut]
      rfl
    · rw [List.map_cons, same]
      rfl
  | @mark kind d content rest marked clear later ih =>
    obtain ⟨tokens, cut, same⟩ := ih (line + lineEnds content)
    refine ⟨⟨kind, Text.trim content, line⟩ :: tokens, ?_, ?_⟩
    · have shape : (⟨kind, content⟩ : Piece).source =
          '{' :: d.mark :: (content ++ [d.closing, '}']) := by
        rw [Piece.source]
        dsimp only
        rw [marked]
      rw [List.flatMap_cons, shape, List.cons_append, List.cons_append, List.append_assoc]
      change tokensFrom line
        ('{' :: d.mark :: (content ++ d.closing :: '}' :: rest.flatMap Piece.source)) = _
      rw [tokensFrom_mark marked clear, cut]
      rfl
    · rw [List.map_cons, same, List.map_cons, Token.saying, Piece.saying]
      simp [marked]

end TextTemplate.Source

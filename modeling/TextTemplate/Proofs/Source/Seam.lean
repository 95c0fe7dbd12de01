import TextTemplate.Proofs.Source.Cutting
import TextTemplate.Proofs.Source.Grammar
/-!
# Where two sources meet

The end of a mark is looked for in all of the source that follows, so what follows could decide how
a mark is cut. It does not if the marks before it are accepted: what stands in an accepted mark is
of the grammar, and no text of the grammar leaves a literal open (`Token.Fits.clear`). So a source
with another one after it is cut as it is alone, up to the text after its last mark; and if no mark
is made where the two meet, that text goes on with the text before the first mark of the other one,
and the rest of the other one is cut as it is alone, on later lines (`tokenize_append`).
-/
namespace TextTemplate.Source

open TextTemplate

section Clear

variable {d : Delimiter} {cs : List Char} {texts : List (List Char)}

/-- A text of the grammar in which every mark is looked for in vain. -/
theorem LiteralText.clear (literal : LiteralText cs) : Clear d cs := by
  cases literal with
  | quoted opens free => exact .of_quoted opens free
  | digits run => exact .of_plain fun c member => counts_of_isDigit (run.digits c member)
  | negative run =>
    refine .of_plain (List.forall_mem_cons.mpr ⟨by decide, fun c member => ?_⟩)
    exact counts_of_isDigit (run.digits c member)

/-- An accepted field closes nothing. -/
theorem AcceptedField.clear (field : AcceptedField cs) : Clear d cs := by
  rcases field with (named | run) | ⟨zeros, rfl, -, all⟩
  · exact named.clear
  · exact .of_plain fun c member => counts_of_isDigit (run.digits c member)
  · refine .of_plain (List.forall_mem_cons.mpr ⟨by decide, fun c member => ?_⟩)
    rw [all c member]
    decide

/-- Texts in each of which every mark is looked for in vain. -/
def AllClear (d : Delimiter) (texts : List (List Char)) : Prop := ∀ text ∈ texts, Clear d text

/-- No texts are clear. -/
theorem AllClear.nil : AllClear d [] := nofun

/-- Texts are clear if the first is and the others are. -/
theorem AllClear.cons (first : Clear d cs) (others : AllClear d texts) : AllClear d (cs :: texts) :=
  List.forall_mem_cons.mpr ⟨first, others⟩

/-- Texts are clear if those in front are and the others are. -/
theorem AllClear.append {more : List (List Char)} (first : AllClear d texts)
    (second : AllClear d more) : AllClear d (texts ++ more) :=
  List.forall_mem_append.mpr ⟨first, second⟩

/-- A word in which no character may close a mark or open a literal. -/
theorem clear_of_any (plain : cs.any counts = false) : Clear d cs :=
  .of_plain (eq_false_of_any plain)

/-- The texts of fields are clear. -/
theorem FieldsTexts.clear (fields : FieldsTexts AcceptedField texts) : AllClear d texts := by
  induction fields with
  | nil => exact .nil
  | cons first later ih => exact .cons (clear_of_any (by decide)) (.cons first.clear ih)

/-- The texts of an operand are clear. -/
theorem OperandTexts.clear (operand : OperandTexts AcceptedField texts) : AllClear d texts := by
  cases operand with
  | literal literal => exact .cons literal.clear .nil
  | path named later => exact .cons named.clear later.clear

/-- The texts of a filter are clear. -/
theorem FilterTexts.clear (filter : FilterTexts texts) : AllClear d texts := by
  cases filter with
  | @argument name cs known literal =>
    have plain : Clear d name.toList := by
      simp only [List.mem_cons, List.not_mem_nil, or_false] at known
      rcases known with rfl | rfl <;> exact clear_of_any (by decide)
    exact .cons (clear_of_any (by decide))
      (.cons plain (.cons (clear_of_any (by decide)) (.cons literal.clear .nil)))
  | length => exact .cons (clear_of_any (by decide)) (.cons (clear_of_any (by decide)) .nil)

/-- The texts of an expression are clear. -/
theorem ExprTexts.clear (expr : ExprTexts AcceptedField texts) : AllClear d texts := by
  obtain ⟨operand, filters, first, others, rfl⟩ := expr
  refine first.clear.append fun text member => ?_
  obtain ⟨filter, among, inside⟩ := List.mem_flatten.mp member
  exact (others filter among).clear text inside

/-- A word that may be left out is clear. -/
theorem clear_optionalText {given : Bool} {word : String} (plain : word.toList.any counts = false) :
    AllClear d (optionalText given word) := by
  cases given with
  | false => exact .nil
  | true => exact .cons (clear_of_any plain) .nil

/-- The arguments of a tag leave every mark open, and its name is one of the known ones. -/
theorem TagTexts.clear {name : String} (tag : TagTexts AcceptedField name texts) :
    AllClear d texts ∧ name.toList.any counts = false := by
  cases tag with
  | forEach named inner reversed =>
    exact ⟨.cons named.clear (.cons (clear_of_any (by decide))
      (inner.clear.append (clear_optionalText (by decide)))), by decide⟩
  | condition negated inner =>
    exact ⟨(clear_optionalText (by decide)).append inner.clear, by decide⟩
  | block named => exact ⟨.cons named.clear .nil, by decide⟩
  | endblock named => exact ⟨.cons named.clear .nil, by decide⟩
  | inherits inner => exact ⟨inner.clear, by decide⟩
  | includes inner => exact ⟨inner.clear, by decide⟩
  | creates first second =>
    exact ⟨first.clear.append (.cons (clear_of_any (by decide)) second.clear), by decide⟩
  | plain inner =>
    refine ⟨.nil, ?_⟩
    simp only [innerTags, List.mem_cons, List.not_mem_nil, or_false] at inner
    rcases inner with rfl | rfl | rfl | rfl | rfl <;> decide

/-- Blanks at the ends of a text close no mark. -/
theorem Clear.of_trim (clear : Clear d (Text.trim cs)) : Clear d cs := by
  obtain ⟨before, after, split, blank, blank'⟩ := Text.eq_append_trim cs
  rw [split]
  exact ((Clear.of_blank blank).append clear).append (.of_blank blank')

/-- In a variable or tag that is of the grammar the end of a mark is looked for in vain. -/
theorem Token.Fits.clear {token : Token} (fits : token.Fits AcceptedField)
    (marked : token.kind ≠ .text) : Clear d token.content := by
  unfold Token.Fits at fits
  cases kind : token.kind with
  | text => exact absurd kind marked
  | «variable» =>
    rw [kind] at fits
    obtain ⟨texts, laid, inner⟩ := fits
    exact laid.clear inner.clear
  | tag =>
    rw [kind] at fits
    obtain ⟨texts, laid, inner⟩ := fits
    obtain ⟨clear, plain⟩ := inner.clear (d := d)
    have name : Clear d (token.content.takeWhile (!Text.isBlank ·)) := by
      have word : Clear d (Builder.splitTag token.content).1.toList := clear_of_any plain
      rwa [Builder.splitTag, String.toList_ofList] at word
    have args : Clear d (token.content.dropWhile (!Text.isBlank ·)) := .of_trim (laid.clear clear)
    rw [← List.takeWhile_append_dropWhile (p := (!Text.isBlank ·)) (l := token.content)]
    exact name.append args

end Clear

section Splitting

variable {d : Delimiter} {cs text body after rest more : List Char}

/-- What a mark is looked for in begins with the text before it. -/
theorem unopened_of_splitOpener (shut : splitOpener cs = (text, none)) :
    text = cs ∧ Unopened cs := by
  induction cs generalizing text with
  | nil =>
    cases shut
    exact ⟨rfl, fun d inside => by simpa using inside.length_le⟩
  | cons c cs ih =>
    unfold splitOpener at shut
    split at shut
    · cases shut
    · rename_i other
      have rest : splitOpener cs = ((splitOpener cs).1, none) :=
        Prod.ext rfl (Prod.mk.inj shut).2
      obtain ⟨same, later⟩ := ih rest
      obtain ⟨rfl, -⟩ := Prod.mk.inj shut
      refine ⟨by rw [same], fun d inside => ?_⟩
      rcases List.infix_cons_iff.mp inside with here | there
      · obtain ⟨tail, shape⟩ := here
        rw [← shape, List.cons_append, List.cons_append] at other
        simp [opener?, Delimiter.ofMark?_mark] at other
      · exact later d there

/-- The mark that a source begins with is its opening delimiter. -/
theorem eq_of_opener? (opened : opener? cs = some (d, rest)) : cs = '{' :: d.mark :: rest := by
  unfold opener? at opened
  split at opened
  · obtain ⟨found, marked, same⟩ := Option.map_eq_some_iff.mp opened
    obtain ⟨rfl, rfl⟩ := Prod.mk.inj same
    rw [Delimiter.mark_of_ofMark? marked]
  · cases opened

/-- A brace with a mark after it opens the delimiter of the mark. -/
theorem opener?_mark (d : Delimiter) (cs : List Char) :
    opener? ('{' :: d.mark :: cs) = some (d, cs) := by
  rw [opener?, Delimiter.ofMark?_mark]
  rfl

/-- The first mark of a source is its opening delimiter. -/
theorem eq_of_splitOpener (opened : splitOpener cs = (text, some (d, rest))) :
    cs = text ++ '{' :: d.mark :: rest := by
  induction cs generalizing text with
  | nil => cases opened
  | cons c cs ih =>
    rw [splitOpener] at opened
    split at opened
    · rename_i here
      cases opened
      exact eq_of_opener? here
    · obtain ⟨rfl, later⟩ := Prod.mk.inj opened
      exact congrArg (c :: ·) (ih (Prod.ext rfl later))

/-- What follows on a source does not matter to its first mark. -/
theorem splitOpener_append_of_some (opened : splitOpener cs = (text, some (d, rest))) :
    splitOpener (cs ++ more) = (text, some (d, rest ++ more)) := by
  induction cs generalizing text with
  | nil => cases opened
  | cons c cs ih =>
    rw [splitOpener] at opened
    rw [List.cons_append, splitOpener]
    cases here : opener? (c :: cs) with
    | some found =>
      rw [here] at opened
      cases opened
      obtain ⟨rfl, rfl⟩ := List.cons.inj (eq_of_opener? here)
      rw [List.cons_append, opener?_mark]
    | none =>
      rw [here] at opened
      obtain ⟨rfl, later⟩ := Prod.mk.inj opened
      have goesOn : opener? (c :: (cs ++ more)) = none := by
        cases cs with
        | nil => cases later
        | cons e cs =>
          unfold opener? at here ⊢
          split
          · rename_i shape
            cases shape
            exact Option.map_eq_none_iff.mpr (Option.map_eq_none_iff.mp here)
          · rfl
      rw [goesOn]
      dsimp only
      rw [ih (Prod.ext rfl later)]

/-- What stands where a closing delimiter is found. -/
theorem eq_of_closesWith (closes : closesWith d cs = true) :
    ∃ after, cs = d.closing :: '}' :: after := by
  obtain ⟨after, shape⟩ := List.isPrefixOf_iff_prefix.mp closes
  exact ⟨after, shape.symm⟩

/-- The first end of a mark is found wherever it was found alone. -/
theorem splitFirstCloser_append (closed : splitFirstCloser d cs = some (body, after)) :
    splitFirstCloser d (cs ++ more) = some (body, after ++ more) := by
  induction cs generalizing body with
  | nil => cases closed
  | cons c cs ih =>
    rw [splitFirstCloser] at closed
    rw [List.cons_append, splitFirstCloser]
    split at closed
    · rename_i here
      obtain ⟨tail, shape⟩ := eq_of_closesWith here
      cases shape
      cases closed
      simp [closesWith]
    · rename_i other
      obtain ⟨⟨inner, tail⟩, found, same⟩ := Option.map_eq_some_iff.mp closed
      cases same
      have goesOn : ¬ closesWith d (c :: (cs ++ more)) = true := by
        cases cs with
        | nil => cases found
        | cons e cs => simpa [closesWith] using other
      rw [if_neg goesOn, ih found]
      rfl

/-- The first end of a mark is its closing delimiter. -/
theorem eq_of_splitFirstCloser (closed : splitFirstCloser d cs = some (body, after)) :
    cs = body ++ d.closing :: '}' :: after := by
  induction cs generalizing body with
  | nil => cases closed
  | cons c cs ih =>
    rw [splitFirstCloser] at closed
    split at closed
    · rename_i here
      obtain ⟨tail, shape⟩ := eq_of_closesWith here
      cases shape
      cases closed
      rfl
    · obtain ⟨⟨inner, tail⟩, found, same⟩ := Option.map_eq_some_iff.mp closed
      cases same
      rw [ih found, List.cons_append]

/-- The end of a mark outside literals is its closing delimiter. -/
theorem eq_of_splitCloser (closed : splitCloser d cs = some (body, after)) :
    cs = body ++ d.closing :: '}' :: after := by
  fun_induction splitCloser d cs generalizing body with
  | case1 => cases closed
  | case2 c rest here =>
    obtain ⟨tail, shape⟩ := eq_of_closesWith here
    cases shape
    cases closed
    rfl
  | case3 c rest _ _ literal tail found ih =>
    obtain ⟨⟨inner, last⟩, later, same⟩ := Option.map_eq_some_iff.mp closed
    cases same
    rw [(closeQuote_eq_some_iff.mp found).1, ih later]
    simp
  | case4 => exact eq_of_splitFirstCloser closed
  | case5 c rest _ _ ih =>
    obtain ⟨⟨inner, tail⟩, later, same⟩ := Option.map_eq_some_iff.mp closed
    cases same
    rw [ih later, List.cons_append]

/-- The end of a mark is its closing delimiter. -/
theorem eq_of_splitMark (closed : splitMark d cs = some (body, after)) :
    cs = body ++ d.closing :: '}' :: after := by
  cases d
  · exact eq_of_splitCloser closed
  · exact eq_of_splitCloser closed
  · exact eq_of_splitFirstCloser closed

/-- What follows on a mark is the end of what its end was looked for in. -/
theorem suffix_of_splitMark (closed : splitMark d cs = some (body, after)) : after <:+ cs :=
  ⟨body ++ [d.closing, '}'], by simp [eq_of_splitMark closed]⟩

/-- What follows on a source does not matter to a mark in which its end is looked for in vain. -/
theorem splitMark_append (closed : splitMark d cs = some (body, after))
    (clear : d ≠ .comment → Clear d body) :
    splitMark d (cs ++ more) = some (body, after ++ more) := by
  have outside (marked : d ≠ .comment) (found : splitCloser d cs = some (body, after)) :
      splitCloser d (cs ++ more) = some (body, after ++ more) := by
    rw [eq_of_splitCloser found, List.append_assoc, clear marked]
    simp [splitCloser_closing]
  cases d with
  | comment => exact splitFirstCloser_append closed
  | «variable» => exact outside nofun closed
  | tag => exact outside nofun closed

end Splitting

/-- The text before the first mark of a source. -/
def leading (cs : List Char) : List Char := (splitOpener cs).1

/-- The text after the last mark of a source. -/
def trailing (cs : List Char) : List Char :=
  match _opened : splitOpener cs with
  | (text, none) => text
  | (_, some (d, rest)) =>
    match _closed : splitMark d rest with
    | none => []
    | some (_, after) => trailing after
termination_by cs.length
decreasing_by
  have := length_of_splitOpener _opened
  have := length_of_splitMark _closed
  omega

section Tokens

variable {cs front back : List Char} {line : Nat} {tokens : List Token}

/-- Variables and tags in which the end of a mark is looked for in vain. -/
def Legible (tokens : List Token) : Prop :=
  ∀ token ∈ tokens, token.kind ≠ .text → ∀ d, Clear d token.content

/-- The content of a mark is clear if its token is legible. -/
theorem Legible.clear_body {d : Delimiter} {body : List Char}
    (legible : Legible (d.token? body line).toList) (marked : d ≠ .comment) : Clear d body := by
  cases d with
  | comment => exact absurd rfl marked
  | «variable» => exact .of_trim (legible _ List.mem_cons_self nofun .variable)
  | tag => exact .of_trim (legible _ List.mem_cons_self nofun .tag)

/-- A source with another one after it is cut as it is alone, up to the text after its last mark. -/
theorem tokensFrom_trailing (cut : tokensFrom line cs = .ok tokens) (legible : Legible tokens) :
    Unopened (trailing cs) ∧ trailing cs <:+ cs ∧ ∃ early last,
      tokens = early ++ (textToken? (trailing cs) last).toList ∧
      ∀ more, tokensFrom line (cs ++ more) =
        (early ++ ·) <$> tokensFrom last (trailing cs ++ more) := by
  fun_induction trailing cs generalizing line tokens with
  | case1 cs text opened =>
    obtain ⟨rfl, unopened⟩ := unopened_of_splitOpener opened
    rw [tokensFrom_eq, opened] at cut
    cases cut
    exact ⟨unopened, List.suffix_refl _, [], line, rfl, fun more => (id_map _).symm⟩
  | case2 cs text d rest opened closed =>
    rw [tokensFrom_eq, opened] at cut
    dsimp only at cut
    rw [closed] at cut
    cases cut
  | case3 cs text d rest opened body after closed ih =>
    rw [tokensFrom_eq, opened] at cut
    dsimp only at cut
    rw [closed] at cut
    obtain ⟨later, onward, same⟩ := Builder.ok_of_bind cut
    cases same
    have clear (marked : d ≠ .comment) : Clear d body := by
      have here : Legible (d.token? body (line + lineEnds text)).toList := fun token member =>
        legible token (List.mem_append_left _ (List.mem_append_right _ member))
      exact here.clear_body marked
    obtain ⟨unopened, suffix, early, last, rfl, goesOn⟩ :=
      ih onward fun token member => legible token (List.mem_append_right _ member)
    refine ⟨unopened, suffix.trans ?_, _ ++ early, last, (List.append_assoc _ _ _).symm,
      fun more => ?_⟩
    · rw [eq_of_splitOpener opened]
      exact (suffix_of_splitMark closed).trans ⟨text ++ ['{', d.mark], by simp⟩
    · rw [tokensFrom_eq, splitOpener_append_of_some opened]
      dsimp only
      rw [splitMark_append closed clear]
      dsimp only
      rw [goesOn, ← comp_map]
      congr 1
      funext tokens
      simp

/-- What a mark says does not depend on its line. -/
theorem saying_token? (d : Delimiter) (body : List Char) (line line' : Nat) :
    (d.token? body line).toList.map Token.saying =
      (d.token? body line').toList.map Token.saying := by
  cases d <;> rfl

/-- What a text says does not depend on its line. -/
theorem saying_textToken? (text : List Char) (line line' : Nat) :
    (textToken? text line).toList.map Token.saying =
      (textToken? text line').toList.map Token.saying := by
  unfold textToken?
  split <;> rfl

/-- A source is cut on one line as it is cut on any other. -/
theorem tokensFrom_saying (cut : tokensFrom line cs = .ok tokens) (line' : Nat) :
    ∃ tokens', tokensFrom line' cs = .ok tokens' ∧
      tokens'.map Token.saying = tokens.map Token.saying := by
  fun_induction tokensFrom line cs generalizing line' tokens with
  | case1 line cs text opened =>
    cases cut
    rw [tokensFrom_eq, opened]
    exact ⟨_, rfl, saying_textToken? text line' line⟩
  | case2 => cases cut
  | case3 line cs text d rest opened markLine body after closed =>
    rename_i ih
    obtain ⟨later, onward, same⟩ := Builder.ok_of_bind cut
    cases same
    obtain ⟨later', onward', same⟩ := ih onward (line' + lineEnds text + lineEnds body)
    rw [tokensFrom_eq, opened]
    dsimp only
    rw [closed]
    dsimp only
    rw [onward']
    refine ⟨_, rfl, ?_⟩
    simp only [List.map_append, same, saying_textToken? text line' line,
      saying_token? d body (line' + lineEnds text) markLine]

/-- Text goes on with the text before the first mark of what follows it, and what follows is cut as
it is alone, but on other lines. -/
theorem tokensFrom_leading (line : Nat) {text : List Char} (cut : tokenize back = .ok tokens)
    (unopened : Unopened text) (seam : Seam text back) :
    ∃ late late', tokens = (textToken? (leading back) 1).toList ++ late ∧
      tokensFrom line (text ++ back) =
        .ok ((textToken? (text ++ leading back) line).toList ++ late') ∧
      late'.map Token.saying = late.map Token.saying := by
  have passed : splitOpener (text ++ back) = (text ++ leading back, (splitOpener back).2) :=
    splitOpener_append unopened seam
  rw [tokenize, tokensFrom_eq] at cut
  rw [tokensFrom_eq, passed]
  unfold leading
  rcases opened : splitOpener back with ⟨before, _ | ⟨d, rest⟩⟩
  · rw [opened] at cut
    cases cut
    exact ⟨[], [], (List.append_nil _).symm, by simp, rfl⟩
  · rw [opened] at cut
    dsimp only at cut ⊢
    split at cut
    · cases cut
    · rename_i body after closed
      obtain ⟨later, onward, same⟩ := Builder.ok_of_bind cut
      cases same
      obtain ⟨later', onward', same⟩ :=
        tokensFrom_saying onward (line + lineEnds (text ++ before) + lineEnds body)
      rw [onward']
      refine ⟨_, _, List.append_assoc _ _ _, congrArg Except.ok (List.append_assoc _ _ _), ?_⟩
      rw [List.map_append, List.map_append, same, saying_token?]

/-- Two sources one after the other are cut as they are alone, but that the text after the last mark
of the one and the text before the first mark of the other are one text, and that the marks of the
other stand on later lines. -/
theorem tokenize_append {tokens' : List Token} (cut : tokenize front = .ok tokens)
    (legible : Legible tokens) (cut' : tokenize back = .ok tokens') (seam : Seam front back) :
    ∃ early line late late', tokens = early ++ (textToken? (trailing front) line).toList ∧
      tokens' = (textToken? (leading back) 1).toList ++ late ∧
      tokenize (front ++ back) =
        .ok (early ++ (textToken? (trailing front ++ leading back) line).toList ++ late') ∧
      late'.map Token.saying = late.map Token.saying := by
  obtain ⟨unopened, suffix, early, line, rfl, goesOn⟩ := tokensFrom_trailing cut legible
  have seam : Seam (trailing front) back := by
    intro d ends
    refine seam d ?_
    obtain ⟨before, shape⟩ := suffix
    rw [← shape, List.getLast?_append, ends]
    rfl
  obtain ⟨late, late', rfl, onward, same⟩ := tokensFrom_leading line cut' unopened seam
  refine ⟨early, line, late, late', rfl, rfl, ?_, same⟩
  rw [tokenize, goesOn, onward, List.append_assoc]
  rfl

end Tokens

end TextTemplate.Source

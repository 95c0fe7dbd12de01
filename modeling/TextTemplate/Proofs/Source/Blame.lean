import TextTemplate.Proofs.Source.Building
import TextTemplate.Proofs.Source.Pending
import TextTemplate.Proofs.Source.Opening
/-!
# Which tag is at fault

A source that cannot be read is refused with the line of one of its marks. Either a mark is opened
and never closed, or the tokens up to the mark are read and it cannot stand where it does
(`Wrong`), or it opens a block of whose name another was closed before, or it opens the innermost of
the constructs in which the source ends. `Blamed` tells the last three by the scan of the tokens,
`Points` all of them by the opening delimiter to which the cutting of the source comes. Main
statement: a template that is not registered has a source that the error points into
(`Library.register_points`).
-/
namespace TextTemplate

namespace Source

/-! ### Tags that cannot stand where they do -/

/-- The arguments of a tag of a name are as they should be. -/
inductive TagFormed (name : String) (args : List Char) : Prop
  | bare (inner : name ∈ innerTags) (none_ : args = [])
  | named {block : String} (ends : name = "endblock") (laid : lexemes args = .ok [.name block])
  | opening {opening : Opening} {words : List Lexeme} (opens : name = opening.tag)
    (laid : lexemes args = .ok words) (written : OpeningWords opening words)
  | expression {e : Expr} {words : List Lexeme} (refers : name = "extends" ∨ name = "include")
    (laid : lexemes args = .ok words) (written : ExprWords e words)
  | creates {file template : Expr} {front back : List Lexeme} (makes : name = "create")
    (laid : lexemes args = .ok (front ++ .name "from" :: back)) (first : ExprWords file front)
    (second : ExprWords template back)

/-- A token is formed as it should be: a variable of the words of an expression, a tag of a name and
of its arguments. -/
def Token.Formed (token : Token) : Prop :=
  match token.kind with
  | .text => True
  | .variable => ∃ e words, lexemes token.content = .ok words ∧ ExprWords e words
  | .tag => TagFormed (Builder.splitTag token.content).1 token.inner

/-- The tags that open and close the same construct. -/
def closers : List (String × String) := [("for", "endfor"), ("if", "endif"), ("block", "endblock")]

/-- The tags that open and divide the same construct. -/
def dividers : List (String × String) := [("for", "empty"), ("if", "else")]

/-- A tag of the name closes the construct, or divides it and is the first to do so. -/
def Construct.Takes (c : Construct) (name : String) : Prop :=
  ∃ tag, c.opener.tag? = some tag ∧
    ((tag, name) ∈ closers ∨ c.divided = false ∧ (tag, name) ∈ dividers)

/-- A token cannot stand after the tokens of a scan. -/
inductive Wrong (s : Scan) (token : Token) : Fault → Prop
  /-- It is a variable or a tag of a known name, and it is not formed as it should be. -/
  | malformed {fault : Fault} (known : ∀ name, token.tag? = some name → name ∈ tagNames)
    (bad : ¬ token.Formed) : Wrong s token fault
  /-- It is a tag without a name. -/
  | empty (tagged : token.tag? = some "") : Wrong s token .emptyTag
  /-- It is a tag of a name that no tag has. -/
  | unknown {name : String} (tagged : token.tag? = some name) (new : name ∉ tagNames) :
    Wrong s token (.unknownTag name)
  /-- It closes or divides a construct, and the innermost open one is none that it could close or
  divide. -/
  | stray {name : String} (tagged : token.tag? = some name) (inner : name ∈ innerTags)
    (misfit : ∀ c ∈ s.pending.head?, ¬ c.Takes name) : Wrong s token (.strayTag name)
  /-- It names the parent of the template after another variable or tag. -/
  | late (tagged : token.tag? = some "extends") (after : ∃ other ∈ s.read, other.kind ≠ .text) :
    Wrong s token .misplacedExtends
  /-- It opens a construct inside as many as may be open. -/
  | deep {name : String} (tagged : token.tag? = some name) (opens : TagRole.ofName name = .opens)
    (full : maxNesting ≤ s.pending.length) : Wrong s token (.tooDeep name)
  /-- It closes a block by the name of another. -/
  | mismatched {c : Construct} {name found : String} (tagged : token.tag? = some "endblock")
    (innermost : c ∈ s.pending.head?) (opens : c.opener.OpensBlock name)
    (laid : lexemes token.inner = .ok [.name found]) (other : found ≠ name) :
    Wrong s token (.mismatchedEnd found name)

/-- A token is refused after the tokens of a scan, and one is at fault: itself, or the opening tag
of the block that it closes, if another of that name was closed before. -/
inductive Refuses (s : Scan) (token : Token) : List Token → Token → Fault → Prop
  | wrong {fault : Fault} (wrong : Wrong s token fault) : Refuses s token s.read token fault
  | duplicate {c : Construct} {name : String} (innermost : c ∈ s.pending.head?)
    (closes : token.tag? = some "endblock") (opens : c.opener.OpensBlock name)
    (again : ∃ other ∈ s.closed, other.opener.OpensBlock name) :
    Refuses s token c.before c.opener (.duplicateBlock name)

/-- Tokens are added from the start without a fault. -/
def Accepted (tokens : List Token) : Prop := ∃ b, Builder.start.addAll tokens = .ok b

/-- Of some tokens the one that stands after the given ones is at fault: the first that is refused,
or the block that this would close, or, if none is refused, the opening tag of the innermost
construct that is open at the end. -/
inductive Blamed (tokens : List Token) : List Token → Token → Fault → Prop
  | refused {front back before : List Token} {token blamed : Token} {fault : Fault}
    (split : tokens = front ++ token :: back) (accepted : Accepted front)
    (refuses : Refuses (scan front) token before blamed fault) : Blamed tokens before blamed fault
  | leftOpen {c : Construct} {tag closer : String} (accepted : Accepted tokens)
    (innermost : c ∈ (scan tokens).pending.head?) (opener : c.opener.tag? = some tag)
    (pair : (tag, closer) ∈ closers) : Blamed tokens c.before c.opener (.unclosedTag tag closer)

/-! ### Readings that fail -/

section Faults

variable {s : Scan} {b : Builder} {token : Token} {name : String} {args : List Char}
  {fault : Fault} {e : SyntaxError}

/-- A fault that is given a line was a fault before. -/
theorem error_of_atLine {α : Type} {line : Nat} {x : Except Fault α}
    (failed : Builder.atLine line x = .error e) :
    ∃ fault, x = .error fault ∧ e = ⟨line, fault⟩ := by
  cases x with
  | error fault =>
    cases failed
    exact ⟨fault, rfl, rfl⟩
  | ok v => cases failed

/-- A tag is formed as its name and its arguments say. -/
theorem Token.formed_of_tag (tagged : token.tag? = some name) :
    token.Formed ↔ TagFormed name token.inner := by
  unfold Token.tag? at tagged
  split at tagged
  · rename_i kind
    cases tagged
    rw [Token.Formed, kind]
  · cases tagged

/-- A tag that divides or closes a construct has no arguments, but for the name of a block. -/
theorem TagFormed.bare_or_named (formed : TagFormed name args) (inner : name ∈ innerTags) :
    args = [] ∨ name = "endblock" ∧ ∃ block, lexemes args = .ok [.name block] := by
  cases formed with
  | bare _ none_ => exact .inl none_
  | named ends laid => exact .inr ⟨ends, _, laid⟩
  | opening opens =>
    subst opens
    exact absurd inner (Opening.tag_notMem _)
  | expression refers => rcases refers with rfl | rfl <;> exact absurd inner (by decide)
  | creates makes =>
    subst makes
    exact absurd inner (by decide)

/-- A tag of a known name whose arguments are not as they should be is malformed. -/
theorem Wrong.of_known (tagged : token.tag? = some name) (known : name ∈ tagNames)
    (unformed : ¬ TagFormed name token.inner) : Wrong s token fault := by
  refine .malformed (fun other same => ?_) ((Token.formed_of_tag tagged).not.mpr unformed)
  rw [tagged] at same
  cases same
  exact known

/-- A construct that cannot be opened is nested too deep. -/
theorem wrong_of_openFrame {opening : Opening} {line : Nat} (tracks : s.Tracks b)
    (tagged : token.tag? = some opening.tag)
    (failed : b.openFrame line opening = .error fault) : Wrong s token fault := by
  unfold Builder.openFrame at failed
  split at failed
  · rename_i full
    cases failed
    exact .deep tagged opening.role_tag (by rw [tracks.pending.length_eq]; exact full)
  · cases failed

/-- A tag that neither divides nor closes a construct is refused for what it is or where it
stands. -/
theorem wrong_of_addTag (tracks : s.Tracks b) (tagged : token.tag? = some name)
    (outer : name ∉ innerTags)
    (failed : b.addTag token.line name token.inner = .error fault) : Wrong s token fault := by
  by_cases formed : TagFormed name token.inner
  · cases formed with
    | bare inner => exact absurd inner outer
    | named ends =>
      subst ends
      exact absurd (by decide) outer
    | opening opens laid written =>
      subst opens
      rw [Builder.addTag_opening laid written] at failed
      exact wrong_of_openFrame tracks tagged failed
    | @expression e words refers laid written =>
      rcases refers with rfl | rfl
      · have only : readOnly "extends" words = .ok e := readOnly_eq_ok_iff.mpr written
        simp only [Builder.addTag, Wording.words_of, laid, ok_bind, only] at failed
        split at failed
        · rename_i placed
          cases failed
          refine .late tagged (tracks.started ?_)
          simpa using placed
        · cases failed
      · rw [(Builder.Takes.includes laid written).addTag outer] at failed
        cases failed
    | creates makes laid first second =>
      subst makes
      rw [(Builder.Takes.creates laid first second).addTag outer] at failed
      cases failed
  · by_cases known : name ∈ tagNames
    · exact .of_known tagged known formed
    · unfold Builder.addTag at failed
      split at failed <;> first | exact absurd (by decide) known | cases failed
      · exact .empty tagged
      · exact .unknown tagged known

/-- A tag that is refused where it closes and divides nothing is wrong, and so is its line. -/
theorem wrong_of_addOuterTag (tracks : s.Tracks b) (tagged : token.tag? = some name)
    (misfit : ∀ c ∈ s.pending.head?, ¬ c.Takes name)
    (failed : b.addOuterTag token.line name token.inner = .error e) :
    Wrong s token e.fault ∧ e.line = token.line := by
  unfold Builder.addOuterTag at failed
  split at failed
  · rename_i inner
    cases failed
    exact ⟨.stray tagged inner misfit, rfl⟩
  · rename_i outer
    obtain ⟨fault, inside, rfl⟩ := error_of_atLine failed
    exact ⟨wrong_of_addTag tracks tagged outer inside, rfl⟩

/-- A dividing tag is refused for its arguments. -/
theorem wrong_of_divide {frame : Frame} {outer : List Frame} (tagged : token.tag? = some name)
    (divides : frame.opening.divider? = some name)
    (failed : b.divide frame outer token.inner name = .error fault) : Wrong s token fault := by
  have known := Opening.divider_known divides
  have inner := (Opening.divider_mem divides).1
  unfold Builder.divide at failed
  split at failed
  · cases failed
  · rename_i given
    refine .of_known tagged known fun formed => ?_
    rcases formed.bare_or_named inner with none_ | ⟨rfl, -⟩
    · exact given (List.isEmpty_iff.mpr none_)
    · exact absurd (Opening.role_divider divides) (by decide)

/-- The closing tag of a block is refused for its arguments, or if they name another block. -/
theorem wrong_of_checkBlockEnd {c : Construct} (tagged : token.tag? = some "endblock")
    (innermost : c ∈ s.pending.head?) (opens : c.opener.OpensBlock name)
    (failed : Builder.checkBlockEnd name token.inner = .error fault) : Wrong s token fault := by
  unfold Builder.checkBlockEnd at failed
  split at failed
  · cases failed
  · rename_i given
    by_cases formed : TagFormed "endblock" token.inner
    · rcases formed.bare_or_named (by decide) with none_ | ⟨-, found, laid⟩
      · exact absurd (List.isEmpty_iff.mpr none_) given
      · have read : Builder.readBlockName "endblock" [.name found] = .ok found :=
          readBlockName_eq_ok_iff.mpr rfl
        simp only [Wording.words_of, laid, ok_bind, read] at failed
        split at failed
        · rename_i other
          cases failed
          exact .mismatched tagged innermost opens laid other
        · cases failed
    · exact .of_known tagged (by decide) formed

/-- A closing tag is refused, or it closes a block whose name another has that was closed before. -/
theorem refuses_of_close {frame : Frame} {outer : List Frame} (tracks : s.Tracks b)
    (frames : b.frames = frame :: outer) (tagged : token.tag? = some frame.opening.closer)
    (failed : b.close frame outer token.inner token.line = .error e) :
    ∃ before blamed, Refuses s token before blamed e.fault ∧ e.line = blamed.line := by
  obtain ⟨c, rest, pending, first, later⟩ := tracks.innermost frames
  have innermost : c ∈ s.pending.head? := by
    rw [pending]
    rfl
  unfold Builder.close at failed
  split at failed
  · rename_i name block
    have opens := first.opensBlock block
    rw [block] at tagged
    split at failed
    · rename_i fault unchecked
      cases failed
      have wrong := wrong_of_checkBlockEnd tagged innermost opens unchecked
      exact ⟨_, _, .wrong wrong, rfl⟩
    · split at failed
      · rename_i known
        cases failed
        have again := tracks.closed name known
        exact ⟨_, _, .duplicate innermost tagged opens again, first.line⟩
      · cases failed
  · rename_i unnamed
    split at failed
    · cases failed
    · rename_i given
      cases failed
      refine ⟨_, _, .wrong (.of_known tagged frame.opening.closer_known fun formed => ?_), rfl⟩
      rcases formed.bare_or_named frame.opening.closer_mem with none_ | ⟨block, -⟩
      · exact given (List.isEmpty_iff.mpr none_)
      · cases shape : frame.opening with
        | block name => exact unnamed name shape
        | forEach | condition =>
          rw [shape] at block
          simp [Opening.closer] at block

/-- What a construct takes, the builder takes as its closing or dividing tag. -/
theorem Construct.Tracks.of_takes {c : Construct} {frame : Frame} (tracks : c.Tracks frame)
    (takes : c.Takes name) :
    name = frame.opening.closer ∨ frame.divided.isNone ∧ frame.opening.divider? = some name := by
  obtain ⟨tag, opener, fits⟩ := takes
  rw [tracks.tag] at opener
  cases opener
  rcases fits with closes | ⟨whole, divides⟩
  · left
    cases shape : frame.opening <;> rw [shape] at closes <;>
      simpa [closers, Opening.tag, Opening.closer] using closes
  · right
    rw [tracks.divided] at whole
    refine ⟨by simpa using whole, ?_⟩
    cases shape : frame.opening <;> rw [shape] at divides <;>
      simp [dividers, Opening.tag] at divides <;> rw [divides] <;> rfl

/-- A variable is refused if it is no expression. -/
theorem not_formed_of_readVariable (kind : token.kind = .variable)
    (failed : Builder.readVariable token.content = .error fault) : ¬ token.Formed := by
  unfold Token.Formed
  rw [kind]
  rintro ⟨e, words, laid, written⟩
  unfold Builder.readVariable at failed
  split at failed
  · rename_i none_
    rw [List.isEmpty_iff.mp none_, lexemes] at laid
    cases laid
    obtain ⟨_, _, none_, _⟩ := written.begins
    cases none_
  · have only : readOnly "\x7b\x7b \x7d\x7d" words = .ok e := readOnly_eq_ok_iff.mpr written
    rw [Wording.words_of, laid, ok_bind, only] at failed
    cases failed

/-- A token that a builder does not add is refused. -/
theorem refuses_of_add (tracks : s.Tracks b) (failed : b.add token = .error e) :
    ∃ before blamed, Refuses s token before blamed e.fault ∧ e.line = blamed.line := by
  have alone : Wrong s token e.fault ∧ e.line = token.line →
      ∃ before blamed, Refuses s token before blamed e.fault ∧ e.line = blamed.line := by
    rintro ⟨wrong, line⟩
    exact ⟨_, _, .wrong wrong, line⟩
  cases kind : token.kind with
  | text =>
    rw [b.add_of_text kind] at failed
    cases failed
  | «variable» =>
    rw [b.add_of_variable kind] at failed
    obtain ⟨fault, inside, rfl⟩ := error_of_atLine failed
    have unread : Builder.readVariable token.content = .error fault := by
      cases read : Builder.readVariable token.content with
      | error cause =>
        rw [read] at inside
        cases inside
        rfl
      | ok e =>
        rw [read] at inside
        cases inside
    refine alone ⟨.malformed (fun name tagged => ?_) (not_formed_of_readVariable kind unread), rfl⟩
    rw [Token.tag?, kind] at tagged
    cases tagged
  | tag =>
    have tagged : token.tag? = some (Builder.splitTag token.content).1 := by
      rw [Token.tag?, kind]
    rw [token.add_of_tag? b tagged] at failed
    unfold Builder.tag at failed
    split at failed
    · rename_i frames
      have none_ : s.pending = [] := by
        have pending := tracks.pending
        rw [frames] at pending
        exact List.forall₂_nil_right_iff.mp pending
      exact alone (wrong_of_addOuterTag tracks tagged (by simp [none_]) failed)
    · rename_i frame outer frames
      split at failed
      · rename_i closes
        exact refuses_of_close tracks frames (closes ▸ tagged) failed
      · rename_i unclosed
        split at failed
        · rename_i dividing
          obtain ⟨fault, inside, rfl⟩ := error_of_atLine failed
          exact alone ⟨wrong_of_divide tagged dividing.2 inside, rfl⟩
        · rename_i undivided
          obtain ⟨c, rest, pending, first, -⟩ := tracks.innermost frames
          refine alone (wrong_of_addOuterTag tracks tagged ?_ failed)
          rw [pending]
          rintro _ ⟨⟩ takes
          exact (first.of_takes takes).elim unclosed undivided

end Faults

/-! ### Sources that are refused -/

section Sources

variable {source : List Char} {tokens : List Token} {e : SyntaxError}

/-- Tokens that cannot all be added are added up to the first that is refused. -/
theorem exists_of_addAll_error (failed : Builder.start.addAll tokens = .error e) :
    ∃ front token back b, tokens = front ++ token :: back ∧
      Builder.start.addAll front = .ok b ∧ b.add token = .error e := by
  induction tokens using List.reverseRecOn with
  | nil => cases failed
  | append_singleton tokens token ih =>
    rw [Builder.addAll_append] at failed
    cases added : Builder.start.addAll tokens with
    | error cause =>
      rw [added] at failed
      cases failed
      obtain ⟨front, first, back, b, split, before, refused⟩ := ih added
      exact ⟨front, first, back ++ [token], b, by rw [split]; simp, before, refused⟩
    | ok b =>
      rw [added, ok_bind, Builder.addAll, List.foldlM_cons] at failed
      cases one : b.add token with
      | error cause =>
        rw [one] at failed
        cases failed
        exact ⟨tokens, token, [], b, rfl, added, one⟩
      | ok after =>
        rw [one] at failed
        cases failed

/-- A token that is wrong is a variable or a tag. -/
theorem Wrong.marked {s : Scan} {token : Token} {fault : Fault} (wrong : Wrong s token fault) :
    token.kind ≠ .text := by
  cases wrong with
  | malformed known bad =>
    intro text
    exact bad (by rw [Token.Formed, text]; trivial)
  | empty tagged | unknown tagged | stray tagged | late tagged | deep tagged | mismatched tagged =>
    exact Token.kind_ne_text_of_tag tagged

/-- What is blamed is a variable or a tag, and it stands after the tokens that are told. -/
theorem Blamed.placed {before : List Token} {blamed : Token} {fault : Fault}
    (found : Blamed tokens before blamed fault) :
    blamed.kind ≠ .text ∧ ∃ inside, tokens = before ++ blamed :: inside := by
  have pending : ∀ {tokens : List Token} {c : Construct}, c ∈ (scan tokens).pending.head? →
      ∃ inside, tokens = c.before ++ c.opener :: inside := fun innermost =>
    split_of_pending (List.mem_of_mem_head? innermost)
  cases found with
  | @refused front back _ token _ _ split accepted refuses =>
    cases refuses with
    | wrong wrong =>
      rw [read_scan]
      exact ⟨wrong.marked, back, split⟩
    | duplicate innermost closes opens again =>
      obtain ⟨inside, shape⟩ := pending innermost
      refine ⟨Token.kind_ne_text_of_tag opens.1, inside ++ token :: back, ?_⟩
      rw [split]
      conv_lhs => rw [shape]
      simp
  | leftOpen accepted innermost opener =>
    exact ⟨Token.kind_ne_text_of_tag opener, pending innermost⟩

/-- One of the tokens of a source that is cut and not read is blamed. -/
theorem blamed_of_parse_error {name : String} (cut : tokenize source = .ok tokens)
    (failed : parse name source = .error e) :
    ∃ before blamed, Blamed tokens before blamed e.fault ∧ e.line = blamed.line := by
  rw [parse, cut, ok_bind] at failed
  cases added : Builder.start.addAll tokens with
  | error cause =>
    rw [added] at failed
    cases failed
    obtain ⟨front, token, back, b, split, before, refused⟩ := exists_of_addAll_error added
    obtain ⟨place, blamed, refuses, line⟩ := refuses_of_add (tracks_addAll before) refused
    exact ⟨place, blamed, .refused split ⟨b, before⟩ refuses, line⟩
  | ok b =>
    rw [added, ok_bind] at failed
    unfold Builder.finish at failed
    split at failed
    · cases failed
    · rename_i frame outer frames
      cases failed
      obtain ⟨c, rest, pending, first, -⟩ := (tracks_addAll added).innermost frames
      have pair : (frame.opening.tag, frame.opening.closer) ∈ closers := by
        cases frame.opening <;> simp [closers, Opening.tag, Opening.closer]
      exact ⟨_, _, .leftOpen ⟨b, added⟩ (by rw [pending]; rfl) first.tag pair, first.line⟩

/-- Where an error points to in a source: an opening delimiter to which the cutting of the source
comes and which is not closed; or that of the mark of which a blamed variable or tag was made, after
the tokens in front of it. Its line is told by the line ends in front of the opening delimiter. -/
inductive Points (source : List Char) : SyntaxError → Prop
  /-- The source cannot be cut, since the mark has no end. -/
  | unclosed {front rest : List Char} {before : List Token} {d : Delimiter}
    (opens : Opens source front before d rest) (split : source = front ++ '{' :: d.mark :: rest)
    (unended : splitMark d rest = none) :
    Points source ⟨1 + lineEnds front, .unclosedMark d⟩
  /-- The source is cut, and of its tokens the one that the mark made is at fault. -/
  | blamed {front rest body after : List Char} {tokens before : List Token} {d : Delimiter}
    {token : Token} {fault : Fault} (cut : tokenize source = .ok tokens)
    (opens : Opens source front before d rest) (split : source = front ++ '{' :: d.mark :: rest)
    (closed : splitMark d rest = some (body, after))
    (made : d.token? body (1 + lineEnds front) = some token)
    (found : Blamed tokens before token fault) :
    Points source ⟨1 + lineEnds front, fault⟩

/-- The token of a mark knows the line on which the mark opens. -/
theorem line_of_token? {d : Delimiter} {body : List Char} {line : Nat} {token : Token}
    (made : d.token? body line = some token) : token.line = line := by
  cases d <;> cases made <;> rfl

/-- Where the error of a source that is not read points to. -/
theorem points_of_parse_error {name : String} (failed : parse name source = .error e) :
    Points source e := by
  cases cut : tokenize source with
  | error cause =>
    rw [parse, cut] at failed
    cases failed
    obtain ⟨front, before, d, rest, opens, unended, rfl⟩ :=
      Reaches.start.exists_unclosed rfl cut
    exact .unclosed opens opens.eq_append unended
  | ok tokens =>
    obtain ⟨before, token, found, line⟩ := blamed_of_parse_error cut failed
    obtain ⟨marked, inside, split⟩ := found.placed
    obtain ⟨front, d, rest, body, after, opens, closed, made⟩ :=
      Reaches.start.exists_made rfl cut split marked
    have place : e = ⟨1 + lineEnds front, e.fault⟩ := by
      rw [← line_of_token? made, ← line]
    rw [place]
    exact .blamed cut opens opens.eq_append closed made found

end Sources

end Source

/-- A name and a source that are not registered are refused with the normalised name, and with an
error that points to a mark of the source. -/
theorem Library.register_points {library : Library} {name source : String} {error : RenderError}
    (failed : library.register name source = .error error) :
    ∃ e, error = .parse (normalise name) e ∧ Source.Points source.toList e := by
  unfold register at failed
  cases read : Source.parse (normalise name) source.toList with
  | ok t =>
    simp only [read] at failed
    cases failed
  | error e =>
    simp only [read] at failed
    cases failed
    exact ⟨e, rfl, Source.points_of_parse_error read⟩

/-- A condition on a line of its own, with a loop in it that goes on to the end: the loop is at
fault, which began on the second line. -/
theorem Library.register_points_loop : ∃ e,
    Library.register ∅ "./page" "\x7b% if a %\x7d\n\x7b%\nfor x in xs %\x7d\n" =
      .error (.parse "page" e) ∧
    e = ⟨2, .unclosedTag "for" "endfor"⟩ ∧
    Source.Points "\x7b% if a %\x7d\n\x7b%\nfor x in xs %\x7d\n".toList e := by
  have failed : Library.register ∅ "./page" "\x7b% if a %\x7d\n\x7b%\nfor x in xs %\x7d\n" =
      .error (.parse "page" ⟨2, .unclosedTag "for" "endfor"⟩) := by
    with_unfolding_all rfl
  obtain ⟨e, same, points⟩ := Library.register_points failed
  cases same
  exact ⟨_, failed, rfl, points⟩

end TextTemplate

import TextTemplate.Proofs.Source.Phrase
/-!
# What a token does to a builder

There are nine ways in which a builder adds a token: a text, a variable and three tags become nodes,
a tag opens a construct, divides it or closes it, and one that closes a block adds the block to the
table. `Builder.Takes` lists them, each with the words that are read, with what the builder must be
like for it, and with what becomes of the builder. Main statement: a builder adds what is read of a
token exactly if it takes it so (`Builder.addReading_eq_ok_iff`).

Whatever holds of all tokens that are added is read off this list, case by case.
-/
namespace TextTemplate.Source

open TextTemplate

/-- The text of a token in which expressions may stand. -/
def Token.inner (token : Token) : List Char :=
  match token.kind with
  | .text => []
  | .variable => token.content
  | .tag => (Builder.splitTag token.content).2

/-- What is said in the part of a token in which expressions may stand. -/
def Reading.inside : Reading → Wording
  | .text _ => .of []
  | .variable inside => inside
  | .tag _ args => args

/-- In a token is said what its inner text says. -/
theorem Token.inside_reading (token : Token) : token.reading.inside = .of token.inner := by
  obtain ⟨kind, content, line⟩ := token
  cases kind <;> rfl

namespace Opening

/-- The tag that opens a construct does not stand inside one. -/
theorem tag_notMem (opening : Opening) : opening.tag ∉ innerTags := by
  cases opening <;> simp [tag, innerTags]

/-- The tag that closes a construct stands inside one. -/
theorem closer_mem (opening : Opening) : opening.closer ∈ innerTags := by
  cases opening <;> simp [closer, innerTags]

/-- The tag that divides a construct stands inside one and does not close it. -/
theorem divider_mem {opening : Opening} {name : String} (divides : opening.divider? = some name) :
    name ∈ innerTags ∧ name ≠ opening.closer := by
  cases opening <;> simp only [divider?, Option.some.injEq, reduceCtorEq] at divides <;>
    subst divides <;> simp [closer, innerTags]

end Opening

namespace Builder

/-- A builder in which a construct was opened. -/
def opened (b : Builder) (opening : Opening) (line : Nat) : Builder :=
  { b with nodes := #[], frames := ⟨opening, line, b.nodes, none⟩ :: b.frames, started := true }

/-- A builder in which the innermost construct was divided. -/
def halved (b : Builder) (frame : Frame) (outer : List Frame) : Builder :=
  { b with nodes := #[], frames := { frame with divided := some b.nodes.toList } :: outer }

/-- How a builder takes what is read of a token on a line, and what becomes of it. -/
inductive Takes (b : Builder) (line : Nat) : Reading → Builder → Prop
  | text (s : String) : Takes b line (.text s) { b with nodes := b.nodes.push (.text s) }
  | variable {inside : Wording} {e : Expr} {words : List Lexeme} (filled : inside.isEmpty = false)
    (laid : inside.words = .ok words) (written : ExprWords e words) :
    Takes b line (.variable inside) (b.push (.variable e))
  | inherits {args : Wording} {parent : Expr} {words : List Lexeme}
    (laid : args.words = .ok words) (written : ExprWords parent words) (fresh : b.started = false)
    (outermost : b.frames = []) : Takes b line (.tag "extends" args) (b.push (.inherits parent))
  | includes {args : Wording} {template : Expr} {words : List Lexeme}
    (laid : args.words = .ok words) (written : ExprWords template words) :
    Takes b line (.tag "include" args) (b.push (.includes template))
  | creates {args : Wording} {file template : Expr} {front back : List Lexeme}
    (laid : args.words = .ok (front ++ .name "from" :: back)) (first : ExprWords file front)
    (second : ExprWords template back) :
    Takes b line (.tag "create" args) (b.push (.creates file template line))
  | opened {args : Wording} {opening : Opening} {words : List Lexeme}
    (laid : args.words = .ok words) (written : OpeningWords opening words)
    (room : b.frames.length < maxNesting) :
    Takes b line (.tag opening.tag args) (b.opened opening line)
  | divided {args : Wording} {frame : Frame} {outer : List Frame} {name : String}
    (innermost : b.frames = frame :: outer) (whole : frame.divided = none)
    (divides : frame.opening.divider? = some name) (bare : args.isEmpty = true) :
    Takes b line (.tag name args) (b.halved frame outer)
  | closed {args : Wording} {frame : Frame} {outer : List Frame}
    (innermost : b.frames = frame :: outer) (unnamed : ∀ name, frame.opening ≠ .block name)
    (bare : args.isEmpty = true) :
    Takes b line (.tag frame.opening.closer args) (b.closeFrame frame outer)
  | closedBlock {args : Wording} {frame : Frame} {outer : List Frame} {name : String}
    (innermost : b.frames = frame :: outer) (named : frame.opening = .block name)
    (ends : args.isEmpty = true ∨ args.words = .ok [.name name])
    (new : b.blocks.contains name = false) :
    Takes b line (.tag "endblock" args)
      { b.closeFrame frame outer with blocks := b.blocks.insert name b.nodes.toList }

section Readers

variable {b built : Builder} {line : Nat} {args : Wording} {words : List Lexeme}

/-- A construct is opened if there is room for it. -/
theorem openFrame_eq_ok_iff {opening : Opening} : b.openFrame line opening = .ok built ↔
    b.frames.length < maxNesting ∧ built = b.opened opening line := by
  unfold openFrame
  split
  · rename_i full
    exact iff_of_false nofun fun room => absurd room.1 (by omega)
  · rename_i room
    rw [Except.ok.injEq, eq_comm]
    exact ⟨fun same => ⟨by omega, same⟩, fun opens => opens.2⟩

/-- A variable is read from the words of its expression and from no others. -/
theorem readVariable_eq_ok_iff {e : Expr} : readVariable args = .ok e ↔
    args.isEmpty = false ∧ ∃ words, args.words = .ok words ∧ ExprWords e words := by
  unfold readVariable
  cases args.isEmpty with
  | true => exact iff_of_false nofun fun filled => nomatch filled.1
  | false =>
    cases args.words with
    | error fault => exact iff_of_false nofun fun ⟨_, _, laid, _⟩ => nomatch laid
    | ok words =>
      refine Iff.trans readOnly_eq_ok_iff ⟨fun written => ⟨rfl, words, rfl, written⟩, ?_⟩
      rintro ⟨-, _, ⟨⟩, written⟩
      exact written

/-- In the closing tag of a block may stand its name or nothing. -/
theorem checkBlockEnd_eq_ok_iff {name : String} : checkBlockEnd name args = .ok () ↔
    args.isEmpty = true ∨ args.words = .ok [.name name] := by
  unfold checkBlockEnd
  cases args.isEmpty with
  | true => exact iff_of_true rfl (.inl rfl)
  | false =>
    rw [if_neg nofun]
    constructor
    · intro checked
      obtain ⟨words, laid, rest⟩ := ok_of_bind checked
      obtain ⟨found, read, same⟩ := ok_of_bind rest
      rw [readBlockName_eq_ok_iff.mp read] at laid
      split at same
      · cases same
      · rename_i equal
        rw [← Decidable.not_not.mp equal]
        exact .inr laid
    · rintro (none_ | laid)
      · cases none_
      · have read : readBlockName "endblock" [.name name] = .ok name :=
          readBlockName_eq_ok_iff.mpr rfl
        simp only [laid, ok_bind, read, ne_eq, not_true_eq_false, if_false]
        rfl

end Readers

section Ways

variable {b built : Builder} {line : Nat} {name : String} {args : Wording}

/-- A tag that neither divides nor closes a construct is taken so wherever it stands. -/
theorem tag_of_notMem_innerTags (outer : name ∉ innerTags) :
    b.tag line name args = atLine line (b.addTag line name args) := by
  have added : b.addOuterTag line name args = atLine line (b.addTag line name args) := by
    rw [addOuterTag, if_neg outer]
  unfold tag
  cases b.frames with
  | nil => exact added
  | cons frame frames =>
    have other : name ≠ frame.opening.closer := by
      rintro rfl
      exact outer frame.opening.closer_mem
    have whole : frame.opening.divider? ≠ some name :=
      fun same => outer (Opening.divider_mem same).1
    dsimp only
    rw [if_neg other, if_neg fun divides => whole divides.2]
    exact added

/-- How a tag is taken that neither divides nor closes a construct. -/
theorem takes_of_addTag (added : b.addTag line name args = .ok built) :
    b.Takes line (.tag name args) built := by
  unfold addTag at added
  split at added
  · obtain ⟨words, laid, rest⟩ := ok_of_bind added
    obtain ⟨opening, read, opens⟩ := ok_of_bind rest
    obtain ⟨written, _, _, _, rfl⟩ := readForEach_eq_ok_iff.mp read
    obtain ⟨room, rfl⟩ := openFrame_eq_ok_iff.mp opens
    exact .opened laid written room
  · obtain ⟨words, laid, rest⟩ := ok_of_bind added
    obtain ⟨opening, read, opens⟩ := ok_of_bind rest
    obtain ⟨written, _, _, rfl⟩ := readCondition_eq_ok_iff.mp read
    obtain ⟨room, rfl⟩ := openFrame_eq_ok_iff.mp opens
    exact .opened laid written room
  · obtain ⟨words, laid, rest⟩ := ok_of_bind added
    obtain ⟨block, read, opens⟩ := ok_of_bind rest
    rw [readBlockName_eq_ok_iff.mp read] at laid
    obtain ⟨room, rfl⟩ := openFrame_eq_ok_iff.mp opens
    exact .opened laid (.block block) room
  · split at added
    · cases added
    · rename_i placed
      simp only [Bool.or_eq_true, Bool.not_eq_true', not_or, Bool.not_eq_true, Bool.not_eq_false,
        List.isEmpty_iff] at placed
      obtain ⟨words, laid, rest⟩ := ok_of_bind added
      obtain ⟨parent, read, pushed⟩ := ok_of_bind rest
      cases pushed
      exact .inherits laid (readOnly_eq_ok_iff.mp read) placed.1 placed.2
  · obtain ⟨words, laid, rest⟩ := ok_of_bind added
    obtain ⟨template, read, pushed⟩ := ok_of_bind rest
    cases pushed
    exact .includes laid (readOnly_eq_ok_iff.mp read)
  · obtain ⟨words, laid, rest⟩ := ok_of_bind added
    obtain ⟨node, read, pushed⟩ := ok_of_bind rest
    cases pushed
    obtain ⟨file, template, front, back, rfl, rfl, first, second⟩ :=
      readCreates_eq_ok_iff.mp read
    exact .creates laid first second
  · cases added
  · cases added

/-- How a tag is taken that is none of those that divide and close constructs. -/
theorem takes_of_addOuterTag (added : b.addOuterTag line name args = .ok built) :
    b.Takes line (.tag name args) built := by
  unfold addOuterTag at added
  split at added
  · cases added
  · exact takes_of_addTag (ok_of_atLine added)

/-- How a closing tag is taken. -/
theorem takes_of_close {frame : Frame} {outer : List Frame} (innermost : b.frames = frame :: outer)
    (closed : b.close frame outer args line = .ok built) :
    b.Takes line (.tag frame.opening.closer args) built := by
  unfold close at closed
  split at closed
  · rename_i block named
    split at closed
    · cases closed
    · rename_i checked
      split at closed
      · cases closed
      · rename_i new
        cases closed
        rw [named]
        exact .closedBlock innermost named (checkBlockEnd_eq_ok_iff.mp checked)
          (Bool.eq_false_iff.mpr new)
  · rename_i unnamed
    split at closed
    · rename_i bare
      cases closed
      exact .closed innermost unnamed bare
    · cases closed

/-- How a tag is taken. -/
theorem takes_of_tag (added : b.tag line name args = .ok built) :
    b.Takes line (.tag name args) built := by
  unfold tag at added
  split at added
  · exact takes_of_addOuterTag added
  · rename_i frame outer innermost
    split at added
    · rename_i closes
      rw [closes]
      exact takes_of_close innermost added
    · split at added
      · rename_i dividing
        have halves := ok_of_atLine added
        unfold divide at halves
        split at halves
        · rename_i bare
          cases halves
          exact .divided innermost (Option.isNone_iff_eq_none.mp dividing.1) dividing.2 bare
        · cases halves
      · exact takes_of_addOuterTag added

/-- A tag that opens a construct opens it if there is room. -/
theorem addTag_opening {opening : Opening} {words : List Lexeme} (laid : args.words = .ok words)
    (written : OpeningWords opening words) :
    b.addTag line opening.tag args = b.openFrame line opening := by
  cases written with
  | forEach var reversed inner =>
    have loop := readForEach_eq_ok_iff.mpr ⟨.forEach var reversed inner, _, _, _, rfl⟩
    simp only [Opening.tag, addTag, laid, ok_bind, loop]
  | condition negated inner =>
    have test := readCondition_eq_ok_iff.mpr ⟨.condition negated inner, _, _, rfl⟩
    simp only [Opening.tag, addTag, laid, ok_bind, test]
  | block name =>
    have found : readBlockName "block" [.name name] = .ok name := readBlockName_eq_ok_iff.mpr rfl
    simp only [Opening.tag, addTag, laid, ok_bind, found]

/-- What a builder takes it adds. -/
theorem Takes.added {reading : Reading} (takes : b.Takes line reading built) :
    b.addReading line reading = .ok built := by
  cases takes with
  | text s => rfl
  | «variable» filled laid written =>
    have read := readVariable_eq_ok_iff.mpr ⟨filled, _, laid, written⟩
    rw [addReading, read]
    rfl
  | inherits laid written fresh outermost =>
    have only : readOnly "extends" _ = .ok _ := readOnly_eq_ok_iff.mpr written
    rw [addReading, tag_of_notMem_innerTags (by decide)]
    simp only [addTag, fresh, outermost, laid, ok_bind, only]
    rfl
  | includes laid written =>
    have only : readOnly "include" _ = .ok _ := readOnly_eq_ok_iff.mpr written
    rw [addReading, tag_of_notMem_innerTags (by decide)]
    simp only [addTag, laid, ok_bind, only]
    rfl
  | creates laid first second =>
    have made := (@readCreates_eq_ok_iff _ line _).mpr ⟨_, _, _, _, rfl, rfl, first, second⟩
    rw [addReading, tag_of_notMem_innerTags (by decide)]
    simp only [addTag, laid, ok_bind, made]
    rfl
  | @opened args opening words laid written room =>
    rw [addReading, tag_of_notMem_innerTags opening.tag_notMem, addTag_opening laid written,
      openFrame_eq_ok_iff.mpr ⟨room, rfl⟩]
    rfl
  | divided innermost whole divides bare =>
    unfold addReading tag
    simp only [innermost, if_neg (Opening.divider_mem divides).2, whole, divides,
      Option.isNone_none, and_self, if_true, divide, bare]
    rfl
  | @closed args frame outer innermost unnamed bare =>
    unfold addReading tag
    simp only [innermost, if_true, close, bare]
  | @closedBlock args frame outer name innermost named ends new =>
    have checked := checkBlockEnd_eq_ok_iff.mpr ends
    unfold addReading tag
    simp only [innermost, named, Opening.closer, if_true, close, checked, new, Bool.false_eq_true,
      if_false]

/-- A tag that neither divides nor closes a construct is added without regard to those that are
open. -/
theorem Takes.addTag (takes : b.Takes line (.tag name args) built) (outer : name ∉ innerTags) :
    b.addTag line name args = .ok built := by
  have added : b.tag line name args = .ok built := takes.added
  rw [tag_of_notMem_innerTags outer] at added
  exact ok_of_atLine added

/-- A builder adds what is read of a token exactly if it takes it in one of the ways. -/
theorem addReading_eq_ok_iff {reading : Reading} :
    b.addReading line reading = .ok built ↔ b.Takes line reading built := by
  refine ⟨fun added => ?_, Takes.added⟩
  cases reading with
  | text content =>
    cases added
    exact .text content
  | «variable» inside =>
    obtain ⟨e, read, pushed⟩ := ok_of_bind (ok_of_atLine added)
    cases pushed
    obtain ⟨filled, words, laid, written⟩ := readVariable_eq_ok_iff.mp read
    exact .variable filled laid written
  | tag name args => exact takes_of_tag added

/-- A token that a builder adds is taken in one of the ways. -/
theorem takes_of_add {token : Token} (added : b.add token = .ok built) :
    b.Takes token.line token.reading built := addReading_eq_ok_iff.mp added

end Ways

end Builder

end TextTemplate.Source

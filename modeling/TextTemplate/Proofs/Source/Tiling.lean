import TextTemplate.Proofs.Source.Seam
import TextTemplate.Proofs.Library.Name
import TextTemplate.Proofs.Render.Plain
/-!
# What a source is cut into

The tokens of a source and the comments between them make up all of the source: a `Stretch` is one
of them as it is written, with the blanks that a token leaves out. `Tiles` says of stretches that
they are the source, that their tokens are those that it is cut into, and that each token knows its
line. Main statement: a source that is cut is tiled by its tokens, and one without an opening
delimiter is one text, which is rendered as it is (`tokenize_tiles`).
-/
namespace TextTemplate.Source

open TextTemplate

/-- A part of a source: a token with the blanks that stand around its content, or a comment. -/
inductive Stretch
  | kept (before : List Char) (token : Token) (after : List Char)
  | comment (body : List Char)

namespace Stretch

/-- A stretch as it is written. -/
def source : Stretch → List Char
  | .kept before token after => Piece.source ⟨token.kind, before ++ token.content ++ after⟩
  | .comment body => '{' :: '#' :: (body ++ ['#', '}'])

/-- The token of a stretch; a comment has none. -/
def token? : Stretch → Option Token
  | .kept _ token _ => some token
  | .comment _ => none

/-- Blanks stand around the content of a variable or tag, which has none at its ends; a text stands
as it is and has no opening delimiter in it; a comment ends at the first closing delimiter. -/
def Proper : Stretch → Prop
  | .kept before token after =>
    (∀ c ∈ before, Text.isBlank c = true) ∧ (∀ c ∈ after, Text.isBlank c = true) ∧
      if token.kind = .text then
        before = [] ∧ after = [] ∧ token.content ≠ [] ∧ Unopened token.content
      else (∀ c ∈ token.content.head?, Text.isBlank c = false) ∧
        ∀ c ∈ token.content.getLast?, Text.isBlank c = false
  | .comment body => ¬ ['#', '}'] <:+: body

/-- Whether a stretch is text. -/
def IsText (stretch : Stretch) : Prop := ∃ token, stretch.token? = some token ∧ token.kind = .text

/-- A text in front of another stretch stands before a mark, and it does not end in a brace. -/
def Leads (first next : Stretch) : Prop :=
  ∀ token, first.token? = some token → token.kind = .text →
    token.content.getLast? ≠ some '{' ∧ ¬ next.IsText

end Stretch

/-- Stretches make up a source that begins on a line, and the tokens are those of the source. -/
structure Tiles (line : Nat) (source : List Char) (tokens : List Token)
    (stretches : List Stretch) : Prop where
  /-- The source is the stretches one after the other. -/
  source : stretches.flatMap Stretch.source = source
  /-- The tokens are those of the stretches, in order. -/
  tokens : stretches.filterMap Stretch.token? = tokens
  /-- Every stretch is written as it should be. -/
  proper : ∀ s ∈ stretches, s.Proper
  /-- No text makes a mark with what follows it. -/
  apart : stretches.IsChain Stretch.Leads
  /-- The line of a token is told by the line ends in front of it. -/
  lines : ∀ front token before after back, stretches = front ++ .kept before token after :: back →
    token.line = line + lineEnds (front.flatMap Stretch.source)

section Splitting

variable {d : Delimiter} {cs text body after rest : List Char}

/-- No part of a text without an opening delimiter has one. -/
theorem Unopened.of_infix {inner : List Char} (unopened : Unopened text)
    (inside : inner <:+: text) : Unopened inner :=
  fun d found => unopened d (found.trans inside)

/-- The text before the first mark has no opening delimiter in it, and makes none with the brace
that follows. -/
theorem unopened_of_splitOpener_some (opened : splitOpener cs = (text, some (d, rest))) :
    Unopened (text ++ ['{']) := by
  induction cs generalizing text with
  | nil => cases opened
  | cons c cs ih =>
    rw [splitOpener] at opened
    split at opened
    · cases opened
      exact fun d inside => absurd inside.length_le (by simp)
    · rename_i other
      obtain ⟨rfl, later⟩ := Prod.mk.inj opened
      have behind : splitOpener cs = ((splitOpener cs).1, some (d, rest)) := Prod.ext rfl later
      refine fun e inside => ?_
      rw [List.cons_append, List.infix_cons_iff] at inside
      rcases inside with here | there
      · obtain ⟨tail, shape⟩ := here
        obtain ⟨rfl, next⟩ := List.cons.inj shape
        -- an opening delimiter here would be found in front of the source, where there is none
        have marked : cs = e.mark :: (tail ++ d.mark :: rest) := by
          rw [eq_of_splitOpener behind, List.append_cons, ← next]
          rfl
        rw [marked, opener?_mark] at other
        cases other
      · exact ih behind e there

/-- A text that makes no mark with a brace does not end in one. -/
theorem Unopened.getLast?_ne (unopened : Unopened (text ++ ['{'])) :
    text.getLast? ≠ some '{' := by
  intro brace
  obtain ⟨front, rfl⟩ := List.getLast?_eq_some_iff.mp brace
  exact unopened .variable ⟨front, [], by simp [Delimiter.mark]⟩

/-- The first end of a mark has none before it. -/
theorem not_infix_of_splitFirstCloser (closed : splitFirstCloser d cs = some (body, after)) :
    ¬ [d.closing, '}'] <:+: body := by
  induction cs generalizing body with
  | nil => cases closed
  | cons c cs ih =>
    have whole := eq_of_splitFirstCloser closed
    rw [splitFirstCloser] at closed
    split at closed
    · cases closed
      exact fun inside => absurd inside.length_le (by simp)
    · rename_i other
      obtain ⟨⟨inner, tail⟩, found, same⟩ := Option.map_eq_some_iff.mp closed
      cases same
      rw [List.infix_cons_iff]
      rintro (here | there)
      · have front : [d.closing, '}'] <+: c :: cs := by
          rw [whole]
          exact here.trans (List.prefix_append _ _)
        exact other (List.isPrefixOf_iff_prefix.mpr front)
      · exact ih found there

end Splitting

section Tiles

variable {line : Nat} {cs : List Char} {tokens : List Token} {stretches : List Stretch}

/-- An empty source is tiled by nothing. -/
theorem Tiles.nil (line : Nat) : Tiles line [] [] [] where
  source := rfl
  tokens := rfl
  proper := nofun
  apart := .nil
  lines front token before after back split := by
    cases front <;> cases split

/-- A stretch in front of others, which begin on a later line. -/
theorem Tiles.cons {s : Stretch} (proper : s.Proper)
    (here : ∀ token, s.token? = some token → token.line = line)
    (leads : ∀ next ∈ stretches.head?, s.Leads next)
    (later : Tiles (line + lineEnds s.source) cs tokens stretches) :
    Tiles line (s.source ++ cs) (s.token?.toList ++ tokens) (s :: stretches) where
  source := by rw [List.flatMap_cons, later.source]
  tokens := by
    rw [List.filterMap_cons, later.tokens]
    cases s.token? <;> rfl
  proper := List.forall_mem_cons.mpr ⟨proper, later.proper⟩
  apart := List.isChain_cons.mpr ⟨leads, later.apart⟩
  lines front token before after back split := by
    cases front with
    | nil =>
      obtain ⟨rfl, -⟩ := List.cons.inj split
      exact here token rfl
    | cons first front =>
      obtain ⟨rfl, inside⟩ := List.cons.inj split
      rw [later.lines front token before after back inside, List.flatMap_cons, lineEnds, lineEnds,
        lineEnds, List.count_append, Nat.add_assoc]

/-- A mark is written as a stretch, which has the token of the mark. -/
theorem exists_mark {d : Delimiter} {body : List Char}
    (first : d = .comment → ¬ [d.closing, '}'] <:+: body) (line : Nat) :
    ∃ s : Stretch, s.source = '{' :: d.mark :: (body ++ [d.closing, '}']) ∧
      s.token? = d.token? body line ∧ s.Proper ∧ ¬ s.IsText := by
  obtain ⟨before, after, split, blank, blank'⟩ := Text.eq_append_trim body
  have ends : (∀ c ∈ (Text.trim body).head?, Text.isBlank c = false) ∧
      ∀ c ∈ (Text.trim body).getLast?, Text.isBlank c = false :=
    ⟨fun c first => Text.head?_trimLeft (Text.head?_of_head?_trimRight first),
      fun c last => Text.getLast?_trimRight last⟩
  have marked : ∀ kind : TokenKind, kind ≠ .text →
      ¬ (Stretch.kept before ⟨kind, Text.trim body, line⟩ after).IsText := by
    rintro kind other ⟨_, ⟨⟩, text⟩
    exact other text
  cases d with
  | «variable» =>
    refine ⟨.kept before ⟨.variable, Text.trim body, line⟩ after, ?_, rfl, ?_, marked _ nofun⟩
    · rw [Stretch.source, ← split]
      rfl
    · exact ⟨blank, blank', ends⟩
  | tag =>
    refine ⟨.kept before ⟨.tag, Text.trim body, line⟩ after, ?_, rfl, ?_, marked _ nofun⟩
    · rw [Stretch.source, ← split]
      rfl
    · exact ⟨blank, blank', ends⟩
  | comment => exact ⟨.comment body, rfl, rfl, first rfl, nofun⟩

/-- What follows on a mark is tiled after it. -/
theorem Tiles.mark {d : Delimiter} {body : List Char}
    (first : d = .comment → ¬ [d.closing, '}'] <:+: body)
    (later : Tiles (line + lineEnds body) cs tokens stretches) :
    ∃ s : Stretch, ¬ s.IsText ∧
      Tiles line ('{' :: d.mark :: (body ++ d.closing :: '}' :: cs))
        ((d.token? body line).toList ++ tokens) (s :: stretches) := by
  obtain ⟨s, source, token, proper, marked⟩ := exists_mark first line
  have ends : lineEnds s.source = lineEnds body := by
    rw [source]
    cases d <;> simp [lineEnds, Delimiter.mark, Delimiter.closing]
  have here : ∀ token, s.token? = some token → token.line = line := by
    rw [token]
    cases d <;> rintro _ ⟨⟩ <;> rfl
  have leads : ∀ next ∈ stretches.head?, s.Leads next := fun next _ token found text =>
    absurd ⟨token, found, text⟩ marked
  rw [← ends] at later
  have whole := later.cons proper here leads
  rw [source, token] at whole
  refine ⟨s, marked, ?_⟩
  simpa using whole

/-- The stretch that a text is; an empty one is none. -/
def textStretch (text : List Char) (line : Nat) : List Stretch :=
  (textToken? text line).toList.map (.kept [] · [])

/-- What follows on a text is tiled after it, if the two make no mark where they meet. -/
theorem Tiles.text {text : List Char} (unopened : Unopened text)
    (meets : ∀ next ∈ stretches.head?, text.getLast? ≠ some '{' ∧ ¬ next.IsText)
    (later : Tiles (line + lineEnds text) cs tokens stretches) :
    Tiles line (text ++ cs) ((textToken? text line).toList ++ tokens)
      (textStretch text line ++ stretches) := by
  by_cases none_ : text = []
  · subst none_
    exact later
  · let s : Stretch := .kept [] ⟨.text, text, line⟩ []
    have source : s.source = text := List.append_nil text
    have token : s.token? = textToken? text line := by
      simp [s, Stretch.token?, textToken?, none_]
    have stretch : textStretch text line = [s] := by simp [textStretch, textToken?, none_, s]
    have proper : s.Proper :=
      ⟨List.forall_mem_nil _, List.forall_mem_nil _, rfl, rfl, none_, unopened⟩
    have here : ∀ token, s.token? = some token → token.line = line := by
      rintro _ ⟨⟩
      rfl
    have leads : ∀ next ∈ stretches.head?, s.Leads next := by
      rintro next first token ⟨⟩ -
      exact meets next first
    rw [← source] at later
    have whole := later.cons proper here leads
    rw [source, token] at whole
    rw [stretch]
    exact whole

/-- A source that is cut is tiled by its tokens. -/
theorem tiles_of_tokensFrom (cut : tokensFrom line cs = .ok tokens) :
    ∃ stretches, Tiles line cs tokens stretches := by
  fun_induction tokensFrom line cs generalizing tokens with
  | case1 line cs text opened =>
    obtain ⟨rfl, unopened⟩ := unopened_of_splitOpener opened
    cases cut
    have alone := (Tiles.nil (line + lineEnds text)).text unopened fun _ none_ => by cases none_
    rw [List.append_nil, List.append_nil] at alone
    exact ⟨_, alone⟩
  | case2 => cases cut
  | case3 line cs text d rest opened markLine body after closed =>
    rename_i ih
    obtain ⟨later, onward, same⟩ := Builder.ok_of_bind cut
    cases same
    -- what follows begins on the line on which the mark closes
    obtain ⟨stretches, inside⟩ := ih onward
    have unopened := unopened_of_splitOpener_some opened
    have shut := unopened.getLast?_ne
    have first : d = .comment → ¬ [d.closing, '}'] <:+: body := by
      rintro rfl
      exact not_infix_of_splitFirstCloser closed
    obtain ⟨mark, marked, tiled⟩ := inside.mark first
    have meets : ∀ next ∈ (mark :: stretches).head?, text.getLast? ≠ some '{' ∧ ¬ next.IsText := by
      rintro next ⟨⟩
      exact ⟨shut, marked⟩
    have whole := tiled.text (unopened.of_infix (List.prefix_append _ _).isInfix) meets
    rw [eq_of_splitOpener opened, eq_of_splitMark closed]
    rw [← List.append_assoc] at whole
    exact ⟨_, whole⟩

end Tiles

/-- The text that a source without marks is, unless it is empty. -/
def wholeText (source : List Char) : List String :=
  if source.isEmpty then [] else [String.ofList source]

/-- The source is the text of its only token, if it has one. -/
theorem join_wholeText (source : List Char) :
    String.join (wholeText source) = String.ofList source := by
  cases source with
  | nil => rfl
  | cons c rest => simp [wholeText, String.join]

/-- A source without an opening delimiter is cut into itself. -/
theorem tokenize_of_unopened {source : List Char} (unopened : Unopened source) :
    tokenize source = .ok (textToken? source 1).toList := by
  have passed : splitOpener (source ++ []) = (source ++ [], none) :=
    splitOpener_append unopened fun _ _ => nofun
  rw [List.append_nil] at passed
  rw [tokenize, tokensFrom_eq, passed]

/-- It is read as a template of that one text. -/
theorem parse_of_unopened {source : List Char} (unopened : Unopened source) (name : String) :
    parse name source = .ok ⟨name, (wholeText source).map .text, ∅⟩ := by
  rw [parse, tokenize_of_unopened unopened]
  cases source <;> rfl

/-- A source that is cut is tiled by its tokens. One without an opening delimiter is one text, if it
is not empty, and it is read as a template whose render writes the source and changes nothing else,
if templates may nest at all. -/
theorem tokenize_tiles (source : List Char) :
    (∀ tokens, tokenize source = .ok tokens → ∃ stretches, Tiles 1 source tokens stretches) ∧
    (Unopened source → tokenize source = .ok (textToken? source 1).toList ∧
      ∃ texts, String.join texts = String.ofList source ∧ ∀ name, ∃ t, parse name source = .ok t ∧
        ∀ (setting : Setting) (m : Machine), m.sink.Open → ∀ fuel,
          t.render setting (fuel + 2) m =
            if setting.config.maxDepth = 0 then .failed (.tooDeep 0 name) m.fresh
            else .done () (m.fresh.wroteAll texts)) := by
  refine ⟨fun tokens cut => tiles_of_tokensFrom cut, fun unopened => ?_⟩
  refine ⟨tokenize_of_unopened unopened, wholeText source, join_wholeText source, fun name => ?_⟩
  exact ⟨_, parse_of_unopened unopened name, fun setting m free fuel =>
    Template.render_of_texts rfl setting free fuel⟩

/-- A source with a brace before a variable, and a comment with a quote and a line end in it, is
tiled; and one with braces but no mark is rendered as it is. -/
theorem tokenize_tiles_braces :
    (∃ stretches, Tiles 1 "a\x7b# it's\n #\x7d\x7b \x7b\x7b\n x\x7d\x7d".toList
      [⟨.text, ['a'], 1⟩, ⟨.text, ['{', ' '], 2⟩, ⟨.variable, ['x'], 2⟩] stretches) ∧
    ∃ t n, parse "page" "\x7b a \x7d\x7d".toList = .ok t ∧
      t.render ⟨.silent, default⟩ 2 (.start ∅ ∅ ∅) = .done () n ∧
      n.sink.text = "\x7b a \x7d\x7d" := by
  have passed : splitOpener "\x7b a \x7d\x7d".toList = ("\x7b a \x7d\x7d".toList, none) := by
    decide +kernel
  have tiled := (tokenize_tiles "a\x7b# it's\n #\x7d\x7b \x7b\x7b\n x\x7d\x7d".toList).1
  obtain ⟨-, texts, joined, known⟩ := (tokenize_tiles "\x7b a \x7d\x7d".toList).2
    (unopened_of_splitOpener passed).2
  obtain ⟨t, read, rendered⟩ := known "page"
  refine ⟨tiled _ (by with_unfolding_all rfl), t, _, read,
    (rendered ⟨.silent, default⟩ (.start ∅ ∅ ∅) (fun _ _ => rfl) 0).trans (if_neg (by decide)), ?_⟩
  rw [Machine.text_wroteAll, joined]
  decide +kernel

end TextTemplate.Source

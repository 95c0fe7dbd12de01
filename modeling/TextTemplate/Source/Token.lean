import TextTemplate.Source.Fault
import TextTemplate.Source.Quote
import TextTemplate.Text.Blank

/-!
# Tokens of a source

A source is text with marks in it. A mark opens with a brace and one of three characters; a variable
or block tag closes at its closing delimiter outside quoted literals, a comment at the first closing
delimiter. `tokenize` cuts a source into the text between marks, the content of variables and tags
without the blanks at their ends, and drops comments. A token knows the line on which it begins.

The laws here say that what follows a delimiter is shorter than what it was looked for in, so
cutting a source ends.
-/
namespace TextTemplate.Source

/-- What a token is. -/
inductive TokenKind
  | text
  | variable
  | tag
deriving DecidableEq, Repr

/-- A piece of a source. -/
structure Token where
  /-- What the piece is. -/
  kind : TokenKind
  /-- Its text; for a variable or tag, what stands between the delimiters. -/
  content : List Char
  /-- The line on which it begins, counted from one. -/
  line : Nat
deriving DecidableEq, Repr

/-- The kind of mark that a character after an opening brace makes. -/
def Delimiter.ofMark? : Char → Option Delimiter
  | '{' => some .variable
  | '%' => some .tag
  | '#' => some .comment
  | _ => none

/-- The mark that a source begins with, and the source after its opening delimiter. -/
def opener? : List Char → Option (Delimiter × List Char)
  | '{' :: c :: rest => (Delimiter.ofMark? c).map (·, rest)
  | _ => none

/-- The text before the first mark; the mark, if there is one, and the source after its opening
delimiter. -/
def splitOpener : List Char → List Char × Option (Delimiter × List Char)
  | [] => ([], none)
  | c :: rest =>
    match opener? (c :: rest) with
    | some opened => ([], some opened)
    | none =>
      let (text, opened) := splitOpener rest
      (c :: text, opened)

/-- Whether a source begins with the closing delimiter of a kind of mark. -/
def closesWith (d : Delimiter) (cs : List Char) : Bool := [d.closing, '}'].isPrefixOf cs

/-- The text before the first closing delimiter, and the source after it. -/
def splitFirstCloser (d : Delimiter) : List Char → Option (List Char × List Char)
  | [] => none
  | c :: rest =>
    if closesWith d (c :: rest) then some ([], rest.drop 1)
    else (splitFirstCloser d rest).map fun (body, after) => (c :: body, after)

/-- The text before the first closing delimiter outside quoted literals, and the source after it. A
quote that is never closed opens no literal: from there on the first closing delimiter counts. -/
def splitCloser (d : Delimiter) : List Char → Option (List Char × List Char)
  | [] => none
  | c :: rest =>
    if closesWith d (c :: rest) then some ([], rest.drop 1)
    else if isQuote c then
      match _found : closeQuote c rest with
      | some (literal, after) =>
        (splitCloser d after).map fun (body, tail) => (c :: (literal ++ c :: body), tail)
      | none => splitFirstCloser d (c :: rest)
    else (splitCloser d rest).map fun (body, after) => (c :: body, after)
termination_by cs => cs.length
decreasing_by
  · have := length_of_closeQuote _found
    simp only [List.length_cons]
    omega
  · simp

/-- The end of a mark: quoted literals count in variables and tags, not in comments. -/
def splitMark : Delimiter → List Char → Option (List Char × List Char)
  | .comment => splitFirstCloser .comment
  | d => splitCloser d

/-- The number of line ends in a text. -/
def lineEnds (cs : List Char) : Nat := cs.count '\n'

/-- The token of a mark with the given content; a comment makes none. -/
def Delimiter.token? (d : Delimiter) (content : List Char) (line : Nat) : Option Token :=
  match d with
  | .variable => some ⟨.variable, Text.trim content, line⟩
  | .tag => some ⟨.tag, Text.trim content, line⟩
  | .comment => none

/-- The token of the text before a mark; empty text makes none. -/
def textToken? (text : List Char) (line : Nat) : Option Token :=
  if text.isEmpty then none else some ⟨.text, text, line⟩

/-- An opening delimiter takes two characters. -/
theorem length_of_opener? {cs rest : List Char} {d : Delimiter}
    (opened : opener? cs = some (d, rest)) : rest.length + 2 = cs.length := by
  unfold opener? at opened
  split at opened
  · obtain ⟨_, _, shape⟩ := Option.map_eq_some_iff.1 opened
    simp only [Prod.mk.injEq] at shape
    simp [shape.2]
  · cases opened

/-- What follows an opening delimiter is shorter than the source by two characters at least. -/
theorem length_of_splitOpener {cs text rest : List Char} {d : Delimiter}
    (opened : splitOpener cs = (text, some (d, rest))) : rest.length + 2 ≤ cs.length := by
  induction cs generalizing text with
  | nil => simp [splitOpener] at opened
  | cons c tail ih =>
    unfold splitOpener at opened
    split at opened
    · rename_i found here
      simp only [Prod.mk.injEq, Option.some.injEq] at opened
      obtain ⟨_, rfl⟩ := opened
      exact Nat.le_of_eq (length_of_opener? here)
    · simp only [Prod.mk.injEq] at opened
      have := ih (Prod.ext rfl opened.2)
      simp only [List.length_cons]
      omega

/-- What follows the first closing delimiter is shorter than the source. -/
theorem length_of_splitFirstCloser {d : Delimiter} {cs body after : List Char}
    (found : splitFirstCloser d cs = some (body, after)) : after.length < cs.length := by
  induction cs generalizing body with
  | nil => simp [splitFirstCloser] at found
  | cons c rest ih =>
    unfold splitFirstCloser at found
    split at found
    · simp only [Option.some.injEq, Prod.mk.injEq] at found
      rw [← found.2, List.length_drop, List.length_cons]
      omega
    · obtain ⟨⟨inner, tail⟩, inside, shape⟩ := Option.map_eq_some_iff.1 found
      simp only [Prod.mk.injEq] at shape
      have := ih (shape.2 ▸ inside)
      simp only [List.length_cons]
      omega

/-- What follows a closing delimiter outside literals is shorter than the source. -/
theorem length_of_splitCloser {d : Delimiter} {cs body after : List Char}
    (found : splitCloser d cs = some (body, after)) : after.length < cs.length := by
  fun_induction splitCloser d cs generalizing body with
  | case1 => cases found
  | case2 c rest _ =>
    simp only [Option.some.injEq, Prod.mk.injEq] at found
    rw [← found.2, List.length_drop, List.length_cons]
    omega
  | case3 c rest _ _ literal tail closed ih =>
    obtain ⟨⟨inner, last⟩, inside, shape⟩ := Option.map_eq_some_iff.1 found
    simp only [Prod.mk.injEq] at shape
    have := ih (shape.2 ▸ inside)
    have := length_of_closeQuote closed
    simp only [List.length_cons]
    omega
  | case4 => exact length_of_splitFirstCloser found
  | case5 c rest _ _ ih =>
    obtain ⟨⟨inner, tail⟩, inside, shape⟩ := Option.map_eq_some_iff.1 found
    simp only [Prod.mk.injEq] at shape
    have := ih (shape.2 ▸ inside)
    simp only [List.length_cons]
    omega

/-- What follows a mark is shorter than what the mark was looked for in. -/
theorem length_of_splitMark {d : Delimiter} {cs body after : List Char}
    (found : splitMark d cs = some (body, after)) : after.length < cs.length := by
  unfold splitMark at found
  split at found
  · exact length_of_splitFirstCloser found
  · exact length_of_splitCloser found

/-- The tokens of the source that begins on the given line. -/
def tokensFrom (line : Nat) (cs : List Char) : Except SyntaxError (List Token) :=
  match _opened : splitOpener cs with
  | (text, none) => .ok (textToken? text line).toList
  | (text, some (d, rest)) =>
    let markLine := line + lineEnds text
    match _closed : splitMark d rest with
    | none => .error ⟨markLine, .unclosedMark d⟩
    | some (body, after) =>
      ((textToken? text line).toList ++ (d.token? body markLine).toList ++ ·) <$>
        tokensFrom (markLine + lineEnds body) after
termination_by cs.length
decreasing_by
  have := length_of_splitOpener _opened
  have := length_of_splitMark _closed
  omega

/-- The tokens of a source, or the first mark that is not closed. -/
def tokenize (source : List Char) : Except SyntaxError (List Token) := tokensFrom 1 source

end TextTemplate.Source

import TextTemplate.Data.Yaml.Glyph
import TextTemplate.Data.Json

/-!
# Scalars

The four ways to write a text: plain, between single or double quotes, and as a block of lines that
is kept (`|`) or folded (`>`). In plain and quoted texts a line end between words becomes a space,
and further empty lines become newlines (`Gap.folded`). Each reader takes a text from the front of
the input and fails where the text is not well formed. Where a reader is given a size, that is more
than the number of characters left.
-/
namespace TextTemplate.Yaml

/-- Spaces and line ends between words. -/
structure Gap where
  /-- The spaces before the first line end. -/
  spaces : String
  /-- Whether there was a line end. -/
  broken : Bool
  /-- The first line end; empty where it was escaped. -/
  first : String
  /-- The line ends after the first. -/
  more : String

namespace Gap

/-- The gap without spaces and line ends. -/
def empty : Gap := ⟨"", false, "", ""⟩

/-- A gap that begins with an escaped line end. -/
def escaped : Gap := ⟨"", true, "", ""⟩

/-- What a gap is read as. -/
def folded (gap : Gap) : String :=
  if gap.broken then
    if gap.first = "\n" then (if gap.more.isEmpty then " " else gap.more)
    else gap.first ++ gap.more
  else gap.spaces

/-- One space or tab more; they count only before the first line end. -/
def space (gap : Gap) (c : Char) : Gap :=
  if gap.broken then gap else { gap with spaces := gap.spaces.push c }

/-- One line end more. -/
def lineEnd (gap : Gap) (c : Char) : Gap :=
  if gap.broken then { gap with more := gap.more.push c }
  else { gap with spaces := "", broken := true, first := c.toString }

end Gap

/-- The spaces and line ends in front. After a line end, a tab left of the given column is
refused. -/
def readGap (tabLimit : Int) (gap : Gap) : Input → Option (Gap × Input)
  | [] => some (gap, [])
  | g :: rest =>
    if isSpace g.char then
      if gap.broken ∧ g.char = '\t' ∧ (g.column : Int) < tabLimit then none
      else readGap tabLimit (gap.space g.char) rest
    else if isBreak g.char then readGap tabLimit (gap.lineEnd g.char) rest
    else some (gap, g :: rest)

/-- Characters that have a meaning inside brackets. -/
def isFlowMark (c : Char) : Bool := c == ',' || c == '[' || c == ']' || c == '{' || c == '}'

/-- The word in front of a plain text, after the characters of it that were read. Inside brackets a
colon directly before another mark is refused. -/
def readPlainWord (inFlow : Bool) (word : String) : Input → Option (String × Input)
  | [] => some (word, [])
  | g :: rest =>
    if isSpace g.char || isBreak g.char then some (word, g :: rest)
    else if inFlow && g.char == ':' && ((Input.char? rest 0).any fun c => isFlowMark c || c == '?')
    then none
    else if (g.char == ':' && Input.gapAt rest 0) || (inFlow && isFlowMark g.char) then
      some (word, g :: rest)
    else readPlainWord inFlow (word.push g.char) rest

/-- A plain text after the given text and gap, with whether the gap after it holds a line end. It
goes on over lines that are indented to the given column. -/
def readPlainFrom (inFlow : Bool) (column : Int) :
    Nat → String → Gap → Input → Option (String × Bool × Input)
  | 0, _, _, _ => none
  | fuel + 1, text, gap, input =>
    if input.atMark || input.has 0 '#' then some (text, gap.broken, input)
    else do
      let (word, rest) ← readPlainWord inFlow "" input
      if word.isEmpty then return (text, gap.broken, rest)
      let text := text ++ gap.folded ++ word
      match rest with
      | [] => return (text, false, [])
      | g :: _ =>
        if !(isSpace g.char || isBreak g.char) then return (text, false, rest)
        let (gap, rest) ← readGap column .empty rest
        match rest with
        | [] => return (text, gap.broken, [])
        | g :: _ =>
          if !inFlow ∧ (g.column : Int) < column then return (text, gap.broken, rest)
          else readPlainFrom inFlow column fuel text gap rest

/-- A plain text. -/
def readPlain (size : Nat) (inFlow : Bool) (column : Int) (input : Input) :
    Option (String × Bool × Input) :=
  readPlainFrom inFlow column size "" .empty input

/-- The character of a one-letter escape between double quotes. -/
def escape? : Char → Option Char
  | '0' => some (Char.ofNat 0)
  | 'a' => some '\x07'
  | 'b' => some '\x08'
  | 't' => some '\t'
  | '\t' => some '\t'
  | 'n' => some '\n'
  | 'v' => some '\x0b'
  | 'f' => some '\x0c'
  | 'r' => some '\r'
  | 'e' => some '\x1b'
  | ' ' => some ' '
  | '"' => some '"'
  | '/' => some '/'
  | '\\' => some '\\'
  | 'N' => some '\x85'
  | '_' => some '\xa0'
  | 'L' => some '\u2028'
  | 'P' => some '\u2029'
  | _ => none

/-- The number of digits that an escape by number has. -/
def escapeLength? : Char → Option Nat
  | 'x' => some 2
  | 'u' => some 4
  | 'U' => some 8
  | _ => none

/-- The character of an escape by number, and what follows it. -/
def readCode (length : Nat) (input : Input) : Option (Char × Input) := do
  let digits ← (input.take length).mapM fun g => Json.hexDigit? g.char
  let code := digits.foldl (fun n d => n * 16 + d) 0
  if digits.length < length ∨ 0x10FFFF < code ∨ (0xD800 ≤ code ∧ code ≤ 0xDFFF) then none
  else return (Char.ofNat code, input.drop length)

/-- The rest of a text between quotes, after the given text. -/
def readQuotedFrom (quote : Char) : Nat → String → Input → Option (String × Input)
  | 0, _, _ => none
  | _ + 1, _, [] => none
  | fuel + 1, text, g :: rest =>
    if Input.atMark (g :: rest) then none
    else if isSpace g.char || isBreak g.char then do
      let (gap, after) ← readGap (-1) .empty (g :: rest)
      readQuotedFrom quote fuel (text ++ gap.folded) after
    else if g.char = quote then
      if quote = '\'' ∧ Input.has rest 0 '\'' then
        readQuotedFrom quote fuel (text.push '\'') (rest.drop 1)
      else some (text, rest)
    else if quote = '"' ∧ g.char = '\\' then
      match rest with
      | [] => none
      | next :: rest =>
        if isBreak next.char then do
          let (gap, after) ← readGap (-1) .escaped rest
          readQuotedFrom quote fuel (text ++ gap.folded) after
        else match escape? next.char with
          | some c => readQuotedFrom quote fuel (text.push c) rest
          | none => do
            let (c, after) ← readCode (← escapeLength? next.char) rest
            readQuotedFrom quote fuel (text.push c) after
    else readQuotedFrom quote fuel (text.push g.char) rest

/-- A text between quotes, after the opening quote. -/
def readQuoted (size : Nat) (quote : Char) (input : Input) : Option (String × Input) :=
  readQuotedFrom quote size "" input

/-- What becomes of the line ends at the end of a block. -/
inductive Chomping
  /-- The last is dropped too. -/
  | strip
  /-- One is kept. -/
  | clip
  /-- All are kept. -/
  | keep
deriving DecidableEq

/-- What stands behind the mark of a block. -/
structure BlockHeader where
  /-- What becomes of the line ends at the end. -/
  chomping : Chomping
  /-- How far the block is indented, if that is told. -/
  indent : Option Nat

/-- The sign of a chomping. -/
def chomping? : Char → Option Chomping
  | '+' => some .keep
  | '-' => some .strip
  | _ => none

/-- A digit in front that is not zero; zero is refused. -/
def readIndent (input : Input) : Option (Option Nat × Input) :=
  match input with
  | [] => some (none, [])
  | g :: rest =>
    if g.char.isDigit then
      if g.char = '0' then none else some (some (g.char.toNat - '0'.toNat), rest)
    else some (none, g :: rest)

/-- The sign of a chomping in front. -/
def readChomping (input : Input) : Option Chomping × Input :=
  match input with
  | [] => (none, [])
  | g :: rest =>
    match chomping? g.char with
    | some chomping => (some chomping, rest)
    | none => (none, g :: rest)

/-- A sign and a digit in either order. -/
def readBlockHeader (input : Input) : Option (BlockHeader × Input) :=
  match readChomping input with
  | (some chomping, rest) => do
    let (indent, rest) ← readIndent rest
    return (⟨chomping, indent⟩, rest)
  | (none, rest) => do
    let (indent, rest) ← readIndent rest
    match indent with
    | none => return (⟨.clip, none⟩, rest)
    | some indent =>
      let (chomping, rest) := readChomping rest
      return (⟨chomping.getD .clip, some indent⟩, rest)

/-- Skip to the end of the line, over spaces and a comment. -/
def skipLineRest (input : Input) : Option Input :=
  let rest := input.dropWhile (isSpace ·.char)
  let rest := if Input.has rest 0 '#' then rest.dropWhile (!isBreak ·.char) else rest
  match rest with
  | [] => some []
  | g :: rest => if isBreak g.char then some rest else none

/-- The empty lines in front of a block's next line: the greatest column met, the line ends, and
what follows. Without a known indentation all spaces are skipped. -/
def readEmptyLines (indent : Option Nat) (greatest : Nat) (breaks : String) :
    Input → Option (Nat × String × Input)
  | [] => some (greatest, breaks, [])
  | g :: rest =>
    let outside := match indent with
      | none => true
      | some indent => g.column < indent
    if outside && g.char == ' ' then readEmptyLines indent greatest breaks rest
    else if outside && g.char == '\t' then none
    else if isBreak g.char then
      readEmptyLines indent (max greatest g.column) (breaks.push g.char) rest
    else some (max greatest g.column, breaks, g :: rest)

/-- The lines of a block read so far. -/
structure BlockText where
  /-- The text up to the last line. -/
  text : String
  /-- The line end of the last line. -/
  lineEnd : String
  /-- The line ends of the empty lines after it. -/
  empty : String
  /-- Whether the last line begins with a space. -/
  spaced : Bool

/-- The text of a block with what joins it to a line that begins with a space or does not. -/
def BlockText.joined (block : BlockText) (literal spaced : Bool) : String :=
  if !literal && block.lineEnd == "\n" && !block.spaced && !spaced then
    block.text ++ (if block.empty.isEmpty then " " else block.empty)
  else block.text ++ block.lineEnd ++ block.empty

/-- The lines of a block that are indented to the given column. -/
def readBlockLines (literal : Bool) (indent : Nat) :
    Nat → BlockText → Input → Option (BlockText × Input)
  | 0, _, _ => none
  | fuel + 1, block, input =>
    match input with
    | [] => some (block, [])
    | g :: _ =>
      if g.column ≠ indent then some (block, input)
      else do
        let spaced := isSpace g.char
        let line := Input.text (input.takeWhile (!isBreak ·.char))
        let rest := input.dropWhile (!isBreak ·.char)
        let lineEnd := Input.text (rest.take 1)
        let (_, empty, rest) ← readEmptyLines (some indent) 0 "" (rest.drop 1)
        readBlockLines literal indent fuel
          ⟨block.joined literal spaced ++ line, lineEnd, empty, spaced⟩ rest

/-- The text of a block with its last line ends kept or dropped. -/
def BlockText.chomped (block : BlockText) : Chomping → String
  | .strip => block.text
  | .clip => block.text ++ block.lineEnd
  | .keep => block.text ++ block.lineEnd ++ block.empty

/-- A block after its mark, inside what is indented to `outer` (-1 if nothing is). -/
def readBlock (size : Nat) (literal : Bool) (outer : Int) (input : Input) :
    Option (String × Input) := do
  let (header, rest) ← readBlockHeader input
  let rest ← skipLineRest rest
  let told := header.indent.map fun n => (max outer 0).toNat + n
  let (greatest, empty, rest) ← readEmptyLines told 0 "" rest
  let indent := told.getD (max (max greatest (outer + 1).toNat) 1)
  let (block, rest) ← readBlockLines literal indent size ⟨"", "", empty, false⟩ rest
  return (block.chomped header.chomping, rest)

end TextTemplate.Yaml

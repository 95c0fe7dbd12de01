import TextTemplate.Data.Yaml.Scalar

/-!
# Tokens

A text is cut into tokens: scalars, marks, and the begin and end of collections that only the
indentation shows. What is a key shows only at the colon after it, so a place where a key may begin
is remembered, and the token of the key is put there afterwards. Anchors, aliases, tags and
directives are not read.
-/
namespace TextTemplate.Yaml

/-- A token. -/
inductive Token
  | documentStart
  | documentEnd
  | blockSequence
  | blockMapping
  | blockEnd
  | flowSequence
  | flowSequenceEnd
  | flowMapping
  | flowMappingEnd
  | entry
  | comma
  | key
  | value
  | scalar (text : String) (plain : Bool)
deriving DecidableEq

/-- A place where a key may begin. -/
structure KeyPlace where
  /-- Whether nothing but a key may stand there. -/
  required : Bool
  /-- The number of tokens before it. -/
  position : Nat
  /-- The glyph with which it begins. -/
  glyph : Glyph

/-- A text of which some tokens were read. -/
structure Scanner where
  /-- The tokens so far. -/
  tokens : Array Token
  /-- Whether a key may begin here. -/
  keyAllowed : Bool
  /-- The place where a key may have begun outside of all brackets. -/
  place : Option KeyPlace
  /-- The places for the brackets around, outermost last. -/
  flow : List (Option KeyPlace)
  /-- The columns of the open blocks, innermost first. -/
  blocks : List Nat

namespace Scanner

/-- The scanner at the start of a text. -/
def start : Scanner := ⟨#[], true, none, [], []⟩

/-- Whether brackets are open. -/
def inFlow (s : Scanner) : Bool := !s.flow.isEmpty

/-- The column of the innermost block, -1 outside of all blocks. -/
def indent (s : Scanner) : Int := (s.blocks.head?.map Int.ofNat).getD (-1)

/-- Add a token. -/
def push (s : Scanner) (token : Token) : Scanner := { s with tokens := s.tokens.push token }

/-- The place where a key may have begun inside the innermost brackets. -/
def current (s : Scanner) : Option KeyPlace :=
  match s.flow with
  | [] => s.place
  | place :: _ => place

/-- Set the place where a key may have begun inside the innermost brackets. -/
def setCurrent (s : Scanner) (place : Option KeyPlace) : Scanner :=
  match s.flow with
  | [] => { s with place }
  | _ :: outer => { s with flow := place :: outer }

/-- Forget the place where a key may have begun, unless only a key may stand there. -/
def dropPlace (s : Scanner) : Option Scanner :=
  match s.current with
  | some place => if place.required then none else some (s.setCurrent none)
  | none => some s

/-- Remember this place if a key may begin here. -/
def savePlace (s : Scanner) (g : Glyph) : Option Scanner :=
  if s.keyAllowed then do
    let required := !s.inFlow && s.indent == (g.column : Int)
    return (← s.dropPlace).setCurrent (some ⟨required, s.tokens.size, g⟩)
  else some s

/-- The longest text of a key. -/
def maxKey : Nat := 1024

/-- A place is forgotten on the next line or too far behind. -/
def refresh? (g : Glyph) : Option KeyPlace → Option (Option KeyPlace)
  | none => some none
  | some place =>
    if place.glyph.line < g.line ∨ place.glyph.index + maxKey < g.index then
      if place.required then none else some none
    else some (some place)

/-- Forget the places that are too far behind. -/
def refresh (s : Scanner) (g : Glyph) : Option Scanner := do
  return { s with place := ← refresh? g s.place, flow := ← s.flow.mapM (refresh? g) }

/-- Close the blocks right of a column. -/
def unroll (column : Int) (tokens : Array Token) : List Nat → Array Token × List Nat
  | [] => (tokens, [])
  | block :: outer =>
    if column < block then unroll column (tokens.push .blockEnd) outer
    else (tokens, block :: outer)

/-- Close the blocks right of a column; inside brackets columns have no meaning. -/
def closeBlocks (s : Scanner) (column : Int) : Scanner :=
  if s.inFlow then s
  else
    let (tokens, blocks) := unroll column s.tokens s.blocks
    { s with tokens, blocks }

/-- Open a block at a column if it lies right of the innermost one; its token goes to a position. -/
def openBlock (s : Scanner) (column : Nat) (position : Nat) (token : Token) : Scanner :=
  if !s.inFlow && s.indent < (column : Int) then
    { s with
      tokens := s.tokens.insertIdxIfInBounds position token
      blocks := column :: s.blocks }
  else s

/-- Skip spaces, comments and line ends; tells whether a key may begin after them. -/
def skipGap (inFlow : Bool) : Bool → Bool → Input → Bool × Input
  | _, keyAllowed, [] => (keyAllowed, [])
  | inComment, keyAllowed, g :: rest =>
    if isBreak g.char then skipGap inFlow false (keyAllowed || !inFlow) rest
    else if inComment then skipGap inFlow true keyAllowed rest
    else if g.char == ' ' || (g.char == '\t' && (inFlow || !keyAllowed)) then
      skipGap inFlow false keyAllowed rest
    else if g.char == '#' then skipGap inFlow true keyAllowed rest
    else (keyAllowed, g :: rest)

/-- The mark of a document. -/
def document (s : Scanner) (token : Token) : Option Scanner := do
  let s ← (s.closeBlocks (-1)).dropPlace
  return { s with keyAllowed := false }.push token

/-- An opening bracket. -/
def openFlow (s : Scanner) (g : Glyph) (token : Token) : Option Scanner := do
  let s ← s.savePlace g
  return { s with flow := none :: s.flow, keyAllowed := true }.push token

/-- A closing bracket. -/
def closeFlow (s : Scanner) (token : Token) : Option Scanner := do
  let s ← s.dropPlace
  return { s with flow := s.flow.drop 1, keyAllowed := false }.push token

/-- A comma between brackets. -/
def addComma (s : Scanner) : Option Scanner := do
  let s ← s.dropPlace
  return { s with keyAllowed := true }.push .comma

/-- The dash of an entry. -/
def addEntry (s : Scanner) (g : Glyph) : Option Scanner := do
  if !s.inFlow && !s.keyAllowed then none
  else
    let s ← (s.openBlock g.column s.tokens.size .blockSequence).dropPlace
    return { s with keyAllowed := true }.push .entry

/-- The question mark of a key. -/
def addKey (s : Scanner) (g : Glyph) : Option Scanner := do
  if !s.inFlow && !s.keyAllowed then none
  else
    let s ← (s.openBlock g.column s.tokens.size .blockMapping).dropPlace
    return { s with keyAllowed := !s.inFlow }.push .key

/-- The colon of a value. What began at the remembered place was its key. -/
def addValue (s : Scanner) (g : Glyph) : Option Scanner :=
  match s.current with
  | some place =>
    let s := { s with tokens := s.tokens.insertIdxIfInBounds place.position .key }
    let s := (s.openBlock place.glyph.column place.position .blockMapping).setCurrent none
    some ({ s with keyAllowed := false }.push .value)
  | none =>
    if !s.inFlow && !s.keyAllowed then none
    else
      let s := s.openBlock g.column s.tokens.size .blockMapping
      some ({ s with keyAllowed := !s.inFlow }.push .value)

/-- A scalar that may be a key. -/
def addScalar (s : Scanner) (text : String) (plain : Bool) : Scanner :=
  { s with keyAllowed := false }.push (.scalar text plain)

/-- Characters with which no plain text begins. -/
def isMark (c : Char) : Bool :=
  "-?:,[]\x7b\x7d#&*!|>'\"%@\x60".toList.contains c

/-- Whether a plain text begins here. -/
def beginsPlain (inFlow : Bool) (input : Input) : Bool :=
  match input.char? 0 with
  | none => false
  | some c =>
    !(isSpace c || isBreak c || isMark c) ||
      (c == '-' && !((input.char? 1).any isSpace)) ||
      (!inFlow && (c == '?' || c == ':') && !input.gapAt 1)

/-- One token more, from an input that begins with the given glyph and holds fewer characters than
the given size. -/
def next (size : Nat) (s : Scanner) (g : Glyph) (rest : Input) : Option (Scanner × Input) :=
  let input : Input := g :: rest
  let skip (s : Option Scanner) : Option (Scanner × Input) := s.map (·, rest)
  if g.column == 0 && g.char == '%' then none
  else if input.hasMark '-' then (s.document .documentStart).map (·, input.drop 3)
  else if input.hasMark '.' then (s.document .documentEnd).map (·, input.drop 3)
  else if g.char == '[' then skip (s.openFlow g .flowSequence)
  else if g.char == '{' then skip (s.openFlow g .flowMapping)
  else if g.char == ']' then skip (s.closeFlow .flowSequenceEnd)
  else if g.char == '}' then skip (s.closeFlow .flowMappingEnd)
  else if g.char == ',' then skip s.addComma
  else if g.char == '-' && input.gapAt 1 then skip (s.addEntry g)
  else if g.char == '?' && (s.inFlow || input.gapAt 1) then skip (s.addKey g)
  else if g.char == ':' && (s.inFlow || input.gapAt 1) then skip (s.addValue g)
  else if (g.char == '|' || g.char == '>') && !s.inFlow then do
    let s ← s.dropPlace
    let (text, after) ← readBlock size (g.char == '|') s.indent rest
    return ({ s.addScalar text false with keyAllowed := true }, after)
  else if g.char == '\'' || g.char == '"' then do
    let s ← s.savePlace g
    let (text, after) ← readQuoted size g.char rest
    return (s.addScalar text false, after)
  else if beginsPlain s.inFlow input then do
    let s ← s.savePlace g
    let (text, broken, after) ← readPlain size s.inFlow (s.indent + 1) input
    return ({ s.addScalar text true with keyAllowed := broken }, after)
  else none

/-- The end of the text: no place may be left at which only a key may stand. -/
def finish (s : Scanner) : Option (List Token) :=
  if (s.place :: s.flow).any fun place => place.any (·.required) then none
  else some (s.closeBlocks (-1)).tokens.toList

/-- All tokens of an input of fewer characters than the given size, as long as there is fuel. -/
def scan (size : Nat) : Nat → Scanner → Input → Option (List Token)
  | 0, _, _ => none
  | fuel + 1, s, input =>
    let (keyAllowed, input) := skipGap s.inFlow false s.keyAllowed input
    let s := { s with keyAllowed }
    match input with
    | [] => s.finish
    | g :: rest => do
      let s := (← s.refresh g).closeBlocks g.column
      let (s, rest) ← s.next size g rest
      scan size fuel s rest

end Scanner

/-- The tokens of a text; every token takes a character at least. -/
def tokens (text : String) : Option (List Token) := do
  let input ← glyphs text
  let size := input.length + 1
  Scanner.scan size size .start input

end TextTemplate.Yaml

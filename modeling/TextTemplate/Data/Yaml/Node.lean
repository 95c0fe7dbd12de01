import TextTemplate.Data.Yaml.Token

/-!
# Nodes

A YAML document is a node: a scalar, a sequence of nodes or a mapping of nodes to nodes. Nodes are
read from tokens by the grammar of blocks and brackets; what is left out where a node may stand is
an empty plain scalar.
-/
namespace TextTemplate.Yaml

/-- The contents of a document. -/
inductive Node
  | scalar (text : String) (plain : Bool)
  | sequence (items : List Node)
  | mapping (pairs : List (Node × Node))

namespace Node

instance : Inhabited Node := ⟨.scalar "" true⟩

/-- What stands where a node is left out. -/
def omitted : Node := .scalar "" true

/-- Whether no node begins at a place of a block. -/
def blockStops : List Token → Bool
  | .key :: _ | .value :: _ | .blockEnd :: _ => true
  | _ => false

/-- Whether no node begins at a place of a sequence that is not indented. -/
def bareStops : List Token → Bool
  | .entry :: _ | .key :: _ | .value :: _ | .blockEnd :: _ => true
  | _ => false

/-- Whether no node begins at a place of a mapping in brackets. -/
def flowMappingStops : List Token → Bool
  | .value :: _ | .comma :: _ | .flowMappingEnd :: _ => true
  | _ => false

/-- Whether no node begins at a place of a pair in a sequence in brackets. -/
def flowPairStops : List Token → Bool
  | .value :: _ | .comma :: _ | .flowSequenceEnd :: _ => true
  | _ => false

mutual

/-- A node. In a block it may be a block; as the value of a key, also a sequence that is not
indented. -/
def read (block bare : Bool) : Nat → List Token → Option (Node × List Token)
  | 0, _ => none
  | fuel + 1, tokens =>
    match tokens with
    | .scalar text plain :: rest => some (.scalar text plain, rest)
    | .flowSequence :: rest => do
      let (items, rest) ← readFlowItems fuel true rest
      return (.sequence items, rest)
    | .flowMapping :: rest => do
      let (pairs, rest) ← readFlowPairs fuel true rest
      return (.mapping pairs, rest)
    | .entry :: _ =>
      if bare then do
        let (items, rest) ← readBareItems fuel tokens
        return (.sequence items, rest)
      else none
    | .blockSequence :: rest =>
      if block then do
        let (items, rest) ← readBlockItems fuel rest
        return (.sequence items, rest)
      else none
    | .blockMapping :: rest =>
      if block then do
        let (pairs, rest) ← readBlockPairs fuel rest
        return (.mapping pairs, rest)
      else none
    | _ => none

/-- The items of a block sequence up to its end. -/
def readBlockItems : Nat → List Token → Option (List Node × List Token)
  | 0, _ => none
  | fuel + 1, tokens =>
    match tokens with
    | .blockEnd :: rest => some ([], rest)
    | .entry :: rest => do
      let (item, rest) ← match rest with
        | .entry :: _ | .blockEnd :: _ => some (omitted, rest)
        | _ => read true false fuel rest
      let (items, rest) ← readBlockItems fuel rest
      return (item :: items, rest)
    | _ => none

/-- The items of a sequence that is not indented; it ends where no entry follows. -/
def readBareItems : Nat → List Token → Option (List Node × List Token)
  | 0, _ => none
  | fuel + 1, tokens =>
    match tokens with
    | .entry :: rest => do
      let (item, rest) ← if bareStops rest then some (omitted, rest) else read true false fuel rest
      let (items, rest) ← readBareItems fuel rest
      return (item :: items, rest)
    | _ => some ([], tokens)

/-- The pairs of a block mapping up to its end. -/
def readBlockPairs : Nat → List Token → Option (List (Node × Node) × List Token)
  | 0, _ => none
  | fuel + 1, tokens =>
    match tokens with
    | .blockEnd :: rest => some ([], rest)
    | .key :: rest => do
      let (key, rest) ← if blockStops rest then some (omitted, rest) else read true true fuel rest
      let (value, rest) ← match rest with
        | .value :: rest =>
          if blockStops rest then some (omitted, rest) else read true true fuel rest
        | _ => some (omitted, rest)
      let (pairs, rest) ← readBlockPairs fuel rest
      return ((key, value) :: pairs, rest)
    | _ => none

/-- The items of a sequence in brackets up to its end. A key makes a mapping of one pair. -/
def readFlowItems : Nat → Bool → List Token → Option (List Node × List Token)
  | 0, _, _ => none
  | fuel + 1, first, tokens =>
    match tokens with
    | .flowSequenceEnd :: rest => some ([], rest)
    | _ => do
      let tokens ← match first, tokens with
        | true, tokens => some tokens
        | false, .comma :: rest => some rest
        | false, _ => none
      match tokens with
      | .flowSequenceEnd :: rest => return ([], rest)
      | .key :: rest =>
        let (key, rest) ←
          if flowPairStops rest then some (omitted, rest.drop 1) else read false false fuel rest
        let (value, rest) ← readFlowValue fuel rest
        let (items, rest) ← readFlowItems fuel false rest
        return (.mapping [(key, value)] :: items, rest)
      | tokens =>
        let (item, rest) ← read false false fuel tokens
        let (items, rest) ← readFlowItems fuel false rest
        return (item :: items, rest)

/-- The value of a pair in a sequence in brackets. -/
def readFlowValue : Nat → List Token → Option (Node × List Token)
  | 0, _ => none
  | fuel + 1, tokens =>
    match tokens with
    | .value :: rest =>
      match rest with
      | .comma :: _ | .flowSequenceEnd :: _ => some (omitted, rest)
      | _ => read false false fuel rest
    | _ => some (omitted, tokens)

/-- The pairs of a mapping in brackets up to its end. -/
def readFlowPairs : Nat → Bool → List Token → Option (List (Node × Node) × List Token)
  | 0, _, _ => none
  | fuel + 1, first, tokens =>
    match tokens with
    | .flowMappingEnd :: rest => some ([], rest)
    | _ => do
      let tokens ← match first, tokens with
        | true, tokens => some tokens
        | false, .comma :: rest => some rest
        | false, _ => none
      match tokens with
      | .flowMappingEnd :: rest => return ([], rest)
      | .key :: rest =>
        let (key, rest) ←
          if flowMappingStops rest then some (omitted, rest) else read false false fuel rest
        let (value, rest) ← match rest with
          | .value :: rest =>
            match rest with
            | .comma :: _ | .flowMappingEnd :: _ => some (omitted, rest)
            | _ => read false false fuel rest
          | _ => some (omitted, rest)
        let (pairs, rest) ← readFlowPairs fuel false rest
        return ((key, value) :: pairs, rest)
      | tokens =>
        let (key, rest) ← read false false fuel tokens
        let (pairs, rest) ← readFlowPairs fuel false rest
        return ((key, omitted) :: pairs, rest)

end

/-- The content of a document that begins with its mark. -/
def readContent (tokens : List Token) : Option (Node × List Token) :=
  match tokens with
  | [] | .documentStart :: _ | .documentEnd :: _ => some (omitted, tokens)
  | _ => read true false (2 * tokens.length + 2) tokens

/-- The only document of a stream, if there is one; a second is refused. -/
def ofTokens? (tokens : List Token) : Option (Option Node) := do
  match tokens with
  | [] => return none
  | _ =>
    let (node, rest) ← match tokens with
      | .documentStart :: rest => readContent rest
      | _ => read true false (2 * tokens.length + 2) tokens
    if rest.all (· = .documentEnd) then return some node else none

/-- The document of a text: none of its own in an empty text, no result in a malformed one. -/
def parse? (text : String) : Option (Option Node) := do
  ofTokens? (← tokens text)

end Node

end TextTemplate.Yaml

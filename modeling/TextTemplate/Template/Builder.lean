import TextTemplate.Template.Node
import TextTemplate.Template.Reader
import TextTemplate.Source.Lexeme
import TextTemplate.Source.Token

/-!
# Building the tree of a template

A template is built token by token. The builder holds the nodes of the innermost open construct and
a stack of the constructs that are open around it; a tag adds a node, opens a construct, divides it
(`empty`, `else`) or closes it. When the tokens are used up no construct may be open. The builder
does not read the text of a token itself: it is told the words (`Wording`), whoever cut them off.

As the builder is a fold over tokens, the tokens of one source after those of another are built from
where the first source ends (`addAll_append`).
-/
namespace TextTemplate.Source

open TextTemplate

/-- What a part of a source says. -/
structure Wording where
  /-- Whether nothing stands there. -/
  isEmpty : Bool
  /-- The words, or what is wrong with them. -/
  words : Except Fault (List Lexeme)

/-- What a text says. -/
def Wording.of (cs : List Char) : Wording := ⟨cs.isEmpty, lexemes cs⟩

instance : Coe (List Char) Wording := ⟨Wording.of⟩

/-- The words of a text are those that are cut off it. -/
@[simp] theorem Wording.words_of (cs : List Char) : (Wording.of cs).words = lexemes cs := rfl

/-- What is read of a token. -/
inductive Reading
  | text (content : String)
  | variable (inside : Wording)
  | tag (name : String) (args : Wording)

/-- The name of a tag and the text of its arguments. -/
def Builder.splitTag (content : List Char) : String × List Char :=
  (String.ofList (content.takeWhile (!Text.isBlank ·)),
    Text.trim (content.dropWhile (!Text.isBlank ·)))

/-- What is read of a token. -/
def Token.reading (token : Token) : Reading :=
  match token.kind with
  | .text => .text (String.ofList token.content)
  | .variable => .variable (.of token.content)
  | .tag =>
    let (name, args) := Builder.splitTag token.content
    .tag name (.of args)

/-- A construct that has a body, as its opening tag describes it. -/
inductive Opening
  | forEach (var : String) (list : Expr) (reversed : Bool)
  | condition (test : Expr) (negated : Bool)
  | block (name : String)
deriving DecidableEq

/-- A construct that is open. -/
structure Frame where
  /-- What its opening tag says. -/
  opening : Opening
  /-- The line of its opening tag. -/
  line : Nat
  /-- The nodes before it in the list that it stands in. -/
  before : Array Node
  /-- Its first part, once it was divided. -/
  divided : Option (List Node)

/-- A template of which some tokens were read. -/
structure Builder where
  /-- The nodes of the innermost open construct. -/
  nodes : Array Node
  /-- The open constructs, innermost first. -/
  frames : List Frame
  /-- Whether a variable or tag was met, after which `extends` is refused. -/
  started : Bool
  /-- The blocks closed so far. -/
  blocks : Table String (List Node)

namespace Opening

/-- The tag that opens a construct. -/
def tag : Opening → String
  | .forEach .. => "for"
  | .condition .. => "if"
  | .block _ => "block"

/-- The tag that divides a construct in two. -/
def divider? : Opening → Option String
  | .forEach .. => some "empty"
  | .condition .. => some "else"
  | .block _ => none

/-- The tag that closes a construct. -/
def closer : Opening → String
  | .forEach .. => "endfor"
  | .condition .. => "endif"
  | .block _ => "endblock"

/-- The node of a construct with its two parts; a block has one. -/
def node (first second : List Node) : Opening → Node
  | .forEach var list reversed => .forEach var list reversed first second
  | .condition test negated => .condition test negated first second
  | .block name => .block name first

end Opening

/-- The tags that divide or close constructs. -/
def innerTags : List String := ["empty", "endfor", "else", "endif", "endblock"]

namespace Builder

/-- The builder of which no token was read. -/
def start : Builder := ⟨#[], [], false, ∅⟩

/-- Add a node to the innermost open construct. -/
def push (b : Builder) (node : Node) : Builder :=
  { b with nodes := b.nodes.push node, started := true }

/-- Read the arguments of `for`. -/
def readForEach (words : List Lexeme) : Except Fault Opening := do
  let (var, rest) ← readName .loopVariable words
  let rest ← readKeyword "in" rest
  let (list, rest) ← readExpr rest
  let (reversed, rest) := skipKeyword "reversed" rest
  readEnd "for" rest
  return .forEach var list reversed

/-- Read the arguments of `if`. -/
def readCondition (words : List Lexeme) : Except Fault Opening := do
  let (negated, rest) := skipNot words
  let test ← readOnly "if" rest
  return .condition test negated

/-- Read the name of a block, in a tag of the given name. -/
def readBlockName (tag : String) (words : List Lexeme) : Except Fault String := do
  let (name, rest) ← readName .blockName words
  readEnd tag rest
  return name

/-- Read the arguments of `create`. -/
def readCreates (line : Nat) (words : List Lexeme) : Except Fault Node := do
  let (file, rest) ← readExpr words
  let rest ← readKeyword "from" rest
  let template ← readOnly "create" rest
  return .creates file template line

/-- Open a construct. -/
def openFrame (b : Builder) (line : Nat) (opening : Opening) : Except Fault Builder :=
  if maxNesting ≤ b.frames.length then .error (.tooDeep opening.tag)
  else .ok { b with
    nodes := #[], frames := ⟨opening, line, b.nodes, none⟩ :: b.frames, started := true }

/-- A tag that neither divides nor closes a construct. -/
def addTag (b : Builder) (line : Nat) (name : String) (args : Wording) :
    Except Fault Builder := do
  match name with
  | "for" => b.openFrame line (← readForEach (← args.words))
  | "if" => b.openFrame line (← readCondition (← args.words))
  | "block" => b.openFrame line (.block (← readBlockName "block" (← args.words)))
  | "extends" =>
    if b.started || !b.frames.isEmpty then .error .misplacedExtends
    else return b.push (.inherits (← readOnly "extends" (← args.words)))
  | "include" => return b.push (.includes (← readOnly "include" (← args.words)))
  | "create" => return b.push (← readCreates line (← args.words))
  | "" => .error .emptyTag
  | other => .error (.unknownTag other)

/-- The second part of the innermost construct begins. -/
def divide (b : Builder) (frame : Frame) (outer : List Frame) (args : Wording) (tag : String) :
    Except Fault Builder :=
  if args.isEmpty then
    .ok { b with nodes := #[], frames := { frame with divided := some b.nodes.toList } :: outer }
  else .error (.needlessArguments tag)

/-- The node of a construct that ends with the nodes read last. -/
def finished (frame : Frame) (nodes : List Node) : Node :=
  match frame.divided with
  | some first => frame.opening.node first nodes
  | none => frame.opening.node nodes []

/-- Close the innermost construct and add its node to the list that it stands in. -/
def closeFrame (b : Builder) (frame : Frame) (outer : List Frame) : Builder :=
  { b with nodes := frame.before.push (finished frame b.nodes.toList), frames := outer }

/-- The name in the closing tag of a block, if there is one, must be the block's. -/
def checkBlockEnd (name : String) (args : Wording) : Except Fault Unit := do
  if args.isEmpty then return
  let found ← readBlockName "endblock" (← args.words)
  if found ≠ name then .error (.mismatchedEnd found name)

/-- Close the innermost construct with its closing tag on the given line. Of two blocks with one
name the one that closes last is at fault, on the line where it opens. -/
def close (b : Builder) (frame : Frame) (outer : List Frame) (args : Wording) (line : Nat) :
    Except SyntaxError Builder :=
  match frame.opening with
  | .block name =>
    match checkBlockEnd name args with
    | .error fault => .error ⟨line, fault⟩
    | .ok () =>
      if b.blocks.contains name then .error ⟨frame.line, .duplicateBlock name⟩
      else .ok { b.closeFrame frame outer with blocks := b.blocks.insert name b.nodes.toList }
  | opening =>
    if args.isEmpty then .ok (b.closeFrame frame outer)
    else .error ⟨line, .needlessArguments opening.closer⟩

/-- A fault on a line. -/
def atLine {α : Type} (line : Nat) : Except Fault α → Except SyntaxError α :=
  Except.mapError (⟨line, ·⟩)

/-- A tag while no construct is open that it divides or closes. -/
def addOuterTag (b : Builder) (line : Nat) (name : String) (args : Wording) :
    Except SyntaxError Builder :=
  if name ∈ innerTags then .error ⟨line, .strayTag name⟩ else atLine line (b.addTag line name args)

/-- A block tag. -/
def tag (b : Builder) (line : Nat) (name : String) (args : Wording) :
    Except SyntaxError Builder :=
  match b.frames with
  | [] => b.addOuterTag line name args
  | frame :: outer =>
    if name = frame.opening.closer then b.close frame outer args line
    else if frame.divided.isNone ∧ frame.opening.divider? = some name then
      atLine line (b.divide frame outer args name)
    else b.addOuterTag line name args

/-- The expression of a variable tag. -/
def readVariable (content : Wording) : Except Fault Expr := do
  if content.isEmpty then .error .emptyVariable
  else readOnly "\x7b\x7b \x7d\x7d" (← content.words)

/-- What is read of one token more, which begins on the given line. -/
def addReading (b : Builder) (line : Nat) : Reading → Except SyntaxError Builder
  | .text content => .ok { b with nodes := b.nodes.push (.text content) }
  | .variable inside => atLine line do return b.push (.variable (← readVariable inside))
  | .tag name args => b.tag line name args

/-- One token more. -/
def add (b : Builder) (token : Token) : Except SyntaxError Builder :=
  b.addReading token.line token.reading

section

variable {token : Token}

/-- A text becomes a node. -/
theorem add_of_text (b : Builder) (kind : token.kind = .text) :
    b.add token = .ok { b with nodes := b.nodes.push (.text (String.ofList token.content)) } := by
  rw [add, Token.reading, kind]
  rfl

/-- A variable becomes a node if its content is an expression. -/
theorem add_of_variable (b : Builder) (kind : token.kind = .variable) :
    b.add token =
      atLine token.line do return b.push (.variable (← readVariable token.content)) := by
  rw [add, Token.reading, kind]
  rfl

/-- A tag is taken by its name and its arguments. -/
theorem add_of_tag (b : Builder) (kind : token.kind = .tag) :
    b.add token = b.tag token.line (splitTag token.content).1 (splitTag token.content).2 := by
  rw [add, Token.reading, kind]
  rfl

end

/-- Many tokens more. -/
def addAll (b : Builder) (tokens : List Token) : Except SyntaxError Builder :=
  tokens.foldlM add b

/-- The template that was built, unless a construct is open still. -/
def finish (name : String) (b : Builder) : Except SyntaxError Template :=
  match b.frames with
  | [] => .ok ⟨name, b.nodes.toList, b.blocks⟩
  | frame :: _ => .error ⟨frame.line, .unclosedTag frame.opening.tag frame.opening.closer⟩

/-- Tokens are built in order. -/
theorem addAll_append (b : Builder) (xs ys : List Token) :
    b.addAll (xs ++ ys) = (b.addAll xs >>= fun built => built.addAll ys) :=
  List.foldlM_append

end Builder

/-- The template of a name and a source, or what is wrong with the source. -/
def parse (name : String) (source : List Char) : Except SyntaxError Template := do
  (← Builder.start.addAll (← tokenize source)).finish name

end TextTemplate.Source

import TextTemplate.Proofs.Source.Joining
import TextTemplate.Proofs.Render.Kinship
/-!
# The shape of templates that were read

A template that was read can be relied on for more than that each of its blocks is in its table: a
builder that has room for no construct more opens none, and it takes every expression from the words
of the token that it reads. `Builder.Brings` says this of one token beside `Builder.Adds`. Main
statement: every template that was read is `Template.Shaped` (`shaped_of_parse`).
-/
namespace TextTemplate

open Source

namespace Node

/-- The expressions of a forest at every depth. -/
def exprsIn (forest : List Node) : List Expr := (allIn forest).flatMap exprs

/-- An empty forest has no expressions. -/
@[simp] theorem exprsIn_nil : exprsIn [] = [] := by simp [exprsIn]

/-- The expressions of two forests are those of both. -/
@[simp] theorem exprsIn_append (front back : List Node) :
    exprsIn (front ++ back) = exprsIn front ++ exprsIn back := by
  simp [exprsIn]

/-- The expressions of a tree are its own and those in its bodies. -/
theorem exprsIn_singleton (node : Node) :
    exprsIn [node] = node.exprs ++ node.bodies.flatMap exprsIn := by
  have inner : (node.bodies.flatMap allIn).flatMap exprs = node.bodies.flatMap exprsIn :=
    List.flatMap_assoc
  rw [exprsIn, allIn_cons, allIn_nil, List.append_nil, all_eq, List.flatMap_cons, inner]

/-- Two forests are nested as deep as the deeper one. -/
theorem nestingIn_append (front back : List Node) :
    nestingIn (front ++ back) = max (nestingIn front) (nestingIn back) := by
  induction front with
  | nil => simp [nestingIn]
  | cons first rest ih => simp only [List.cons_append, nestingIn, ih, Nat.max_assoc]

/-- A forest of one tree is nested as deep as the tree. -/
theorem nestingIn_singleton (node : Node) : nestingIn [node] = node.nesting := by
  simp [nestingIn]

/-- A node without lists is not nested. -/
theorem nesting_of_flat {node : Node} (flat : node.bodies = []) : node.nesting = 0 := by
  cases node <;> first | rfl | cases flat

end Node

/-- The name by which a filter is called. -/
def Filter.name : Filter → String
  | .default _ => "default"
  | .length => "length"
  | .add _ => "add"

/-- The argument with which a filter is called, if there is one. -/
def Filter.argument? : Filter → Option Literal
  | .default fallback => some fallback
  | .length => none
  | .add term => some term

/-- The names of the filters that take an argument. -/
def Filter.taking : List String := ["default", "add"]

/-- The names of a path from the first on. -/
def Operand.segments? : Operand → Option (List String)
  | .literal _ => none
  | .path name fields => some (name :: fields)

namespace Source

/-- The words of a call of a filter. -/
def callWords (name : String) (argument : Option Literal) : List Lexeme :=
  .bar :: .name name :: argument.toList.flatMap fun l => [.colon, literalWord l]

/-- The words of a filter are those of a call by its name. -/
theorem filterWords_eq (f : Filter) : filterWords f = callWords f.name f.argument? := by
  cases f <;> rfl

/-- The words of an expression stand in a text: those of its operand, and after them a call of each
of its filters. -/
def Carries (cs : List Char) (e : Expr) : Prop :=
  ∃ before operand after, OperandWords e.operand operand ∧ lexemes cs =
    .ok (before ++ (operand ++ e.filters.flatMap fun f => callWords f.name f.argument?) ++ after)

/-- A text that is made of words carries the expressions among them. -/
theorem carries_of_words {cs : List Char} {e : Expr} {words : List Lexeme}
    (before after : List Lexeme) (written : ExprWords e words)
    (laid : lexemes cs = .ok (before ++ words ++ after)) : Carries cs e := by
  obtain ⟨operand, first, rfl⟩ := written
  refine ⟨before, operand, after, first, ?_⟩
  rw [laid, ← funext filterWords_eq]

end Source

/-- What a template satisfies that was read from tokens. -/
structure Template.Shaped (tokens : List Token) (t : Template) : Prop where
  /-- The table has one entry for every block of the tree, however deep, with its name and its own
  body. -/
  blocks : t.blocks.entries.Perm (Node.blocksIn t.nodes)
  /-- No two blocks of the tree have one name. -/
  names : (Node.blockNames t.nodes).Nodup
  /-- A node inherits only at the top and after text alone, and at most one does. -/
  opening : Node.InheritsFirst t.nodes
  /-- No part of a construct is nested deeper than is read. -/
  nesting : Node.nestingIn t.nodes ≤ maxNesting
  /-- Every expression stands in a token. -/
  carried : ∀ e ∈ Node.exprsIn t.nodes, ∃ token ∈ tokens, Carries token.inner e
  /-- A filter is called with an argument exactly if it takes one. -/
  calls : ∀ e ∈ Node.exprsIn t.nodes, ∀ f ∈ e.filters,
    f.argument?.isSome = true ↔ f.name ∈ Filter.taking
  /-- No path is empty. -/
  paths : ∀ e ∈ Node.exprsIn t.nodes, ∀ segments, e.operand.segments? = some segments →
    segments ≠ []

namespace Source

open Node

/-- The expression of a construct. -/
def Opening.exprs : Opening → List Expr
  | .forEach _ list _ => [list]
  | .condition test _ => [test]
  | .block _ => []

/-- The expressions of a construct are those of its opening tag and those in its parts. -/
theorem exprsIn_node (opening : Opening) (first second : List Node) :
    exprsIn [opening.node first second] ⊆ opening.exprs ++ exprsIn first ++ exprsIn second := by
  rw [exprsIn_singleton]
  cases opening <;> simp [Opening.node, Opening.exprs, exprs, bodies]

/-- A construct is nested one deeper than the deeper one of its parts. -/
theorem nesting_node_le (opening : Opening) (first second : List Node) :
    (opening.node first second).nesting ≤ max (nestingIn first) (nestingIn second) + 1 := by
  cases opening with
  | forEach => exact Nat.le_refl _
  | condition => exact Nat.le_refl _
  | block => exact Nat.succ_le_succ (Nat.le_max_left _ _)

/-- The expressions that an open construct keeps. -/
def Frame.exprs (frame : Frame) : List Expr :=
  frame.opening.exprs ++ frame.forests.flatMap exprsIn

namespace Builder

/-- The expressions that a builder has taken. -/
def exprs (b : Builder) : List Expr := exprsIn b.nodes.toList ++ b.frames.flatMap Frame.exprs

/-- What a builder takes from a text: it opens a construct only if there is room for it, and every
expression that is new stands in the text. -/
structure Brings (cs : List Char) (b built : Builder) : Prop where
  /-- No construct is opened beyond the deepest that is read. -/
  room : built.frames.length ≤ max b.frames.length maxNesting
  /-- An expression that is new is carried by the text. -/
  carried : ∀ e ∈ built.exprs, e ∈ b.exprs ∨ Carries cs e

section Tokens

variable {b built : Builder} {cs : List Char} {line : Nat}

/-- An opened construct brings the expressions of its tag, if there is room. -/
theorem brings_of_opened {opening : Opening} (room : b.frames.length < maxNesting)
    (carried : ∀ e ∈ opening.exprs, Carries cs e) : Brings cs b (b.opened opening line) := by
  refine ⟨?_, fun e member => ?_⟩
  · rw [opened, List.length_cons]
    omega
  · simp only [exprs, opened, Frame.exprs, Frame.forests, List.flatMap_cons, Option.toList_none,
      List.nil_append, exprsIn_nil, List.flatMap_nil, List.append_nil,
      List.mem_append] at member ⊢
    rcases member with (new | before) | outer
    · exact .inr (carried e new)
    · exact .inl (.inl before)
    · exact .inl (.inr outer)

/-- A node without lists brings its own expressions. -/
theorem brings_of_push {node : Node} (flat : node.bodies = [])
    (carried : ∀ e ∈ node.exprs, Carries cs e) :
    Brings cs b (b.push node) := by
  refine ⟨Nat.le_max_left _ _, fun e member => ?_⟩
  have single : exprsIn [node] = node.exprs := by
    rw [exprsIn_singleton, flat, List.flatMap_nil, List.append_nil]
  simp only [exprs, push, Array.toList_push, exprsIn_append, single, List.mem_append] at member ⊢
  rcases member with (before | new) | outer
  · exact .inl (.inl before)
  · exact .inr (carried e new)
  · exact .inl (.inr outer)

/-- An expression that is all that a text says is carried by it. -/
theorem carries_of_only {words : List Lexeme} {e : Expr} (laid : lexemes cs = .ok words)
    (written : ExprWords e words) : Carries cs e :=
  carries_of_words [] [] written (by rw [laid, List.nil_append, List.append_nil])

/-- The expression of a construct stands among the words of its tag. -/
theorem carries_of_opening {words : List Lexeme} {opening : Opening} (laid : lexemes cs = .ok words)
    (written : OpeningWords opening words) : ∀ e ∈ opening.exprs, Carries cs e := by
  intro e member
  cases written with
  | @forEach list inner var reversed written =>
    rw [List.mem_singleton.mp member]
    exact carries_of_words [.name var, .name "in"] _ written laid
  | @condition test inner negated written =>
    rw [List.mem_singleton.mp member]
    exact carries_of_words (optionalWord negated "not") [] written
      (by rw [laid, List.append_nil])
  | block name => cases member

/-- A construct keeps its expressions when it is closed, and no other expression comes up. -/
theorem brings_of_closeFrame {frame : Frame} {outer : List Frame}
    (innermost : b.frames = frame :: outer) (blocks : Table String (List Node)) :
    Brings cs b { b.closeFrame frame outer with blocks } := by
  have inside : exprsIn [finished frame b.nodes.toList] ⊆
      frame.opening.exprs ++ frame.divided.toList.flatMap exprsIn ++ exprsIn b.nodes.toList := by
    unfold finished
    cases frame.divided with
    | none => simpa using exprsIn_node frame.opening b.nodes.toList []
    | some first => simpa using exprsIn_node frame.opening first b.nodes.toList
  refine ⟨?_, fun e member => .inl ?_⟩
  · rw [innermost, List.length_cons]
    change outer.length ≤ max (outer.length + 1) maxNesting
    omega
  · simp only [exprs, closeFrame, innermost, Frame.exprs, Frame.forests, Array.toList_push,
      exprsIn_append, List.flatMap_cons, List.flatMap_append, List.flatMap_nil, List.append_nil,
      List.mem_append] at member ⊢
    rcases member with (before | last) | later
    · exact .inr (.inl (.inr (.inr before)))
    · have held := inside last
      simp only [List.mem_append] at held
      rcases held with (own | first) | second
      · exact .inr (.inl (.inl own))
      · exact .inr (.inl (.inr (.inl first)))
      · exact .inl second
    · exact .inr (.inr later)

/-- A divided construct brings nothing. -/
theorem brings_of_halved {frame : Frame} {outer : List Frame}
    (innermost : b.frames = frame :: outer) (whole : frame.divided = none) :
    Brings cs b (b.halved frame outer) := by
  refine ⟨?_, fun e member => .inl ?_⟩
  · rw [innermost]
    exact Nat.le_max_left _ _
  · simp only [exprs, halved, innermost, Frame.exprs, Frame.forests, whole, Option.toList_none,
      Option.toList_some, exprsIn_nil, List.flatMap_cons, List.flatMap_append, List.flatMap_nil,
      List.append_nil, List.nil_append, List.mem_append] at member ⊢
    rcases member with (own | first | before) | later
    · exact .inr (.inl (.inl own))
    · exact .inl first
    · exact .inr (.inl (.inr before))
    · exact .inr (.inr later)

/-- What is read of a token brings the expressions that are said in it. -/
theorem Takes.brings {reading : Reading} (takes : b.Takes line reading built)
    (held : reading.inside = .of cs) : Brings cs b built := by
  have read {words : List Lexeme} (laid : reading.inside.words = .ok words) :
      lexemes cs = .ok words := by rwa [held] at laid
  cases takes with
  | text s =>
    refine ⟨Nat.le_max_left _ _, fun e member => .inl ?_⟩
    simpa [exprs, exprsIn_singleton, Node.exprs, bodies] using member
  | «variable» filled laid written =>
    exact brings_of_push rfl (by simpa [Node.exprs] using carries_of_only (read laid) written)
  | inherits laid written fresh outermost =>
    exact brings_of_push rfl (by simpa [Node.exprs] using carries_of_only (read laid) written)
  | includes laid written =>
    exact brings_of_push rfl (by simpa [Node.exprs] using carries_of_only (read laid) written)
  | @creates args file template front back laid first second =>
    have file' : Carries cs file := carries_of_words [] _ first (read laid)
    have template' : Carries cs template :=
      carries_of_words (front ++ [.name "from"]) [] second ((read laid).trans (by simp))
    refine brings_of_push rfl fun e member => ?_
    rcases List.mem_pair.mp member with rfl | rfl
    · exact file'
    · exact template'
  | opened laid written room =>
    exact brings_of_opened room (carries_of_opening (read laid) written)
  | divided innermost whole divides bare => exact brings_of_halved innermost whole
  | closed innermost unnamed bare => exact brings_of_closeFrame innermost b.blocks
  | closedBlock innermost named ends new => exact brings_of_closeFrame innermost _

/-- What a token brings. -/
theorem brings_of_add {token : Token} (added : b.add token = .ok built) :
    Brings token.inner b built := (takes_of_add added).brings token.inside_reading

end Tokens

/-- Constructs that are nested no deeper than is read, if that many are open around them. -/
def Shallow (around : Nat) (forest : List Node) : Prop := nestingIn forest + around ≤ maxNesting

/-- What open constructs keep is nested no deeper than is read. -/
def Bounded : List Frame → Prop
  | [] => True
  | frame :: outer => Shallow outer.length frame.before.toList ∧
      (∀ first ∈ frame.divided, Shallow (outer.length + 1) first) ∧ Bounded outer

/-- A builder has gathered nothing that is nested deeper than is read. -/
structure Level (b : Builder) : Prop where
  /-- The gathered nodes fit inside the constructs that are open. -/
  nodes : Shallow b.frames.length b.nodes.toList
  /-- So do those that the constructs keep. -/
  frames : Bounded b.frames

/-- Nothing is nested at the start. -/
theorem level_start : Level start where
  nodes := Nat.zero_le _
  frames := trivial

/-- A node that fits may be added. -/
theorem Shallow.push {around : Nat} {nodes : Array Node} (shallow : Shallow around nodes.toList)
    {node : Node} (fits : node.nesting + around ≤ maxNesting) :
    Shallow around (nodes.push node).toList := by
  unfold Shallow at shallow ⊢
  rw [Array.toList_push, nestingIn_append, nestingIn_singleton]
  omega

/-- An empty forest fits wherever there is room. -/
theorem Shallow.of_le {around : Nat} (room : around ≤ maxNesting) : Shallow around [] := by
  simpa [Shallow, nestingIn] using room

/-- A construct is nested one deeper than its parts, with one construct less around it. -/
theorem Level.closeFrame {b : Builder} {frame : Frame} {outer : List Frame} (level : Level b)
    (innermost : b.frames = frame :: outer) (blocks : Table String (List Node)) :
    Level { b.closeFrame frame outer with blocks } := by
  have frames := level.frames
  have nodes := level.nodes
  rw [innermost] at frames nodes
  obtain ⟨before, divided, others⟩ := frames
  have none_ : nestingIn [] = 0 := by rw [nestingIn]
  -- the parts have counted the construct itself among those around them
  have fits : (finished frame b.nodes.toList).nesting + outer.length ≤ maxNesting := by
    unfold Shallow at nodes divided
    rw [List.length_cons] at nodes
    unfold finished
    cases part : frame.divided with
    | none =>
      have deep := nesting_node_le frame.opening b.nodes.toList []
      dsimp only
      omega
    | some first =>
      have deep := nesting_node_le frame.opening first b.nodes.toList
      have other := divided first part
      dsimp only
      omega
  exact ⟨before.push fits, others⟩

/-- One token more keeps a builder level if it opens a construct only where there is room. -/
theorem Level.adds {b built : Builder} (level : Level b) (step : Adds b built)
    (room : built.frames.length ≤ maxNesting) : Level built := by
  have leaf : ∀ {node : Node}, node.bodies = [] →
      Shallow b.frames.length (b.nodes.push node).toList := fun flat => by
    refine level.nodes.push ?_
    rw [nesting_of_flat flat, Nat.zero_add]
    exact (Nat.le_add_left _ _).trans level.nodes
  cases step with
  | text s => exact ⟨leaf rfl, level.frames⟩
  | leaf flat named goesOn => exact ⟨leaf flat, level.frames⟩
  | inherits parent fresh outermost => exact ⟨leaf rfl, level.frames⟩
  | opened opening line => exact ⟨.of_le room, level.nodes, nofun, level.frames⟩
  | @divided frame outer innermost whole divides =>
    have frames := level.frames
    have nodes := level.nodes
    rw [innermost] at frames nodes
    refine ⟨.of_le room, frames.1, ?_, frames.2.2⟩
    rintro first ⟨⟩
    exact nodes
  | closed innermost unnamed => exact level.closeFrame innermost b.blocks
  | closedBlock innermost named new => exact level.closeFrame innermost _

/-- What holds of the builder that all tokens of a source were added to. -/
theorem Level.addAll {tokens : List Token} {b built : Builder} (level : Level b)
    (room : b.frames.length ≤ maxNesting) (succeeded : b.addAll tokens = .ok built) :
    Level built ∧ ∀ e ∈ built.exprs, e ∈ b.exprs ∨ ∃ token ∈ tokens, Carries token.inner e := by
  induction tokens generalizing b with
  | nil =>
    cases succeeded
    exact ⟨level, fun e member => .inl member⟩
  | cons token rest ih =>
    rw [Builder.addAll, List.foldlM_cons] at succeeded
    obtain ⟨next, added, later⟩ := ok_of_bind succeeded
    have brings := brings_of_add added
    have fits : next.frames.length ≤ maxNesting :=
      brings.room.trans (Nat.max_le.mpr ⟨room, Nat.le_refl _⟩)
    obtain ⟨last, carried⟩ := ih (level.adds (adds_of_add added) fits) fits later
    refine ⟨last, fun e member => ?_⟩
    rcases carried e member with before | ⟨other, inside, carries⟩
    · exact (brings.carried e before).imp id fun carries => ⟨token, List.mem_cons_self, carries⟩
    · exact .inr ⟨other, List.mem_cons_of_mem _ inside, carries⟩

end Builder

/-- A template that was read has the shape of its tokens. -/
theorem shaped_of_parse {name : String} {source : List Char} {t : Template}
    (read : parse name source = .ok t) :
    ∃ tokens, tokenize source = .ok tokens ∧ t.Shaped tokens := by
  obtain ⟨tokens, built, cut, added, closed, rfl⟩ := built_of_parse read
  have sound := Builder.sound_start.addAll added
  obtain ⟨level, carried⟩ := Builder.level_start.addAll (Nat.zero_le _) added
  have gathered := sound.blocks
  have layered := sound.layered
  have nodes := level.nodes
  rw [Builder.forests, closed] at gathered layered
  rw [closed] at nodes
  have entries : (blocksIn built.nodes.toList).Perm built.blocks.entries := by
    simpa using gathered
  have taken : ∀ e ∈ exprsIn built.nodes.toList, ∃ token ∈ tokens, Carries token.inner e := by
    intro e member
    have here : e ∈ built.exprs := by simpa [Builder.exprs, closed] using member
    refine (carried e here).resolve_left fun before => ?_
    simp [Builder.exprs, Builder.start] at before
  refine ⟨tokens, cut, entries.symm, ?_, layered, nodes, taken, ?_, ?_⟩
  · exact ((entries.map Prod.fst).nodup_iff).mpr sound.keys
  · intro e _ f _
    cases f <;> simp [Filter.argument?, Filter.name, Filter.taking]
  · rintro ⟨operand, filters⟩ _ segments shape
    cases operand with
    | literal l => cases shape
    | path name fields =>
      cases shape
      exact List.cons_ne_nil _ _

/-- The source of a template with a block in a loop, after a text and the name of its parent. -/
def catalogueSource : String :=
  "a" ++ tag "extends 'base'" ++ tag "for x in xs" ++ tag "block b" ++
    "\x7b\x7b x.0 | default:'-' \x7d\x7d" ++ tag "endblock" ++ tag "empty" ++ tag "endfor"

/-- It is read as a template of this shape. -/
theorem shaped_of_parse_catalogue : ∃ tokens t, parse "page" catalogueSource.toList = .ok t ∧
    t.Shaped tokens ∧ blockNames t.nodes = ["b"] ∧ nestingIn t.nodes = 2 ∧
      (exprsIn t.nodes).length = 3 := by
  have seen : (parse "page" catalogueSource.toList).toOption.any (fun t =>
      blockNames t.nodes = ["b"] ∧ nestingIn t.nodes = 2 ∧
        (exprsIn t.nodes).length = 3) = true := by
    decide +kernel
  cases read : parse "page" catalogueSource.toList with
  | error cause =>
    rw [read] at seen
    cases seen
  | ok t =>
    rw [read] at seen
    obtain ⟨tokens, -, shaped⟩ := shaped_of_parse read
    exact ⟨tokens, t, rfl, shaped, of_decide_eq_true seen⟩

end Source

end TextTemplate

import TextTemplate.Proofs.Source.Written
import Mathlib.Data.List.Nodup
/-!
# Building a written tree

Tokens that say what the pieces of a written tree say are built into that tree, but for the lines
that nodes carry, which depend on where the tree stands in a source. `Room` is what a builder must
satisfy to take a forest: its constructs are not nested too deep, its blocks have names that are not
taken, and it inherits only as the first tag. `Grown` is what becomes of the builder. One lemma for
each kind of tag says what it does; the main statement puts them together along the writing
(`Written.raises`).
-/
namespace TextTemplate

namespace Node

mutual

/-- A node without the lines of its tags. -/
def unlined : Node → Node
  | .text s => .text s
  | .variable e => .variable e
  | .forEach var list reversed body otherwise =>
    .forEach var list reversed (unlinedIn body) (unlinedIn otherwise)
  | .condition test negated yes no => .condition test negated (unlinedIn yes) (unlinedIn no)
  | .block name body => .block name (unlinedIn body)
  | .inherits parent => .inherits parent
  | .includes template => .includes template
  | .creates file template _ => .creates file template 0

/-- A forest without the lines of its tags. -/
def unlinedIn : List Node → List Node
  | [] => []
  | first :: rest => first.unlined :: unlinedIn rest

end

/-- An empty forest has no lines. -/
@[simp] theorem unlinedIn_nil : unlinedIn [] = [] := by rw [unlinedIn]

/-- Lines are left out tree by tree. -/
@[simp] theorem unlinedIn_cons (first : Node) (rest : List Node) :
    unlinedIn (first :: rest) = first.unlined :: unlinedIn rest := by rw [unlinedIn]

/-- Lines are left out of two forests one after the other. -/
@[simp] theorem unlinedIn_append (front back : List Node) :
    unlinedIn (front ++ back) = unlinedIn front ++ unlinedIn back := by
  induction front with
  | nil => simp
  | cons first rest ih => simp [ih]

end Node

namespace Source

open Node

section Names

/-- A text without words is blank. -/
theorem Spells.blanks {cs : List Char} (spells : Spells [] cs) :
    ∀ c ∈ cs, Text.isBlank c = true := by
  obtain ⟨texts, spelled, laid⟩ := spells
  cases spelled
  cases laid with
  | nil blank => exact blank

variable {name : String} {words : List Lexeme} {content : List Char}

/-- The name of a tag is told from its arguments, whose words are then read. -/
theorem TagContent.splitTag (tagged : TagContent name words content) (known : name ∈ tagNames) :
    (Builder.splitTag (Text.trim content)).1 = name ∧
      lexemes (Builder.splitTag (Text.trim content)).2 = .ok words ∧
      (words = [] → (Builder.splitTag (Text.trim content)).2 = []) := by
  obtain ⟨blank, apart, spells⟩ := tagged
  rename_i gap args
  obtain ⟨nonempty, plain⟩ := plain_of_mem_tagNames known
  have dense : ∀ c ∈ name.toList, Text.isBlank c = false := fun c member => (plain c member).1
  have first : ∀ c ∈ (name.toList ++ args).head?, Text.isBlank c = false := by
    intro c head
    cases shape : name.toList with
    | nil => exact absurd shape nonempty
    | cons d rest =>
      rw [shape] at head
      cases head
      exact dense _ (by rw [shape]; exact List.mem_cons_self)
  have trimmed : Text.trim (gap ++ (name.toList ++ args)) = name.toList ++ Text.trimRight args := by
    rw [Text.trim, Text.trimLeft_append_blanks blank, Text.trimLeft_eq_self first,
      Text.trimRight_append dense]
  obtain ⟨blanks, split, blank'⟩ := Text.trimRight_append_blanks args
  have stops : ∀ c ∈ (Text.trimRight args).head?, (!Text.isBlank c) = false := by
    intro c head
    rw [apart c (Text.head?_of_head?_trimRight head)]
    rfl
  have run : ∀ c ∈ name.toList, (!Text.isBlank c) = true := by
    intro c member
    rw [dense c member]
    rfl
  obtain ⟨taken, dropped⟩ := takeWhile_run run stops
  have cut : Builder.splitTag (Text.trim (gap ++ (name.toList ++ args))) =
      (name, Text.trim (Text.trimRight args)) := by
    rw [trimmed, Builder.splitTag, taken, dropped, String.ofList_toList]
  rw [cut]
  refine ⟨rfl, ?_, ?_⟩
  · dsimp only
    rw [lexemes_trim, ← lexemes_append_blanks blank', ← split]
    exact lexemes_eq_ok_iff.mpr spells
  · rintro rfl
    dsimp only
    rw [Text.trimRight_blanks spells.blanks]
    rfl

end Names

/-- The tag that opens a construct is known. -/
theorem Opening.tag_known (opening : Opening) : opening.tag ∈ tagNames := by
  cases opening <;> simp [Opening.tag, tagNames]

/-- The tag that closes a construct is known. -/
theorem Opening.closer_known (opening : Opening) : opening.closer ∈ tagNames := by
  cases opening <;> simp [Opening.closer, tagNames]

/-- The tag that divides a construct is known. -/
theorem Opening.divider_known {opening : Opening} {name : String}
    (divides : opening.divider? = some name) : name ∈ tagNames := by
  cases opening <;> cases divides <;> simp [tagNames]

section Tags

variable {b built : Builder} {token : Token} {name : String} {words : List Lexeme}
  {content : List Char}

/-- A builder adds a token that says what a tag says if it takes the tag, whatever wording of the
same words the token has. -/
theorem add_of_takes (same : token.saying = (⟨.tag, content⟩ : Piece).saying)
    (tagged : TagContent name words content) (known : name ∈ tagNames)
    (takes : ∀ args : Wording, args.words = .ok words → (words = [] → args.isEmpty = true) →
      b.Takes token.line (.tag name args) built) : b.add token = .ok built := by
  obtain ⟨named, laid, bare⟩ := tagged.splitTag known
  have reading : token.reading =
      .tag name (.of (Builder.splitTag (Text.trim content)).2) := by
    obtain ⟨kind, inner, line⟩ := token
    cases same
    rw [← named]
    rfl
  rw [Builder.add, reading]
  refine (takes _ laid fun none_ => ?_).added
  rw [bare none_]
  rfl

/-- A tag that opens a construct. -/
theorem add_opening {opening : Opening} (same : token.saying = (⟨.tag, content⟩ : Piece).saying)
    (tagged : TagContent opening.tag words content) (inner : OpeningWords opening words)
    (room : b.frames.length < maxNesting) : b.add token = .ok (b.opened opening token.line) :=
  add_of_takes same tagged opening.tag_known fun _ laid _ => .opened laid inner room

/-- A tag that divides the innermost construct. -/
theorem add_divider {frame : Frame} {outer : List Frame}
    (same : token.saying = (⟨.tag, content⟩ : Piece).saying) (innermost : b.frames = frame :: outer)
    (whole : frame.divided = none) (divides : frame.opening.divider? = some name)
    (tagged : TagContent name [] content) : b.add token = .ok (b.halved frame outer) :=
  add_of_takes same tagged (Opening.divider_known divides) fun _ _ bare =>
    .divided innermost whole divides (bare rfl)

/-- A tag that closes the innermost construct, if that is no block. -/
theorem add_closer {frame : Frame} {outer : List Frame}
    (same : token.saying = (⟨.tag, content⟩ : Piece).saying) (innermost : b.frames = frame :: outer)
    (unnamed : ∀ name, frame.opening ≠ .block name)
    (tagged : TagContent frame.opening.closer [] content) :
    b.add token = .ok (b.closeFrame frame outer) :=
  add_of_takes same tagged frame.opening.closer_known fun _ _ bare =>
    .closed innermost unnamed (bare rfl)

/-- The tag that closes a block, with its name or without. -/
theorem add_endblock {frame : Frame} {outer : List Frame} {block : String} {given : Bool}
    (same : token.saying = (⟨.tag, content⟩ : Piece).saying) (innermost : b.frames = frame :: outer)
    (named : frame.opening = .block block) (fresh : b.blocks.contains block = false)
    (tagged : TagContent "endblock" (optionalWord given block) content) :
    b.add token = .ok { b.closeFrame frame outer with
      blocks := b.blocks.insert block b.nodes.toList } := by
  refine add_of_takes same tagged (by decide) fun args laid bare => ?_
  cases given with
  | false => exact .closedBlock innermost named (.inl (bare rfl)) fresh
  | true => exact .closedBlock innermost named (.inr laid) fresh

/-- A variable. -/
theorem add_variable {e : Expr} (same : token.saying = (⟨.variable, content⟩ : Piece).saying)
    (inner : ExprWords e words) (spells : Spells words content) :
    b.add token = .ok (b.push (.variable e)) := by
  obtain ⟨kind, held, line⟩ := token
  cases same
  have laid : lexemes (Text.trim content) = .ok words := by
    rw [lexemes_trim]
    exact lexemes_eq_ok_iff.mpr spells
  have filled : (Text.trim content).isEmpty = false := by
    rw [Bool.eq_false_iff]
    intro none
    rw [List.isEmpty_iff.mp none, lexemes] at laid
    cases laid
    obtain ⟨_, _, none, _⟩ := inner.begins
    cases none
  exact (Builder.Takes.variable filled laid inner : b.Takes line (.variable _) _).added

/-- A tag that inherits, before any other. -/
theorem add_inherits {parent : Expr} (same : token.saying = (⟨.tag, content⟩ : Piece).saying)
    (inner : ExprWords parent words) (tagged : TagContent "extends" words content)
    (fresh : b.started = false) (outermost : b.frames = []) :
    b.add token = .ok (b.push (.inherits parent)) :=
  add_of_takes same tagged (by decide) fun _ laid _ => .inherits laid inner fresh outermost

/-- A tag that includes a template. -/
theorem add_includes {template : Expr} (same : token.saying = (⟨.tag, content⟩ : Piece).saying)
    (inner : ExprWords template words) (tagged : TagContent "include" words content) :
    b.add token = .ok (b.push (.includes template)) :=
  add_of_takes same tagged (by decide) fun _ laid _ => .includes laid inner

/-- A tag that makes a file; its node carries its line. -/
theorem add_creates {file template : Expr} {front back : List Lexeme}
    (same : token.saying = (⟨.tag, content⟩ : Piece).saying) (first : ExprWords file front)
    (second : ExprWords template back)
    (tagged : TagContent "create" (front ++ .name "from" :: back) content) :
    b.add token = .ok (b.push (.creates file template token.line)) :=
  add_of_takes same tagged (by decide) fun _ laid _ => .creates laid first second

end Tags

section Trees

variable {b built next : Builder} {nodes front back : List Node} {node : Node}

/-- The blocks of two forests are those of both. -/
theorem blockNames_append : blockNames (front ++ back) = blockNames front ++ blockNames back := by
  rw [blockNames, blocksIn_append, List.map_append, blockNames, blockNames]

/-- The blocks of a forest are those of its first tree and those of the others. -/
theorem blockNames_cons (node : Node) (nodes : List Node) :
    blockNames (node :: nodes) = blockNames [node] ++ blockNames nodes := by
  rw [← blockNames_append, List.singleton_append]

/-- What becomes of a builder that takes a forest. -/
structure Grown (b : Builder) (nodes : List Node) (built : Builder) : Prop where
  /-- The forest is added to the innermost construct, with lines of its own. -/
  forest : ∃ added, built.nodes.toList = b.nodes.toList ++ added ∧ unlinedIn added = unlinedIn nodes
  /-- No construct is left open. -/
  frames : built.frames = b.frames
  /-- The names of its blocks are taken. -/
  names : ∀ name, built.blocks.contains name = true ↔
    b.blocks.contains name = true ∨ name ∈ blockNames nodes
  /-- Text starts nothing. -/
  quiet : (∀ node ∈ nodes, node.isText = true) → built.started = b.started

/-- A builder that takes no nodes is as it was. -/
theorem Grown.nil (b : Builder) : Grown b [] b where
  forest := ⟨[], by simp, rfl⟩
  frames := rfl
  names name := by simp [blockNames]
  quiet _ := rfl

/-- A builder that takes two forests in turn takes both together. -/
theorem Grown.append (first : Grown b front next) (second : Grown next back built) :
    Grown b (front ++ back) built where
  forest := by
    obtain ⟨added, here, same⟩ := first.forest
    obtain ⟨more, there, same'⟩ := second.forest
    refine ⟨added ++ more, ?_, ?_⟩
    · rw [there, here, List.append_assoc]
    · rw [unlinedIn_append, unlinedIn_append, same, same']
  frames := second.frames.trans first.frames
  names name := by rw [second.names, first.names, blockNames_append, List.mem_append, or_assoc]
  quiet texts := (second.quiet fun node member => texts node (List.mem_append_right _ member)).trans
    (first.quiet fun node member => texts node (List.mem_append_left _ member))

/-- A node without blocks in it is pushed. -/
theorem Grown.push {added : Node} (same : added.unlined = node.unlined)
    (flat : blockNames [node] = []) (tagged : node.isText = false) :
    Grown b [node] (b.push added) where
  forest := ⟨[added], by simp [Builder.push], by simp [same]⟩
  frames := rfl
  names name := by simp [flat, Builder.push]
  quiet texts := by
    rw [texts node List.mem_cons_self] at tagged
    cases tagged

/-- What a builder must satisfy to take a forest. -/
structure Room (b : Builder) (nodes : List Node) : Prop where
  /-- Constructs are nested no deeper than is read. -/
  nesting : b.frames.length + nestingIn nodes ≤ maxNesting
  /-- The names of the blocks are not taken. -/
  fresh : ∀ name ∈ blockNames nodes, b.blocks.contains name = false
  /-- No two blocks have one name. -/
  names : (blockNames nodes).Nodup
  /-- Only the first tag inherits. -/
  opening : InheritsFirst nodes
  /-- Nothing inherits in a construct or after a tag. -/
  late : b.started = true ∨ b.frames ≠ [] → Standalone nodes

/-- A forest that stands alone does so without its first tree. -/
theorem standalone_tail (alone : Standalone (node :: nodes)) : Standalone nodes :=
  alone.of_subset (by simp)

/-- After a tag nothing inherits. -/
theorem standalone_of_inheritsFirst (first : InheritsFirst (node :: nodes))
    (tagged : node.isText = false) : Standalone nodes := by
  rcases first with alone | ⟨before, parent, after, split, texts, alone⟩
  · exact standalone_tail alone
  · cases before with
    | nil =>
      rw [(List.cons.inj split).2]
      exact alone
    | cons other before =>
      have text := texts other List.mem_cons_self
      rw [← (List.cons.inj split).1, tagged] at text
      cases text

/-- Text before the first tag does not matter to it. -/
theorem inheritsFirst_tail (first : InheritsFirst (node :: nodes)) : InheritsFirst nodes := by
  cases tagged : node.isText with
  | false => exact .inl (standalone_of_inheritsFirst first tagged)
  | true =>
    rcases first with alone | ⟨before, parent, after, split, texts, alone⟩
    · exact .inl (standalone_tail alone)
    · cases before with
      | nil =>
        rw [(List.cons.inj split).1] at tagged
        cases tagged
      | cons other before =>
        rw [(List.cons.inj split).2]
        exact .inr ⟨before, parent, after, rfl,
          fun text member => texts text (List.mem_cons_of_mem _ member), alone⟩

/-- Where a node that inherits finds room, nothing was started. -/
theorem Room.fresh_of_inherits {parent : Expr} (room : Room b (.inherits parent :: nodes)) :
    b.started = false ∧ b.frames = [] := by
  have last : ¬ Standalone (.inherits parent :: nodes) := fun alone =>
    nomatch alone (.inherits parent) (mem_allIn_of_mem List.mem_cons_self)
  constructor
  · rw [Bool.eq_false_iff]
    exact fun started => last (room.late (.inl started))
  · by_contra inside
    exact last (room.late (.inr inside))

/-- What is left of a forest finds room after its first node. -/
theorem Room.tail (room : Room b (node :: nodes)) (grown : Grown b [node] next) :
    Room next nodes := by
  have distinct := room.names
  rw [blockNames_cons, List.nodup_append] at distinct
  obtain ⟨-, later, apart⟩ := distinct
  refine ⟨?_, ?_, later, inheritsFirst_tail room.opening, ?_⟩
  · have nesting := room.nesting
    rw [nestingIn] at nesting
    rw [grown.frames]
    omega
  · intro name member
    rw [Bool.eq_false_iff]
    intro taken
    rcases (grown.names name).mp taken with before | here
    · have free := room.fresh name (by
        rw [blockNames_cons]
        exact List.mem_append_right _ member)
      rw [before] at free
      cases free
    · exact apart name here name member rfl
  · intro late
    cases tagged : node.isText with
    | false => exact standalone_of_inheritsFirst room.opening tagged
    | true =>
      have started : next.started = b.started := grown.quiet fun other member => by
        rw [List.mem_singleton.mp member]
        exact tagged
      rw [started, grown.frames] at late
      exact standalone_tail (room.late late)

/-- The names of the blocks of a node. -/
theorem blockNames_node (node : Node) :
    blockNames [node] = node.block?.toList.map Prod.fst ++ node.bodies.flatMap blockNames := by
  have inner : (node.bodies.flatMap blocksIn).map Prod.fst = node.bodies.flatMap blockNames :=
    List.map_flatMap
  rw [blockNames, blocksIn_cons, blocksIn_nil, List.append_nil, List.map_append, inner]

/-- What a node holds is nested less deep than the node. -/
theorem nestingIn_lt_of_mem {body : List Node} (held : body ∈ node.bodies) :
    nestingIn body < node.nesting := by
  cases node <;> simp only [bodies, List.mem_cons, List.not_mem_nil, or_false] at held
  · rcases held with rfl | rfl <;> rw [nesting] <;> omega
  · rcases held with rfl | rfl <;> rw [nesting] <;> omega
  · rw [held, nesting]
    omega

/-- Nothing inherits in what a node holds. -/
theorem standalone_of_held {body : List Node} (first : InheritsFirst (node :: nodes))
    (held : body ∈ node.bodies) : Standalone body := by
  have inside : allIn body ⊆ allIn (node :: nodes) :=
    allIn_subset_of_mem List.mem_cons_self held
  rcases first with alone | ⟨before, parent, after, split, texts, alone⟩
  · exact alone.of_subset inside
  · cases before with
    | nil =>
      rw [(List.cons.inj split).1] at held
      cases held
    | cons other before =>
      have text := texts other List.mem_cons_self
      rw [(List.cons.inj split).1] at held
      cases other <;> simp_all [isText, bodies]

/-- What a node holds finds room one construct deeper, if the names of its blocks are free. -/
theorem Room.body {body : List Node} (room : Room b (node :: nodes)) (held : body ∈ node.bodies)
    (deeper : next.frames.length = b.frames.length + 1)
    (free : ∀ name ∈ blockNames body, next.blocks.contains name = false) : Room next body := by
  have alone := standalone_of_held room.opening held
  refine ⟨?_, free, ?_, .inl alone, fun _ => alone⟩
  · have inner := nestingIn_lt_of_mem held
    have nesting := room.nesting
    rw [nestingIn] at nesting
    omega
  · have distinct := room.names
    rw [blockNames_cons, blockNames_node] at distinct
    have here := (List.nodup_append.mp (List.nodup_append.mp distinct).1).2.1
    exact (List.nodup_flatMap.mp here).1 body held

/-- The names of the blocks in what a node holds are free. -/
theorem Room.free {body : List Node} (room : Room b (node :: nodes)) (held : body ∈ node.bodies) :
    ∀ name ∈ blockNames body, b.blocks.contains name = false := by
  intro name member
  refine room.fresh name ?_
  rw [blockNames_cons, blockNames_node]
  exact List.mem_append_left _
    (List.mem_append_right _ (List.mem_flatMap.mpr ⟨body, held, member⟩))

variable {opening : Opening} {first second : List Node} {line : Nat}

/-- A construct without a name has two bodies. -/
theorem bodies_node (unnamed : ∀ name, opening ≠ .block name) :
    (opening.node first second).bodies = [first, second] := by
  cases opening with
  | block name => exact absurd rfl (unnamed name)
  | forEach => rfl
  | condition => rfl

/-- The first part of a construct finds room in it. -/
theorem Room.firstPart (room : Room b (node :: nodes)) {body : List Node}
    (held : body ∈ node.bodies) : Room (b.opened opening line) body :=
  room.body held rfl (room.free held)

/-- The second part of a construct finds room after the first. -/
theorem Room.secondPart (unnamed : ∀ name, opening ≠ .block name)
    (room : Room b (opening.node first second :: nodes))
    (grown : Grown (b.opened opening line) first next) :
    Room (next.halved ⟨opening, line, b.nodes, none⟩ b.frames) second := by
  have parts : (opening.node first second).bodies = [first, second] := bodies_node unnamed
  have held : second ∈ (opening.node first second).bodies := by simp [parts]
  refine room.body held rfl fun name member => ?_
  rw [Bool.eq_false_iff]
  intro taken
  rcases (grown.names name).mp taken with before | here
  · have free := room.free held name member
    rw [show b.blocks.contains name = true from before] at free
    cases free
  · have distinct := room.names
    rw [blockNames_cons, blockNames_node, parts] at distinct
    have inner := (List.nodup_append.mp (List.nodup_append.mp distinct).1).2.1
    rw [List.flatMap_cons, List.flatMap_cons, List.flatMap_nil, List.append_nil,
      List.nodup_append] at inner
    exact inner.2.2 name here name member rfl

/-- The names of the blocks of a construct that is no block are those of its parts. -/
theorem blockNames_construct (unnamed : ∀ name, opening ≠ .block name) :
    blockNames [opening.node first second] = blockNames first ++ blockNames second := by
  rw [blockNames_node, bodies_node unnamed]
  cases opening with
  | block name => exact absurd rfl (unnamed name)
  | forEach => simp [Opening.node, block?]
  | condition => simp [Opening.node, block?]

/-- Constructs of the same bodies, but for lines, are the same but for lines. -/
theorem unlined_construct {first' second' : List Node} (same : unlinedIn first = unlinedIn first')
    (same' : unlinedIn second = unlinedIn second') :
    (opening.node first second).unlined = (opening.node first' second').unlined := by
  cases opening <;> simp [Opening.node, unlined, same, same']

/-- A construct is no text. -/
theorem isText_construct : (opening.node first second).isText = false := by
  cases opening <;> rfl

/-- A construct of one part is added when it is closed. -/
theorem Grown.closed (unnamed : ∀ name, opening ≠ .block name)
    (grown : Grown (b.opened opening line) first next) :
    Grown b [opening.node first []]
      (next.closeFrame ⟨opening, line, b.nodes, none⟩ b.frames) where
  forest := by
    obtain ⟨added, here, same⟩ := grown.forest
    have whole : next.nodes.toList = added := by rw [here]; rfl
    refine ⟨[opening.node added []], ?_, ?_⟩
    · rw [Builder.closeFrame, Array.toList_push, Builder.finished, whole]
    · rw [unlinedIn_cons, unlinedIn_cons, unlined_construct same rfl]
  frames := rfl
  names name := by
    have none : blockNames [] = [] := rfl
    rw [blockNames_construct unnamed, none, List.append_nil]
    exact grown.names name
  quiet texts := by
    have text := texts _ List.mem_cons_self
    rw [isText_construct] at text
    cases text

/-- A construct of two parts is added when it is closed. -/
theorem Grown.closedHalved {last : Builder} (unnamed : ∀ name, opening ≠ .block name)
    (grown : Grown (b.opened opening line) first next)
    (grown' : Grown (next.halved ⟨opening, line, b.nodes, none⟩ b.frames) second last) :
    Grown b [opening.node first second]
      (last.closeFrame ⟨opening, line, b.nodes, some next.nodes.toList⟩ b.frames) where
  forest := by
    obtain ⟨added, here, same⟩ := grown.forest
    obtain ⟨more, there, same'⟩ := grown'.forest
    have whole : next.nodes.toList = added := by rw [here]; rfl
    have whole' : last.nodes.toList = more := by rw [there]; rfl
    refine ⟨[opening.node added more], ?_, ?_⟩
    · rw [Builder.closeFrame, Array.toList_push, Builder.finished, whole, whole']
    · rw [unlinedIn_cons, unlinedIn_cons, unlined_construct same same']
  frames := rfl
  names name := by
    rw [blockNames_construct unnamed, List.mem_append, ← or_assoc]
    exact (grown'.names name).trans (or_congr_left (grown.names name))
  quiet texts := by
    have text := texts _ List.mem_cons_self
    rw [isText_construct] at text
    cases text

/-- A block is added when it is closed, and its name is taken then. -/
theorem Grown.closedBlock {name : String}
    (grown : Grown (b.opened (.block name) line) first next) :
    Grown b [.block name first]
      { next.closeFrame ⟨.block name, line, b.nodes, none⟩ b.frames with
        blocks := next.blocks.insert name next.nodes.toList } where
  forest := by
    obtain ⟨added, here, same⟩ := grown.forest
    have whole : next.nodes.toList = added := by rw [here]; rfl
    refine ⟨[.block name added], ?_, ?_⟩
    · rw [Builder.closeFrame, Array.toList_push, Builder.finished, whole]
      rfl
    · simp [unlined, same]
  frames := rfl
  names other := by
    have inner : next.blocks.contains other = true ↔
        b.blocks.contains other = true ∨ other ∈ blockNames first := grown.names other
    rw [blockNames_node, Table.contains_insert, Bool.or_eq_true, decide_eq_true_eq, inner]
    simp only [block?, bodies, Option.toList_some, List.map_cons, List.map_nil, List.flatMap_cons,
      List.flatMap_nil, List.append_nil, List.singleton_append, List.mem_cons]
    rw [or_left_comm, @eq_comm _ name]
  quiet texts := by
    have text := texts _ List.mem_cons_self
    cases text

end Trees

section Runs

variable {b next : Builder} {nodes : List Node} {node : Node} {pieces : List Piece}
  {token : Token} {tokens : List Token}

/-- Tokens are built into a forest. -/
def Builds (b : Builder) (tokens : List Token) (nodes : List Node) : Prop :=
  ∃ built, b.addAll tokens = .ok built ∧ Grown b nodes built

/-- Wherever there is room, tokens that say what pieces say are built into a forest. -/
def Raises (pieces : List Piece) (nodes : List Node) : Prop :=
  ∀ b tokens, Room b nodes → tokens.map Token.saying = pieces.map Piece.saying →
    Builds b tokens nodes

/-- Tokens are added one by one. -/
theorem addAll_cons (added : b.add token = .ok next) (tokens : List Token) :
    b.addAll (token :: tokens) = next.addAll tokens := by
  rw [Builder.addAll, List.foldlM_cons, added]
  rfl

/-- Tokens are added after others to the builder that those made. -/
theorem addAll_append_of {front : List Token} (added : b.addAll front = .ok next)
    (back : List Token) : b.addAll (front ++ back) = next.addAll back := by
  rw [Builder.addAll_append, added]
  rfl

/-- The token of a piece and those of the pieces after it. -/
theorem exists_cons {piece : Piece}
    (same : tokens.map Token.saying = (piece :: pieces).map Piece.saying) :
    ∃ token rest, tokens = token :: rest ∧ token.saying = piece.saying ∧
      rest.map Token.saying = pieces.map Piece.saying :=
  List.map_eq_cons_iff.mp same

/-- The tokens of a part, the token of the tag after it and those of the pieces after that. -/
theorem exists_append_cons {first : List Piece} {piece : Piece}
    (same : tokens.map Token.saying = (first ++ piece :: pieces).map Piece.saying) :
    ∃ front token rest, tokens = front ++ token :: rest ∧
      front.map Token.saying = first.map Piece.saying ∧ token.saying = piece.saying ∧
      rest.map Token.saying = pieces.map Piece.saying := by
  rw [List.map_append, List.map_eq_append_iff] at same
  obtain ⟨front, back, rfl, here, there⟩ := same
  obtain ⟨token, rest, rfl, this, after⟩ := exists_cons there
  exact ⟨front, token, rest, rfl, here, this, after⟩

/-- A node that one tag or variable makes. -/
theorem Raises.leaf {piece : Piece} (later : Raises pieces nodes)
    (adds : ∀ b token, Room b (node :: nodes) → token.saying = piece.saying →
      ∃ next, b.add token = .ok next ∧ Grown b [node] next) :
    Raises (piece :: pieces) (node :: nodes) := by
  intro b tokens room same
  obtain ⟨token, rest, rfl, here, after⟩ := exists_cons same
  obtain ⟨next, added, grown⟩ := adds b token room here
  obtain ⟨built, more, grown'⟩ := later next rest (room.tail grown) after
  exact ⟨built, by rw [addAll_cons added, more], grown.append grown'⟩

variable {opening : Opening} {words : List Lexeme} {opens divides closes : List Char}
  {first second : List Piece} {body other : List Node}

/-- A construct has room for what its tag opens. -/
theorem Room.length_lt (room : Room b (node :: nodes)) (held : body ∈ node.bodies) :
    b.frames.length < maxNesting := by
  have inner := nestingIn_lt_of_mem held
  have nesting := room.nesting
  rw [nestingIn] at nesting
  omega

/-- A construct of one part. -/
theorem Raises.construct (unnamed : ∀ name, opening ≠ .block name)
    (inner : OpeningWords opening words) (opened : TagContent opening.tag words opens)
    (closed : TagContent opening.closer [] closes) (part : Raises first body)
    (later : Raises pieces nodes) :
    Raises (⟨.tag, opens⟩ :: (first ++ ⟨.tag, closes⟩ :: pieces))
      (opening.node body [] :: nodes) := by
  intro b tokens room same
  obtain ⟨token, tokens, rfl, same₁, same⟩ := exists_cons same
  obtain ⟨front, token', rest, rfl, same₂, same₃, same₄⟩ := exists_append_cons same
  have held : body ∈ (opening.node body []).bodies := by simp [bodies_node unnamed]
  have added := add_opening same₁ opened inner (room.length_lt held)
  obtain ⟨next, more, grown⟩ := part (b.opened opening token.line) front (room.firstPart held) same₂
  have added' := add_closer same₃ grown.frames unnamed closed
  have whole := grown.closed unnamed
  obtain ⟨built, last, grown'⟩ := later _ rest (room.tail whole) same₄
  refine ⟨built, ?_, whole.append grown'⟩
  rw [addAll_cons added, addAll_append_of more, addAll_cons added', last]

/-- A construct of two parts. -/
theorem Raises.halved {divider : String} (splits : opening.divider? = some divider)
    (inner : OpeningWords opening words) (opened : TagContent opening.tag words opens)
    (divided : TagContent divider [] divides) (closed : TagContent opening.closer [] closes)
    (part : Raises first body) (part' : Raises second other) (later : Raises pieces nodes) :
    Raises (⟨.tag, opens⟩ :: (first ++ ⟨.tag, divides⟩ :: (second ++ ⟨.tag, closes⟩ :: pieces)))
      (opening.node body other :: nodes) := by
  intro b tokens room same
  obtain ⟨token, tokens, rfl, same₁, same⟩ := exists_cons same
  obtain ⟨front, token', rest, rfl, same₂, same₃, same⟩ := exists_append_cons same
  obtain ⟨front', token'', rest, rfl, same₄, same₅, same₆⟩ := exists_append_cons same
  have unnamed : ∀ name, opening ≠ .block name := by
    rintro name rfl
    cases splits
  have held : body ∈ (opening.node body other).bodies := by simp [bodies_node unnamed]
  have added := add_opening same₁ opened inner (room.length_lt held)
  obtain ⟨next, more, grown⟩ := part (b.opened opening token.line) front (room.firstPart held) same₂
  have added' := add_divider same₃ grown.frames rfl splits divided
  obtain ⟨last, more', grown'⟩ := part' _ front' (room.secondPart unnamed grown) same₄
  have added'' := add_closer same₅ grown'.frames unnamed closed
  have whole := grown.closedHalved unnamed grown'
  obtain ⟨built, final, grown''⟩ := later _ rest (room.tail whole) same₆
  refine ⟨built, ?_, whole.append grown''⟩
  rw [addAll_cons added, addAll_append_of more, addAll_cons added', addAll_append_of more',
    addAll_cons added'', final]

/-- A block. -/
theorem Raises.block {name : String} {given : Bool} (opened : TagContent "block" [.name name] opens)
    (closed : TagContent "endblock" (optionalWord given name) closes) (part : Raises first body)
    (later : Raises pieces nodes) :
    Raises (⟨.tag, opens⟩ :: (first ++ ⟨.tag, closes⟩ :: pieces)) (.block name body :: nodes) := by
  intro b tokens room same
  obtain ⟨token, tokens, rfl, same₁, same⟩ := exists_cons same
  obtain ⟨front, token', rest, rfl, same₂, same₃, same₄⟩ := exists_append_cons same
  have held : body ∈ (Node.block name body).bodies := List.mem_singleton_self body
  have added : b.add token = .ok (b.opened (.block name) token.line) :=
    add_opening same₁ opened (.block name) (room.length_lt held)
  obtain ⟨next, more, grown⟩ :=
    part (b.opened (.block name) token.line) front (room.firstPart held) same₂
  have free : next.blocks.contains name = false := by
    have distinct := room.names
    have before := room.fresh name
    rw [blockNames_cons, blockNames_node] at distinct before
    rw [Bool.eq_false_iff]
    intro taken
    rcases (grown.names name).mp taken with early | here
    · have clear := before (by simp [block?])
      rw [show b.blocks.contains name = true from early] at clear
      cases clear
    · simp [block?, bodies, here] at distinct
  have added' := add_endblock same₃ grown.frames rfl free closed
  have whole := grown.closedBlock
  obtain ⟨built, last, grown'⟩ := later _ rest (room.tail whole) same₄
  refine ⟨built, ?_, whole.append grown'⟩
  rw [addAll_cons added, addAll_append_of more, addAll_cons added', last]

/-- Tokens that say what the pieces of a written forest say are built into that forest. -/
theorem Written.raises (written : Written nodes pieces) : Raises pieces nodes := by
  induction written with
  | nil =>
    intro b tokens room same
    rw [List.map_eq_nil_iff.mp same]
    exact ⟨b, rfl, .nil b⟩
  | @text s nodes pieces later ih =>
    refine ih.leaf fun b token room same => ?_
    obtain ⟨kind, content⟩ : token.kind = .text ∧ token.content = s.toList := Prod.mk.inj same
    refine ⟨{ b with nodes := b.nodes.push (.text s) }, ?_, ?_⟩
    · rw [Builder.add_of_text b kind, content, String.ofList_toList]
    · exact ⟨⟨[.text s], by simp, rfl⟩, rfl, fun name => by simp [blockNames_node, block?, bodies],
        fun _ => rfl⟩
  | «variable» inner spells later ih =>
    exact ih.leaf fun b token room same =>
      ⟨_, add_variable same inner spells, .push rfl (by simp [blockNames_node, block?, bodies]) rfl⟩
  | forEach inner opened part closed later body rest =>
    refine .construct (fun name same => ?_) (.forEach _ _ inner) opened closed body rest
    cases same
  | forEmpty inner opened part divided other closed later body otherwise rest =>
    exact .halved rfl (.forEach _ _ inner) opened divided closed body otherwise rest
  | condition inner opened part closed later body rest =>
    refine .construct (fun name same => ?_) (.condition _ inner) opened closed body rest
    cases same
  | conditionElse inner opened part divided other closed later body otherwise rest =>
    exact .halved rfl (.condition _ inner) opened divided closed body otherwise rest
  | block opened part closed later body rest => exact .block opened closed body rest
  | inherits inner tagged later ih =>
    refine ih.leaf fun b token room same => ?_
    obtain ⟨fresh, outermost⟩ := room.fresh_of_inherits
    exact ⟨_, add_inherits same inner tagged fresh outermost,
      .push rfl (by simp [blockNames_node, block?, bodies]) rfl⟩
  | includes inner tagged later ih =>
    exact ih.leaf fun b token room same =>
      ⟨_, add_includes same inner tagged, .push rfl (by simp [blockNames_node, block?, bodies]) rfl⟩
  | creates first second tagged later ih =>
    exact ih.leaf fun b token room same =>
      ⟨_, add_creates same first second tagged,
        .push rfl (by simp [blockNames_node, block?, bodies]) rfl⟩

end Runs

end Source

end TextTemplate

import TextTemplate.Proofs.Template.Tree
import TextTemplate.Proofs.Source.Taking
import TextTemplate.Engine.Library
/-!
# What reading a source guarantees

A builder adds one token after another. `Builder.Adds` lists what a token can do to it; a builder is
`Sound` if its table holds the blocks of all forests that it has gathered so far, each name once,
and a node that inherits can stand in the outermost of them alone. Every token keeps this, so every
template that was read is regular, and so is every template of a library that holds only such.
-/
namespace TextTemplate

namespace Source

/-- The forests that an open construct keeps: its first part, once it was divided, and the nodes
before it. -/
def Frame.forests (frame : Frame) : List (List Node) :=
  frame.divided.toList ++ [frame.before.toList]

namespace Builder

open Node

/-- The forests that a builder has gathered, innermost first. -/
def forests (b : Builder) : List (List Node) :=
  b.nodes.toList :: b.frames.flatMap Frame.forests

/-- What one token does to a builder. -/
inductive Adds : Builder → Builder → Prop
  | text (b : Builder) (s : String) : Adds b { b with nodes := b.nodes.push (.text s) }
  | leaf (b : Builder) {node : Node} (flat : node.bodies = []) (named : node.block? = none)
    (goesOn : Render.isLast node = false) : Adds b (b.push node)
  | inherits (b : Builder) (parent : Expr) (fresh : b.started = false) (outermost : b.frames = []) :
    Adds b (b.push (.inherits parent))
  | opened (b : Builder) (opening : Opening) (line : Nat) :
    Adds b { b with
      nodes := #[], frames := ⟨opening, line, b.nodes, none⟩ :: b.frames, started := true }
  | divided (b : Builder) {frame : Frame} {outer : List Frame}
    (innermost : b.frames = frame :: outer)
    (whole : frame.divided = none) (divides : ∀ name, frame.opening ≠ .block name) :
    Adds b { b with nodes := #[], frames := { frame with divided := some b.nodes.toList } :: outer }
  | closed (b : Builder) {frame : Frame} {outer : List Frame}
    (innermost : b.frames = frame :: outer)
    (unnamed : ∀ name, frame.opening ≠ .block name) : Adds b (b.closeFrame frame outer)
  | closedBlock (b : Builder) {frame : Frame} {outer : List Frame} {name : String}
    (innermost : b.frames = frame :: outer) (named : frame.opening = .block name)
    (new : b.blocks.get? name = none) :
    Adds b { b.closeFrame frame outer with blocks := b.blocks.insert name b.nodes.toList }

/-- What a builder does in each of the ways in which it takes a token. -/
theorem Takes.adds {b built : Builder} {line : Nat} {reading : Reading}
    (takes : b.Takes line reading built) : Adds b built := by
  cases takes with
  | text s => exact .text b s
  | «variable» filled laid written => exact .leaf b rfl rfl rfl
  | inherits laid written fresh outermost => exact .inherits b _ fresh outermost
  | includes laid written => exact .leaf b rfl rfl rfl
  | creates laid first second => exact .leaf b rfl rfl rfl
  | opened laid written room => exact .opened b _ line
  | divided innermost whole divides bare =>
    refine .divided b innermost whole fun name block => ?_
    rw [block] at divides
    cases divides
  | closed innermost unnamed bare => exact .closed b innermost unnamed
  | closedBlock innermost named ends new =>
    exact .closedBlock b innermost named (by simpa [Table.contains] using new)

/-- What a token does. -/
theorem adds_of_add {b built : Builder} {token : Token} (added : b.add token = .ok built) :
    Adds b built := (takes_of_add added).adds

/-- In every forest but the outermost nothing inherits, and there only at the top. -/
def Layered : List (List Node) → Prop
  | [] => False
  | [outermost] => InheritsFirst outermost
  | inner :: next :: rest => Standalone inner ∧ Layered (next :: rest)

/-- An empty forest can be begun inside others. -/
theorem Layered.opened {forests : List (List Node)} (layered : Layered forests) :
    Layered ([] :: forests) := by
  cases forests with
  | nil => exact layered.elim
  | cons next rest => exact ⟨fun node inside => by simp at inside, layered⟩

/-- The innermost forest can grow by trees of which none inherits. -/
theorem Layered.append {forest more : List Node} {rest : List (List Node)}
    (layered : Layered (forest :: rest)) (alone : Standalone more) :
    Layered ((forest ++ more) :: rest) := by
  cases rest with
  | nil => exact InheritsFirst.append layered alone
  | cons next rest => exact ⟨layered.1.append alone, layered.2⟩

/-- The node of an open construct, made of forests in which nothing inherits. -/
theorem standalone_node (opening : Opening) {first second : List Node} (alone : Standalone first)
    (alone' : Standalone second) : Standalone [opening.node first second] := by
  intro node inside
  cases opening <;>
    simp only [Opening.node, allIn_cons, allIn_nil, all, List.append_nil, List.mem_cons,
      List.mem_append] at inside
  · rcases inside with rfl | inFirst | inSecond
    · rfl
    · exact alone node inFirst
    · exact alone' node inSecond
  · rcases inside with rfl | inFirst | inSecond
    · rfl
    · exact alone node inFirst
    · exact alone' node inSecond
  · rcases inside with rfl | inFirst
    · rfl
    · exact alone node inFirst

/-- Closing a construct leaves the forests layered. -/
theorem Layered.closed {frame : Frame} {nodes : List Node} {rest : List (List Node)}
    (layered : Layered (nodes :: (frame.forests ++ rest))) :
    Layered ((frame.before.toList ++ [finished frame nodes]) :: rest) := by
  unfold Frame.forests at layered
  unfold finished
  cases part : frame.divided with
  | none =>
    rw [part] at layered
    have alone : Standalone [frame.opening.node nodes []] :=
      standalone_node frame.opening layered.1 fun node inside => by simp at inside
    exact Layered.append layered.2 alone
  | some first =>
    rw [part] at layered
    have alone : Standalone [frame.opening.node first nodes] :=
      standalone_node frame.opening layered.2.1 layered.1
    exact Layered.append layered.2.2 alone

/-- What a builder satisfies at every token. -/
structure Sound (b : Builder) : Prop where
  /-- The table holds the blocks of the gathered forests. -/
  blocks : (b.forests.flatMap blocksIn).Perm b.blocks.entries
  /-- No two blocks have one name. -/
  keys : b.blocks.keys.Nodup
  /-- The construct of a block has one part. -/
  whole : ∀ frame ∈ b.frames, ∀ name, frame.opening = .block name → frame.divided = none
  /-- Before any variable or tag there is text alone. -/
  quiet : b.started = false → b.frames = [] ∧ ∀ node ∈ b.nodes.toList, node.isText = true
  /-- A node inherits at the top of the outermost forest alone. -/
  layered : Layered b.forests

/-- A builder is sound at the start. -/
theorem sound_start : Sound start where
  blocks := by simp [forests, start]
  keys := List.nodup_nil
  whole := by simp [start]
  quiet := by simp [start]
  layered := .inl fun node inside => by simp [start] at inside

/-- Closing a construct that is no block keeps the blocks that were gathered. -/
theorem perm_of_closed {frame : Frame} (unnamed : ∀ name, frame.opening ≠ .block name)
    (nodes : List Node) :
    (blocksIn (frame.before.toList ++ [finished frame nodes])).Perm
      (blocksIn nodes ++ frame.forests.flatMap blocksIn) := by
  have parts (first second : List Node) :
      blocksIn [frame.opening.node first second] = blocksIn first ++ blocksIn second := by
    cases shape : frame.opening with
    | block name => exact absurd shape (unnamed name)
    | forEach => simp [Opening.node, blocksIn_cons, bodies, block?]
    | condition => simp [Opening.node, blocksIn_cons, bodies, block?]
  rw [blocksIn_append]
  unfold finished Frame.forests
  cases frame.divided with
  | none => simpa [parts] using List.perm_append_comm
  | some first =>
    simp only [parts, Option.toList_some, List.cons_append, List.nil_append, List.flatMap_cons,
      List.flatMap_nil, List.append_nil]
    refine List.perm_append_comm.trans ?_
    rw [List.append_assoc]
    exact List.perm_append_comm_assoc _ _ _

/-- Closing a block adds it to those that were gathered. -/
theorem perm_of_closedBlock {frame : Frame} {name : String} (named : frame.opening = .block name)
    (whole : frame.divided = none) (nodes : List Node) :
    (blocksIn (frame.before.toList ++ [finished frame nodes])).Perm
      (blocksIn nodes ++ frame.forests.flatMap blocksIn ++ [(name, nodes)]) := by
  have block : finished frame nodes = .block name nodes := by
    simp [finished, whole, named, Opening.node]
  rw [block, blocksIn_append, blocksIn_cons]
  simp only [block?, bodies, Frame.forests, whole, Option.toList_none, Option.toList_some,
    List.flatMap_cons, List.flatMap_nil, List.append_nil, List.nil_append, blocksIn_nil]
  refine List.perm_append_comm.trans ?_
  rw [List.append_assoc]
  exact List.perm_append_comm.trans (by rw [List.append_assoc])

/-- A node without lists adds no block. -/
theorem blocksIn_flat {node : Node} (flat : node.bodies = []) (unnamed : node.block? = none) :
    blocksIn [node] = [] := by
  simp [blocksIn_cons, flat, unnamed]

/-- One more node without lists at the end of the innermost forest keeps the table true. -/
theorem perm_of_pushed {b : Builder} (sound : b.Sound) {node : Node} (flat : node.bodies = [])
    (unnamed : node.block? = none) :
    (((b.nodes.push node).toList :: b.frames.flatMap Frame.forests).flatMap blocksIn).Perm
      b.blocks.entries := by
  have kept := sound.blocks
  rw [forests, List.flatMap_cons] at kept
  rw [List.flatMap_cons, Array.toList_push, blocksIn_append, blocksIn_flat flat unnamed,
    List.append_nil]
  exact kept

section Innermost

variable {b : Builder} {frame : Frame} {outer : List Frame}

/-- Where a construct is open some variable or tag was read. -/
theorem Sound.started (sound : b.Sound) (innermost : b.frames = frame :: outer) :
    b.started ≠ false := by
  intro fresh
  have outermost := (sound.quiet fresh).1
  rw [innermost] at outermost
  cases outermost

/-- A construct around the innermost one has one part if it is a block. -/
theorem Sound.whole_outer (sound : b.Sound) (innermost : b.frames = frame :: outer) :
    ∀ around ∈ outer, ∀ name, around.opening = .block name → around.divided = none :=
  fun around inside => sound.whole around (innermost ▸ List.mem_cons_of_mem _ inside)

/-- The gathered blocks are those inside the innermost construct, those that it keeps and those of
the constructs around it. -/
theorem Sound.blocks_innermost (sound : b.Sound) (innermost : b.frames = frame :: outer) :
    (blocksIn b.nodes.toList ++ frame.forests.flatMap blocksIn ++
      (outer.flatMap Frame.forests).flatMap blocksIn).Perm b.blocks.entries := by
  have gathered := sound.blocks
  rwa [forests, innermost, List.flatMap_cons, List.flatMap_cons, List.flatMap_append,
    ← List.append_assoc] at gathered

/-- The forests stay layered when the innermost construct is closed. -/
theorem Sound.layered_closeFrame (sound : b.Sound) (innermost : b.frames = frame :: outer) :
    Layered (b.closeFrame frame outer).forests := by
  have layered := sound.layered
  rw [forests, innermost, List.flatMap_cons] at layered
  rw [forests, closeFrame, Array.toList_push]
  exact layered.closed

end Innermost

/-- A name under which no block is found is none of those that are taken. -/
theorem Sound.not_mem_keys {b : Builder} {name : String} (sound : b.Sound)
    (new : b.blocks.get? name = none) : name ∉ b.blocks.keys := by
  intro bound
  obtain ⟨⟨key, body⟩, found, rfl⟩ := List.mem_map.mp bound
  rw [(Table.get?_eq_some_iff sound.keys).mpr found] at new
  cases new

/-- One more token keeps a builder sound. -/
theorem Sound.adds {b built : Builder} (sound : b.Sound) (step : Adds b built) : built.Sound := by
  cases step with
  | text s =>
    refine ⟨perm_of_pushed sound rfl rfl, sound.keys, sound.whole, fun fresh => ?_, ?_⟩
    · obtain ⟨outermost, texts⟩ := sound.quiet fresh
      refine ⟨outermost, fun node inside => ?_⟩
      rw [Array.toList_push, List.mem_append, List.mem_singleton] at inside
      rcases inside with before | rfl
      · exact texts node before
      · rfl
    · rw [forests, Array.toList_push]
      exact sound.layered.append (.of_flat rfl rfl)
  | leaf flat named goesOn =>
    refine ⟨perm_of_pushed sound flat named, sound.keys, sound.whole, nofun, ?_⟩
    rw [forests, push, Array.toList_push]
    exact sound.layered.append (.of_flat flat goesOn)
  | inherits parent fresh outermost =>
    refine ⟨perm_of_pushed sound rfl rfl, sound.keys, sound.whole, nofun, ?_⟩
    obtain ⟨-, texts⟩ := sound.quiet fresh
    rw [forests, push, Array.toList_push, outermost]
    exact .inr ⟨b.nodes.toList, parent, [], rfl, texts, fun node inside => by simp at inside⟩
  | opened opening line =>
    refine ⟨?_, sound.keys, ?_, nofun, ?_⟩
    · simpa [forests, Frame.forests] using sound.blocks
    · intro frame inside name named
      rcases List.mem_cons.mp inside with rfl | outer
      · rfl
      · exact sound.whole frame outer name named
    · simpa [forests, Frame.forests] using sound.layered.opened
  | divided innermost whole divides =>
    refine ⟨?_, sound.keys, ?_, fun fresh => absurd fresh (sound.started innermost), ?_⟩
    · simpa [forests, Frame.forests, innermost, whole] using sound.blocks
    · intro frame inside name named
      rcases List.mem_cons.mp inside with rfl | outer
      · exact absurd named (divides name)
      · exact sound.whole_outer innermost frame outer name named
    · simpa [forests, Frame.forests, innermost, whole] using sound.layered.opened
  | closed innermost unnamed =>
    refine ⟨?_, sound.keys, sound.whole_outer innermost,
      fun fresh => absurd fresh (sound.started innermost), sound.layered_closeFrame innermost⟩
    rw [forests, closeFrame, List.flatMap_cons, Array.toList_push]
    exact ((perm_of_closed unnamed _).append_right _).trans (sound.blocks_innermost innermost)
  | @closedBlock frame outer name innermost named new =>
    refine ⟨?_, ?_, sound.whole_outer innermost,
      fun fresh => absurd fresh (sound.started innermost), sound.layered_closeFrame innermost⟩
    · have whole : frame.divided = none :=
        sound.whole frame (by rw [innermost]; exact List.mem_cons_self) name named
      have gathered := sound.blocks_innermost innermost
      rw [forests, closeFrame, List.flatMap_cons, Array.toList_push,
        Table.entries_insert_of_get?_eq_none _ new]
      refine ((perm_of_closedBlock named whole _).append_right _).trans ?_
      rw [List.append_assoc]
      exact (List.perm_append_comm.append_left _).trans
        (by rw [← List.append_assoc]; exact gathered.append_right _)
    · rw [Table.keys, Table.entries_insert_of_get?_eq_none _ new, List.map_append]
      refine List.nodup_append.mpr ⟨sound.keys, by simp, ?_⟩
      rintro key bound other last rfl
      have same : key = name := by simpa using last
      exact sound.not_mem_keys new (same ▸ bound)

/-- Any tokens keep a builder sound. -/
theorem Sound.addAll {tokens : List Token} {b built : Builder} (sound : b.Sound)
    (succeeded : b.addAll tokens = .ok built) : built.Sound := by
  induction tokens generalizing b with
  | nil =>
    cases succeeded
    exact sound
  | cons token rest ih =>
    rw [Builder.addAll, List.foldlM_cons] at succeeded
    obtain ⟨next, added, later⟩ := ok_of_bind succeeded
    exact ih (sound.adds (adds_of_add added)) later

end Builder

/-- A template that was read has the name under which it was read and is regular. -/
theorem regular_of_parse {name : String} {source : List Char} {t : Template}
    (read : parse name source = .ok t) : t.name = name ∧ t.Regular := by
  obtain ⟨tokens, _, read⟩ := Builder.ok_of_bind read
  obtain ⟨built, added, finished⟩ := Builder.ok_of_bind read
  have sound := Builder.sound_start.addAll added
  unfold Builder.finish at finished
  split at finished
  · rename_i closed
    cases finished
    have gathered := sound.blocks
    have layered := sound.layered
    rw [Builder.forests, closed] at gathered layered
    refine ⟨rfl, fun key body => ?_, layered⟩
    rw [Table.get?_eq_some_iff sound.keys, ← gathered.mem_iff]
    simp
  · cases finished

end Source

/-- The source of a tag. -/
def Source.tag (content : String) : String := "\x7b% " ++ content ++ " %\x7d"

/-- A template that was read from a source under its name. -/
def Template.Parsed (t : Template) : Prop := ∃ source, Source.parse t.name source = .ok t

/-- A template that was read from a source is regular. -/
theorem Template.Parsed.regular {t : Template} (parsed : t.Parsed) : t.Regular := by
  obtain ⟨source, read⟩ := parsed
  exact (Source.regular_of_parse read).2

namespace Library

/-- A library whose templates were read from sources, each under the name by which it is known. -/
def Parsed (library : Library) : Prop :=
  ∀ key t, library.get? key = some t → t.name = key ∧ t.Parsed

/-- A library without templates holds only such. -/
theorem parsed_empty : Parsed ∅ := fun _ _ found => by cases found

/-- A template that is read under its name can be added to such a library. -/
theorem Parsed.insert {library : Library} (parsed : library.Parsed) {key : String}
    {source : List Char} {t : Template} (read : Source.parse key source = .ok t) :
    Parsed (library.insert key t) := by
  intro other known found
  rw [Table.get?_insert] at found
  split at found
  · rename_i same
    cases found
    have name := (Source.regular_of_parse read).1
    exact ⟨name.trans same, source, by rw [name]; exact read⟩
  · exact parsed other known found

/-- Registering a template keeps a library parsed. -/
theorem Parsed.register {library after : Library} (parsed : library.Parsed) {name source : String}
    {t : Template} (registered : library.register name source = .ok (t, after)) :
    after.Parsed := by
  unfold Library.register at registered
  dsimp only at registered
  split at registered
  · rename_i read
    cases registered
    exact parsed.insert read
  · cases registered

/-- The template that the file of a normalised name holds. -/
def fetch (config : Config) (files : FileTree) (key : String) : Except RenderError Template :=
  match readSource config files key with
  | .error error => .error error
  | .ok source =>
    match Source.parse key source.toList with
    | .ok t => .ok t
    | .error error => .error (.parse key error)

/-- A template that is not known is read from its file and known from then on. -/
theorem load_eq (library : Library) (config : Config) (files : FileTree) (name : String) :
    library.load config files name =
      match library.get? (normalise name) with
      | some t => .ok (t, library)
      | none =>
        match fetch config files (normalise name) with
        | .error error => .error error
        | .ok t => .ok (t, library.insert (normalise name) t) := by
  unfold load fetch
  dsimp only
  cases library.get? (normalise name) with
  | some t => rfl
  | none =>
    cases readSource config files (normalise name) with
    | error error => rfl
    | ok source =>
      dsimp only
      cases Source.parse (normalise name) source.toList <;> rfl

/-- A template that a file holds was read under the name that it was looked for. -/
theorem parse_of_fetch {config : Config} {files : FileTree} {key : String} {t : Template}
    (fetched : fetch config files key = .ok t) : ∃ source, Source.parse key source = .ok t := by
  unfold fetch at fetched
  split at fetched
  · cases fetched
  · split at fetched
    · rename_i read
      cases fetched
      exact ⟨_, read⟩
    · cases fetched

/-- Loading fails since there is no file, the file cannot be read, or its source is wrong. -/
theorem fetch_error {config : Config} {files : FileTree} {key : String}
    {error : RenderError} (failed : Library.fetch config files key = .error error) :
    (∃ path, error = .notFound key path) ∨ (∃ failure, error = .file failure) ∨
      ∃ fault, error = .parse key fault := by
  unfold fetch readSource at failed
  cases file : files.isFile (path config key) with
  | false =>
    simp only [file, Bool.false_eq_true, if_false, Except.error.injEq] at failed
    exact .inl ⟨_, failed.symm⟩
  | true =>
    cases read : files.readText (path config key) with
    | error cause =>
      simp only [file, read, if_true, Except.mapError, Except.error.injEq] at failed
      exact .inr (.inl ⟨_, failed.symm⟩)
    | ok source =>
      simp only [file, read, if_true, Except.mapError] at failed
      split at failed
      · cases failed
      · cases failed
        exact .inr (.inr ⟨_, rfl⟩)

/-- What loading a template may do: find one that is known, or read one and know it from then on. -/
theorem load_cases {library after : Library} {config : Config} {files : FileTree} {name : String}
    {t : Template} (loaded : library.load config files name = .ok (t, after)) :
    (library.get? (normalise name) = some t ∧ after = library) ∨
      (library.get? (normalise name) = none ∧ after = library.insert (normalise name) t ∧
        ∃ source, Source.parse (normalise name) source = .ok t) := by
  rw [load_eq] at loaded
  split at loaded
  · rename_i known
    cases loaded
    exact .inl ⟨known, rfl⟩
  · rename_i unknown
    split at loaded
    · cases loaded
    · rename_i fetched
      cases loaded
      exact .inr ⟨unknown, rfl, parse_of_fetch fetched⟩

/-- A template is known once it was loaded. -/
theorem get?_of_load {library after : Library} {config : Config} {files : FileTree} {name : String}
    {t : Template} (loaded : library.load config files name = .ok (t, after)) :
    after.get? (normalise name) = some t := by
  rcases load_cases loaded with ⟨known, rfl⟩ | ⟨-, rfl, -⟩
  · exact known
  · rw [Table.get?_insert, if_pos rfl]

/-- Loading a template keeps a library parsed and gives a template that was read under its name. -/
theorem Parsed.load {library after : Library} (parsed : library.Parsed) {config : Config}
    {files : FileTree} {name : String} {t : Template}
    (loaded : library.load config files name = .ok (t, after)) :
    after.Parsed ∧ t.name = normalise name ∧ t.Parsed := by
  rcases load_cases loaded with ⟨known, rfl⟩ | ⟨-, rfl, source, read⟩
  · exact ⟨parsed, parsed _ _ known⟩
  · have name := (Source.regular_of_parse read).1
    exact ⟨parsed.insert read, name, source, by rw [name]; exact read⟩

end Library

end TextTemplate

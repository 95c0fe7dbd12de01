import TextTemplate.Proofs.Source.Building
import TextTemplate.Proofs.Source.Seam
/-!
# Joining two sources

A builder that stands on another one has the constructs open that the other has, with the same nodes
in them but for the lines, after nodes and blocks of its own (`Over`). What one token does to the
one it does to the other, unless a block of the token has a name that is taken below or the token
inherits. So if two sources are read and the second neither inherits nor has a block in common with
the first, the first followed by the second is read, and its nodes are those of the two: only the
text that the cut divides is one node (`parse_append`).
-/
namespace TextTemplate.Source

open TextTemplate Node

/-- The node of a text between marks; empty text makes none. -/
def textNode (text : List Char) : List Node :=
  if text.isEmpty then [] else [.text (String.ofList text)]

/-- No text makes no node. -/
theorem textNode_nil : textNode [] = [] := rfl

/-- A text makes one node. -/
theorem textNode_of_ne_nil {text : List Char} (some : text ≠ []) :
    textNode text = [.text (String.ofList text)] := by
  rw [textNode, if_neg (by simpa using some)]

namespace Builder

/-- All nodes that a builder has gathered. -/
def gathered (b : Builder) : List Node := b.forests.flatMap allIn

section Gathering

variable {b built : Builder} {tokens : List Token}

/-- A construct holds what was gathered in it when it is closed. -/
theorem gathered_closeFrame {frame : Frame} {outer : List Frame}
    (innermost : b.frames = frame :: outer)
    (whole : ∀ name, frame.opening = .block name → frame.divided = none) :
    b.gathered ⊆ (b.closeFrame frame outer).gathered := by
  have inside : ∀ node, node ∈ allIn b.nodes.toList ∨ node ∈ frame.divided.toList.flatMap allIn →
      node ∈ allIn [finished frame b.nodes.toList] := by
    intro node held
    unfold finished
    cases part : frame.divided with
    | none =>
      rw [part] at held
      have here : node ∈ allIn b.nodes.toList := by simpa using held
      cases frame.opening <;> simp [Opening.node, all, here]
    | some first =>
      have parts : node ∈ allIn first ∨ node ∈ allIn b.nodes.toList := by
        simpa [part, or_comm] using held
      cases opening : frame.opening with
      | block name =>
        rw [whole name opening] at part
        cases part
      | forEach => simp [Opening.node, all, parts]
      | condition => simp [Opening.node, all, parts]
  intro node held
  simp only [gathered, forests, innermost, closeFrame, Frame.forests, List.flatMap_cons,
    List.flatMap_append, List.flatMap_nil, List.append_nil, Array.toList_push, allIn_append,
    List.mem_append] at held ⊢
  rcases held with here | (first | before) | later
  · exact .inl (.inr (inside node (.inl here)))
  · exact .inl (.inr (inside node (.inr first)))
  · exact .inl (.inl before)
  · exact .inr later

/-- What was gathered stays. -/
theorem Sound.gathered_subset (sound : b.Sound) (step : Adds b built) :
    b.gathered ⊆ built.gathered := by
  have pushed (node : Node) (started : Bool) :
      b.gathered ⊆ gathered { b with nodes := b.nodes.push node, started := started } := by
    intro inner inside
    simp only [gathered, forests, List.flatMap_cons, Array.toList_push, allIn_append,
      List.mem_append] at inside ⊢
    exact inside.imp .inl id
  cases step with
  | text s => exact pushed (.text s) b.started
  | @leaf leaf flat named goesOn => exact pushed leaf true
  | inherits parent fresh outermost => exact pushed (.inherits parent) true
  | opened opening line => simp [gathered, forests, Frame.forests]
  | divided innermost whole divides => simp [gathered, forests, Frame.forests, innermost, whole]
  | @closed frame outer innermost unnamed =>
    exact gathered_closeFrame innermost fun name named => absurd named (unnamed name)
  | @closedBlock frame outer name innermost named new =>
    exact gathered_closeFrame innermost
      (sound.whole frame (by rw [innermost]; exact List.mem_cons_self))

/-- The names that are taken stay taken. -/
theorem Adds.contains (step : Adds b built) {name : String}
    (taken : b.blocks.contains name = true) : built.blocks.contains name = true := by
  cases step with
  | closedBlock innermost named new =>
    rw [Table.contains_insert, taken, Bool.or_true]
  | _ => exact taken

/-- What was gathered stays, and the names that are taken stay taken. -/
theorem Sound.kept (sound : b.Sound) (added : b.addAll tokens = .ok built) :
    b.gathered ⊆ built.gathered ∧
      ∀ name, b.blocks.contains name = true → built.blocks.contains name = true := by
  induction tokens generalizing b with
  | nil =>
    cases added
    exact ⟨List.Subset.refl _, fun _ => id⟩
  | cons token tokens ih =>
    rw [Builder.addAll, List.foldlM_cons] at added
    obtain ⟨next, first, later⟩ := ok_of_bind added
    have step := adds_of_add first
    obtain ⟨gathered, taken⟩ := ih (sound.adds step) later
    exact ⟨List.Subset.trans (sound.gathered_subset step) gathered,
      fun name before => taken name (step.contains before)⟩

end Gathering

end Builder

/-- The open constructs of two builders, innermost first, with the nodes in them: they are the same
but for the lines, and the outermost nodes begin with others. -/
inductive Stacked (front front' : List Node) :
    List Node → List Frame → List Node → List Frame → Prop
  | outermost {ns ns' : List Node} (same : unlinedIn ns' = unlinedIn ns) :
    Stacked front front' (front ++ ns) [] (front' ++ ns') []
  | inner {ns ns' : List Node} {frame frame' : Frame} {outer outer' : List Frame}
    (same : unlinedIn ns' = unlinedIn ns) (opening : frame'.opening = frame.opening)
    (part : frame'.divided.map unlinedIn = frame.divided.map unlinedIn)
    (around : Stacked front front' frame.before.toList outer frame'.before.toList outer') :
    Stacked front front' ns (frame :: outer) ns' (frame' :: outer')

/-- A builder does what another one does, after nodes and blocks of its own. -/
structure Over (front front' : List Node) (below : Table String (List Node)) (b b' : Builder) :
    Prop where
  /-- The constructs are the same. -/
  stacked : Stacked front front' b.nodes.toList b.frames b'.nodes.toList b'.frames
  /-- The names of the blocks are taken. -/
  names : ∀ name, b'.blocks.contains name = (below.contains name || b.blocks.contains name)

section Stacked

variable {front front' ns ns' : List Node} {fs fs' : List Frame}

/-- Both builders have as many constructs open. -/
theorem Stacked.length (stacked : Stacked front front' ns fs ns' fs') : fs'.length = fs.length := by
  induction stacked with
  | outermost => rfl
  | inner same opening part around ih => rw [List.length_cons, List.length_cons, ih]

/-- Nodes that are the same but for the lines are added on both sides. -/
theorem Stacked.push (stacked : Stacked front front' ns fs ns' fs') {node node' : Node}
    (same : node'.unlined = node.unlined) :
    Stacked front front' (ns ++ [node]) fs (ns' ++ [node']) fs' := by
  have added {ms ms' : List Node} (before : unlinedIn ms' = unlinedIn ms) :
      unlinedIn (ms' ++ [node']) = unlinedIn (ms ++ [node]) := by
    simp [before, same]
  cases stacked with
  | outermost before =>
    rw [List.append_assoc, List.append_assoc]
    exact .outermost (added before)
  | inner before opening part around => exact .inner (added before) opening part around

/-- Where no construct is open on the one side there is none on the other. -/
theorem Stacked.of_nil (stacked : Stacked front front' ns [] ns' fs') :
    fs' = [] ∧ ∃ ms ms', ns = front ++ ms ∧ ns' = front' ++ ms' ∧ unlinedIn ms' = unlinedIn ms := by
  cases stacked with
  | outermost same => exact ⟨rfl, _, _, rfl, rfl, same⟩

/-- If the one has a construct open so has the other, and it is the same but for lines. -/
theorem Stacked.of_cons {frame : Frame} {outer : List Frame}
    (stacked : Stacked front front' ns (frame :: outer) ns' fs') :
    ∃ frame' outer', fs' = frame' :: outer' ∧ unlinedIn ns' = unlinedIn ns ∧
      frame'.opening = frame.opening ∧
      frame'.divided.map unlinedIn = frame.divided.map unlinedIn ∧
      Stacked front front' frame.before.toList outer frame'.before.toList outer' := by
  cases stacked with
  | inner same opening part around => exact ⟨_, _, rfl, same, opening, part, around⟩

end Stacked

section Over

variable {front front' : List Node} {below : Table String (List Node)} {b b' built : Builder}
  {line line' : Nat}

/-- Both go on alike with a node that is the same but for lines. -/
theorem Over.push (atop : Over front front' below b b') {node node' : Node}
    (same : node'.unlined = node.unlined) :
    Over front front' below (b.push node) (b'.push node') where
  stacked := by
    simp only [Builder.push, Array.toList_push]
    exact atop.stacked.push same
  names := atop.names

/-- Both go on alike with a text. -/
theorem Over.text (atop : Over front front' below b b') (s : String) :
    Over front front' below { b with nodes := b.nodes.push (.text s) }
      { b' with nodes := b'.nodes.push (.text s) } where
  stacked := by
    simp only [Array.toList_push]
    exact atop.stacked.push rfl
  names := atop.names

variable {frame frame' : Frame} {outer outer' : List Frame}
  (same : unlinedIn b'.nodes.toList = unlinedIn b.nodes.toList)
  (opening : frame'.opening = frame.opening)
  (part : frame'.divided.map unlinedIn = frame.divided.map unlinedIn)
  (around : Stacked front front' frame.before.toList outer frame'.before.toList outer')

include same opening part around in
/-- The node of a construct that is closed is added on both sides. -/
theorem stacked_closeFrame :
    Stacked front front' (b.closeFrame frame outer).nodes.toList outer
      (b'.closeFrame frame' outer').nodes.toList outer' := by
  have node : (Builder.finished frame' b'.nodes.toList).unlined =
      (Builder.finished frame b.nodes.toList).unlined := by
    unfold Builder.finished
    rw [opening]
    cases first : frame.divided with
    | none =>
      rw [first, Option.map_none, Option.map_eq_none_iff] at part
      rw [part]
      exact unlined_construct same rfl
    | some nodes =>
      rw [first, Option.map_some] at part
      obtain ⟨nodes', first', same'⟩ := Option.map_eq_some_iff.mp part
      rw [first']
      exact unlined_construct same' same
  simp only [Builder.closeFrame, Array.toList_push]
  exact around.push node

end Over

section Joining

variable {front front' : List Node} {below : Table String (List Node)} {b b' built : Builder}
  {token token' : Token}

/-- What is read of a token does the same on both sides, unless it inherits or closes a block whose
name is taken below. -/
theorem Over.takes (atop : Over front front' below b b') {line line' : Nat} {reading : Reading}
    (takes : b.Takes line reading built)
    (goesOn : ∀ node ∈ built.gathered, Render.isLast node = false)
    (fresh : ∀ name, built.blocks.contains name = true → below.contains name = false) :
    ∃ built', b'.Takes line' reading built' ∧ Over front front' below built built' := by
  have stacked := atop.stacked
  cases takes with
  | text s => exact ⟨_, .text s, atop.text s⟩
  | «variable» filled laid written => exact ⟨_, .variable filled laid written, atop.push rfl⟩
  | @inherits _ parent _ laid written started outermost =>
    have last := goesOn (.inherits parent) (by
      simp [Builder.gathered, Builder.forests, Builder.push, mem_all_self])
    cases last
  | includes laid written => exact ⟨_, .includes laid written, atop.push rfl⟩
  | creates laid first second =>
    exact ⟨_, .creates laid first second, atop.push (by simp [unlined])⟩
  | opened laid written room =>
    refine ⟨_, .opened laid written (by rwa [stacked.length]), ?_⟩
    exact ⟨.inner rfl rfl rfl stacked, atop.names⟩
  | @divided _ frame outer name innermost whole divides bare =>
    rw [innermost] at stacked
    obtain ⟨frame', outer', innermost', same, opening, part, around⟩ := stacked.of_cons
    have whole' : frame'.divided = none := by simpa [whole] using part
    refine ⟨_, .divided innermost' whole' (by rw [opening, divides]) bare, ?_, atop.names⟩
    exact .inner rfl opening (congrArg Option.some same) around
  | @closed _ frame outer innermost unnamed bare =>
    rw [innermost] at stacked
    obtain ⟨frame', outer', innermost', same, opening, part, around⟩ := stacked.of_cons
    rw [← opening] at unnamed ⊢
    refine ⟨_, .closed innermost' unnamed bare, ?_, atop.names⟩
    exact stacked_closeFrame same opening part around
  | @closedBlock _ frame outer name innermost named ends new =>
    rw [innermost] at stacked
    obtain ⟨frame', outer', innermost', same, opening, part, around⟩ := stacked.of_cons
    have free : below.contains name = false := fresh name (by simp [Table.contains_insert])
    have new' : b'.blocks.contains name = false := by rw [atop.names, free, new, Bool.or_self]
    refine ⟨_, .closedBlock innermost' (opening.trans named) ends new', ?_, fun other => ?_⟩
    · exact stacked_closeFrame same opening part around
    · rw [Table.contains_insert, Table.contains_insert, atop.names, Bool.or_left_comm]

/-- A token does the same on both sides. -/
theorem Over.add (atop : Over front front' below b b') (said : token'.saying = token.saying)
    (added : b.add token = .ok built)
    (goesOn : ∀ node ∈ built.gathered, Render.isLast node = false)
    (fresh : ∀ name, built.blocks.contains name = true → below.contains name = false) :
    ∃ built', b'.add token' = .ok built' ∧ Over front front' below built built' := by
  have reading : token'.reading = token.reading := by
    obtain ⟨kind, content, line⟩ := token
    obtain ⟨kind', content', line'⟩ := token'
    cases said
    rfl
  obtain ⟨built', takes, atop'⟩ := atop.takes (Builder.takes_of_add added) goesOn fresh
  refine ⟨built', ?_, atop'⟩
  rw [Builder.add, reading]
  exact takes.added

/-- Tokens do the same on both sides. -/
theorem Over.addAll {tokens tokens' : List Token} (atop : Over front front' below b b')
    (said : tokens'.map Token.saying = tokens.map Token.saying) (sound : b.Sound)
    (added : b.addAll tokens = .ok built)
    (goesOn : ∀ node ∈ built.gathered, Render.isLast node = false)
    (fresh : ∀ name, built.blocks.contains name = true → below.contains name = false) :
    ∃ built', b'.addAll tokens' = .ok built' ∧ Over front front' below built built' := by
  induction tokens generalizing b b' tokens' with
  | nil =>
    cases added
    rw [List.map_eq_nil_iff.mp said]
    exact ⟨b', rfl, atop⟩
  | cons token tokens ih =>
    obtain ⟨token', rest, rfl, first, others⟩ := List.map_eq_cons_iff.mp said
    rw [Builder.addAll, List.foldlM_cons] at added
    obtain ⟨next, step, later⟩ := Builder.ok_of_bind added
    have sound' : next.Sound := sound.adds (Builder.adds_of_add step)
    obtain ⟨gathered, taken⟩ := sound'.kept later
    obtain ⟨next', step', atop'⟩ := atop.add first step
      (fun node inside => goesOn node (gathered inside))
      fun name before => fresh name (taken name before)
    rw [addAll_cons step']
    exact ih atop' others sound' later

end Joining

section Reading

variable {name : String} {front back : List Char} {t u : Template}

/-- The token of a text adds its node, if there is one. -/
theorem addAll_textToken? (b : Builder) (text : List Char) (line : Nat) :
    b.addAll (textToken? text line).toList =
      .ok { b with nodes := b.nodes ++ (textNode text).toArray } := by
  unfold textToken? textNode
  split
  · simp [Builder.addAll]
    rfl
  · simp [Builder.addAll, Builder.add_of_text]

/-- How a template was read. -/
theorem built_of_parse {source : List Char} (read : parse name source = .ok t) :
    ∃ tokens built, tokenize source = .ok tokens ∧ Builder.start.addAll tokens = .ok built ∧
      built.frames = [] ∧ t = ⟨name, built.nodes.toList, built.blocks⟩ := by
  obtain ⟨tokens, cut, rest⟩ := Builder.ok_of_bind read
  obtain ⟨built, added, finished⟩ := Builder.ok_of_bind rest
  unfold Builder.finish at finished
  split at finished
  · rename_i closed
    cases finished
    exact ⟨tokens, built, cut, added, closed, rfl⟩
  · cases finished

/-- Two sources that are read, the second of which neither inherits nor has a block in common with
the first, are read one after the other. The nodes are those of the two, but for the lines, and the
text that is divided between the two is one node. -/
theorem parse_append (read : parse name front = .ok t) (read' : parse name back = .ok u)
    (alone : Standalone u.nodes)
    (apart : ∀ block, t.blocks.contains block = true → u.blocks.contains block = false)
    (seam : Seam front back) :
    ∃ ns ms ms' blocks, t.nodes = ns ++ textNode (trailing front) ∧
      u.nodes = textNode (leading back) ++ ms ∧ unlinedIn ms' = unlinedIn ms ∧
      parse name (front ++ back) =
        .ok ⟨name, ns ++ textNode (trailing front ++ leading back) ++ ms', blocks⟩ := by
  obtain ⟨tokens, first, cut, added, closed, rfl⟩ := built_of_parse read
  obtain ⟨tokens', second, cut', added', closed', rfl⟩ := built_of_parse read'
  have legible : Legible tokens := fun token member marked d =>
    (fits_of_addAll added token member).clear marked
  obtain ⟨early, line, late, late', rfl, rfl, joined, said⟩ :=
    tokenize_append cut legible cut' seam
  obtain ⟨below, began, ended⟩ := Builder.ok_of_bind (Builder.addAll_append .. ▸ added)
  obtain ⟨start, began', ended'⟩ := Builder.ok_of_bind (Builder.addAll_append .. ▸ added')
  rw [addAll_textToken?] at ended began'
  cases ended
  cases began'
  have outermost : below.frames = [] := closed
  have atop : Over (textNode (leading back))
      (below.nodes.toList ++ textNode (trailing front ++ leading back)) below.blocks
      { Builder.start with nodes := Builder.start.nodes ++ (textNode (leading back)).toArray }
      { below with
        nodes := below.nodes ++ (textNode (trailing front ++ leading back)).toArray } := by
    refine ⟨?_, fun name => (Bool.or_false _).symm⟩
    have bare := @Stacked.outermost (textNode (leading back))
      (below.nodes.toList ++ textNode (trailing front ++ leading back)) [] [] rfl
    simpa [Builder.start, outermost] using bare
  have sound := Builder.sound_start.addAll (addAll_textToken? .start (leading back) 1)
  have goesOn : ∀ node ∈ second.gathered, Render.isLast node = false := by
    intro node inside
    refine alone node ?_
    simpa [Builder.gathered, Builder.forests, closed'] using inside
  obtain ⟨joint, built, atop'⟩ := atop.addAll said sound ended' goesOn fun block taken => by
    rw [Bool.eq_false_iff]
    intro taken'
    rw [apart block taken'] at taken
    cases taken
  have stacked := atop'.stacked
  rw [closed'] at stacked
  obtain ⟨closed'', ms, ms', shape, shape', same⟩ := stacked.of_nil
  have whole : Builder.start.addAll (early ++
      (textToken? (trailing front ++ leading back) line).toList ++ late') = .ok joint := by
    rw [List.append_assoc, addAll_append_of began, addAll_append_of (addAll_textToken? ..)]
    exact built
  refine ⟨below.nodes.toList, ms, ms', joint.blocks, by simp, shape, same, ?_⟩
  rw [parse, joined, ok_bind, whole, ok_bind, Builder.finish, closed'', shape']

end Reading

end TextTemplate.Source

import TextTemplate.Proofs.Render.Rejoining
import TextTemplate.Proofs.Source.Joining
/-!
# Rendering two sources as one

A source that is put together from two does what the two do, rendered in turn under one name: it
writes the same text, invokes the same callables, creates the same files with the same contents and
fails where one of the two fails (`Template.render_append`). Between the two there may be a text
that the cut divides: it is written at once by the whole and in two parts by the two. To a sink that
tells from the bytes what it takes this makes no difference but that, where it refuses the whole
text, it may have taken the first part of it.
-/
namespace TextTemplate

namespace Node

variable {c : Leeway}

/-- Two nodes are akin if they are the same but for the lines and do not inherit. -/
theorem akin_of_unlined {node node' : Node} (names : ∀ name, c.names name)
    (lines : ∀ line line', c.lines line line') (goesOn : Render.isLast node = false)
    (same : node'.unlined = node.unlined)
    (inside : ∀ body ∈ node.bodies, ∀ body', unlinedIn body' = unlinedIn body →
      List.Forall₂ (Akin c False) body' body) : node'.Akin c False node := by
  have reads (expr : Expr) : expr.Reads c.names := fun name _ _ => names name
  cases node <;> cases node' <;> simp only [unlined, reduceCtorEq] at same
  case text.text =>
    cases same
    exact .text _
  case variable.variable =>
    cases same
    exact .variable (reads _)
  case forEach.forEach =>
    obtain ⟨rfl, rfl, rfl, first, second⟩ := Node.forEach.inj same
    exact .forEach _ _ (reads _) (inside _ (by simp [bodies]) _ first)
      (inside _ (by simp [bodies]) _ second)
  case condition.condition =>
    obtain ⟨rfl, rfl, first, second⟩ := Node.condition.inj same
    exact .condition _ (reads _) (inside _ (by simp [bodies]) _ first)
      (inside _ (by simp [bodies]) _ second)
  case block.block =>
    obtain ⟨rfl, first⟩ := Node.block.inj same
    exact .block _ (inside _ (by simp [bodies]) _ first)
  case inherits.inherits => cases goesOn
  case includes.includes =>
    cases same
    exact .includes (reads _)
  case creates.creates =>
    obtain ⟨rfl, rfl, -⟩ := Node.creates.inj same
    exact .creates (reads _) (reads _) (lines _ _)

/-- Forests are akin if they are the same but for the lines and nothing in them inherits. -/
theorem akin_of_unlinedIn {ns ns' : List Node} (names : ∀ name, c.names name)
    (lines : ∀ line line', c.lines line line') (alone : Standalone ns)
    (same : unlinedIn ns' = unlinedIn ns) : List.Forall₂ (Akin c False) ns' ns := by
  have each : ∀ node ∈ ns, ∀ node' : Node, node'.unlined = node.unlined →
      node'.Akin c False node :=
    fun node member node' same =>
      akin_of_unlined names lines (alone node (mem_allIn_of_mem member)) same
        fun body holds body' inner =>
          have smaller := sizeOf_lt_of_mem member holds
          akin_of_unlinedIn names lines (alone.of_subset (allIn_subset_of_mem member holds)) inner
  clear alone
  induction ns generalizing ns' with
  | nil =>
    cases ns' with
    | nil => exact .nil
    | cons => simp at same
  | cons first rest ih =>
    cases ns' with
    | nil => simp at same
    | cons first' rest' =>
      rw [unlinedIn_cons, unlinedIn_cons] at same
      obtain ⟨here, later⟩ := List.cons.inj same
      exact .cons (each first List.mem_cons_self first' here)
        (ih later fun node member => each node (List.mem_cons_of_mem _ member))
termination_by sizeOf ns

end Node

/-- An ending after which one template less is being rendered. -/
def Ending.closed : Ending Unit → Ending Unit
  | .done v m => .done v { m with active := m.active.dropLast }
  | .failed error m => .failed error { m with active := m.active.dropLast }
  | .outOfFuel => .outOfFuel

/-- The end of a template keeps what a whole and its parts have in common. -/
theorem Ending.Rejoins.closed {name front back : String} {m : Machine} {whole parts : Ending Unit}
    (rejoins : Ending.Rejoins name front back m whole parts) :
    Ending.Rejoins name front back m whole.closed parts.closed := by
  cases rejoins with
  | done same => exact .done { same with }
  | failed same => exact .failed { same with }
  | @refused n k divided refuses same =>
    exact @Ending.Rejoins.refused name front back m { n with active := n.active.dropLast }
      { k with active := k.active.dropLast } divided refuses { same with }
  | outOfFuel => exact .outOfFuel

/-- A template that is entered is being rendered until its body has ended. -/
theorem Render.entering_apply (t : Template) (body : Render Unit) (m : Machine) :
    Render.entering t body m = (body { m with active := m.active ++ [t.name] }).closed := by
  unfold Render.entering Render.around
  dsimp only
  cases body { m with active := m.active ++ [t.name] } <;> rfl

section Frames

variable {setting : Setting} {t u : Template} {m : Machine}

/-- A template that is known by its name renders its nodes, if templates may nest at all. -/
theorem Template.render_knowing (room : ¬ setting.config.maxDepth ≤ 0) (fuel : Nat) :
    t.render setting (fuel + 1) (m.knowing t) =
      (Render.run setting fuel (.nodes t t.nodes) (m.begun t)).closed := by
  refine (Render.template_apply setting _ t _).trans ?_
  refine (if_neg List.not_mem_nil).trans ((if_neg room).trans ?_)
  exact Render.entering_apply t _ _

/-- Where no template may be rendered at all, a render is refused. -/
theorem Template.render_knowing_of_full (full : setting.config.maxDepth ≤ 0) (fuel : Nat) :
    t.render setting (fuel + 1) (m.knowing t) =
      .failed (.tooDeep setting.config.maxDepth t.name)
        { m.knowing t with active := [], chain := [], outcomes := #[] } := by
  refine (Render.template_apply setting _ t _).trans ?_
  exact (if_neg List.not_mem_nil).trans (if_pos full)

/-- Elsewhere two templates in turn are their nodes in turn, from one beginning. -/
theorem Template.renderInTurn_eq (room : ¬ setting.config.maxDepth ≤ 0) (fuel : Nat) :
    t.renderInTurn setting (fuel + 1) u m =
      (Render.inTurn (Render.run setting fuel (.nodes t t.nodes)) u
        (Render.run setting fuel (.nodes u u.nodes)) (m.begun t)).closed := by
  unfold Template.renderInTurn Render.inTurn
  rw [render_knowing room]
  cases Render.run setting fuel (.nodes t t.nodes) (m.begun t) with
  | outOfFuel => rfl
  | failed error n => rfl
  | done v n =>
    show (u.render setting (fuel + 1)
      (Machine.knowing { n with active := n.active.dropLast } u)).after n.outcomes = _
    rw [render_knowing room]
    show (Render.run setting fuel (.nodes u u.nodes) (n.begun u)).closed.after n.outcomes =
      ((Render.run setting fuel (.nodes u u.nodes) (n.begun u)).after n.outcomes).closed
    cases Render.run setting fuel (.nodes u u.nodes) (n.begun u) <;> rfl

end Frames

section Parts

open Render Node

variable {setting : Setting} {name front back : String} {whole first second : Template}
  {opens closes closes' : List Node}

/-- Nodes of templates of one name that are the same but for the lines stay in step. -/
theorem inStep_besides (named : whole.name = name) (named' : first.name = name)
    (alone : Standalone closes) (same : unlinedIn closes' = unlinedIn closes) (fuel : Nat)
    {n k : Machine} (kin : Kin (.besides name) n k) :
    InStep (.besides name) True Eq (run setting fuel (.nodes whole closes'))
      (run setting fuel (.nodes first closes)) n k :=
  inStep_run (Leeway.trusts_besides name setting) fuel kin (.nodes (named.trans named'.symm)
    False.elim (akin_of_unlinedIn (fun _ => trivial) (fun _ _ => trivial) alone same))

/-- The nodes with which the whole and its first part begin. -/
theorem rejoins_opened (named : whole.name = name) (named' : first.name = name)
    (alone : Standalone opens) (fuel : Nat) (m : Machine) {x y z : Render Unit}
    (rest : ∀ n k, m.Meets name front back #[] n k →
      Alongside m.host.journal m.host.journal n.host.journal k.host.journal →
      Ending.Rejoins name front back m (x n) (inTurn y second z k)) :
    Ending.Rejoins name front back m
      ((run setting fuel (.nodes whole opens) >>= fun _ => x) (m.begun whole))
      (inTurn (run setting fuel (.nodes first opens) >>= fun _ => y) second z (m.begun first)) := by
  have begins : m.Meets name front back #[] (m.begun whole) (m.begun first) :=
    .begins m named named'
  rw [inTurn_bind]
  refine begins.leads (inStep_besides named named' alone rfl fuel begins.kin)
    (steady_nodes fuel whole opens) (steady_nodes fuel first opens) fun n k meets beside => ?_
  exact rest n k meets beside.journal

/-- The nodes of a whole that are those of its first part and those of its second part. -/
theorem rejoins_nodes (named : whole.name = name) (named' : first.name = name)
    (named'' : second.name = name) (alone : Standalone opens) (alone' : Standalone closes)
    (same : unlinedIn closes' = unlinedIn closes) (fuel : Nat) (m : Machine) :
    Ending.Rejoins name front back m
      (run setting (fuel + 1) (.nodes whole (opens ++ closes')) (m.begun whole))
      (inTurn (run setting (fuel + 1) (.nodes first opens)) second
        (run setting (fuel + 1) (.nodes second closes)) (m.begun first)) := by
  have goesOn : ∀ node ∈ opens, isLast node = false := fun node member =>
    alone node (mem_allIn_of_mem member)
  have split : run setting (fuel + 1) (.nodes whole (opens ++ closes')) =
      run setting (fuel + 1) (.nodes whole opens) >>= fun _ =>
        run setting (fuel + 1) (.nodes whole closes') :=
    nodes_append setting (run setting fuel) whole goesOn closes'
  have last : run setting (fuel + 1) (.nodes first opens) =
      run setting (fuel + 1) (.nodes first opens) >>= fun _ => Pure.pure () := bind_pure_unit.symm
  rw [split, last]
  refine rejoins_opened named named' alone (fuel + 1) m fun n k meets _ => ?_
  exact rejoins_undivided meets named''
    (fun n' k' kin => inStep_besides named named'' alone' same (fuel + 1) kin)
    (steady_nodes (fuel + 1) whole closes') (steady_nodes (fuel + 1) second closes)

/-- The nodes of a whole between whose parts a text is divided. -/
theorem rejoins_nodes_divided (named : whole.name = name) (named' : first.name = name)
    (named'' : second.name = name) (alone : Standalone opens) (alone' : Standalone closes)
    (same : unlinedIn closes' = unlinedIn closes) (fuel : Nat) {m : Machine} (fluid : m.sink.Fluid)
    (divided : front ≠ "" ∧ back ≠ "") :
    Ending.Rejoins name front back m
      (run setting (fuel + 1) (.nodes whole (opens ++ .text (front ++ back) :: closes'))
        (m.begun whole))
      (inTurn (run setting (fuel + 1) (.nodes first (opens ++ [.text front]))) second
        (run setting (fuel + 1) (.nodes second (.text back :: closes))) (m.begun first)) := by
  have goesOn : ∀ node ∈ opens, isLast node = false := fun node member =>
    alone node (mem_allIn_of_mem member)
  have split : run setting (fuel + 1) (.nodes whole (opens ++ .text (front ++ back) :: closes')) =
      run setting (fuel + 1) (.nodes whole opens) >>= fun _ =>
        (emit (front ++ back) >>= fun _ => run setting (fuel + 1) (.nodes whole closes')) :=
    nodes_append setting (run setting fuel) whole goesOn _
  have last : run setting (fuel + 1) (.nodes first [.text front]) = emit front := bind_pure_unit
  have split' : run setting (fuel + 1) (.nodes first (opens ++ [.text front])) =
      run setting (fuel + 1) (.nodes first opens) >>= fun _ => emit front := by
    rw [← last]
    exact nodes_append setting (run setting fuel) first goesOn _
  rw [split, split']
  refine rejoins_opened named named' alone (fuel + 1) m fun n k meets journal => ?_
  exact rejoins_divided meets journal fluid divided named''
    (fun n' k' kin => inStep_besides named named'' alone' same (fuel + 1) kin)
    (steady_nodes (fuel + 1) whole closes') (steady_nodes (fuel + 1) second closes)

end Parts

/-- Two sources that are read under one name, neither of which inherits and which have no block in
common, are read one after the other if no mark is made where they meet; and what is read renders as
the two do in turn: it ends in the same way, in a machine that differs in no more than
`Machine.Rejoins` allows. If a text is divided between the two, this is so for every sink that tells
from all the text it would hold what it takes; but if that sink refuses the whole text it may have
taken the first part of it. -/
theorem Template.render_append {name : String} {front back : List Char} {t u : Template}
    (read : Source.parse name front = .ok t) (read' : Source.parse name back = .ok u)
    (alone : Node.Standalone t.nodes) (alone' : Node.Standalone u.nodes)
    (apart : ∀ block, t.blocks.contains block = true → u.blocks.contains block = false)
    (seam : Source.Seam front back) :
    ∃ whole, Source.parse name (front ++ back) = .ok whole ∧ ∀ setting fuel m,
      (m.sink.Fluid ∨ Source.trailing front = [] ∨ Source.leading back = []) →
        Ending.Rejoins name (String.ofList (Source.trailing front))
          (String.ofList (Source.leading back)) m (whole.render setting fuel (m.knowing whole))
          (t.renderInTurn setting fuel u m) := by
  obtain ⟨opens, closes, closes', blocks, shape, shape', same, read''⟩ :=
    Source.parse_append read read' alone' apart seam
  have named : t.name = name := (Source.regular_of_parse read).1
  have named' : u.name = name := (Source.regular_of_parse read').1
  refine ⟨_, read'', fun setting fuel m judges => ?_⟩
  have called (ns : List Node) : (⟨name, ns, blocks⟩ : Template).name = name := rfl
  rw [shape] at alone
  rw [shape'] at alone'
  cases fuel with
  | zero => exact .outOfFuel
  | succ fuel =>
    by_cases full : setting.config.maxDepth ≤ 0
    · rw [Template.render_knowing_of_full full, Template.renderInTurn,
        Template.render_knowing_of_full full, named]
      exact .failed { (Machine.Meets.begins (u := t) m rfl named).same with }
    · rw [Template.render_knowing full, Template.renderInTurn_eq full, shape, shape']
      refine .closed ?_
      cases fuel with
      | zero => exact .outOfFuel
      | succ fuel =>
        by_cases first : Source.trailing front = []
        · have text : Node.unlinedIn (Source.textNode (Source.leading back) ++ closes') =
              Node.unlinedIn (Source.textNode (Source.leading back) ++ closes) := by
            rw [Node.unlinedIn_append, Node.unlinedIn_append, same]
          rw [first, Source.textNode_nil, List.append_nil] at alone
          simp only [first, Source.textNode_nil, List.append_nil, List.nil_append,
            List.append_assoc]
          exact rejoins_nodes (called _) named named' alone alone' text fuel m
        · by_cases second : Source.leading back = []
          · rw [second, Source.textNode_nil, List.nil_append] at alone'
            simp only [second, Source.textNode_nil, List.append_nil, List.nil_append]
            exact rejoins_nodes (called _) named named' alone alone' same fuel m
          · have fluid : m.sink.Fluid := judges.resolve_right (by simp [first, second])
            have both : Source.trailing front ++ Source.leading back ≠ [] := by simp [first]
            have divided : String.ofList (Source.trailing front) ≠ "" ∧
                String.ofList (Source.leading back) ≠ "" := by
              simp [first, second]
            have before : Node.Standalone opens :=
              alone.of_subset (by simp)
            have after : Node.Standalone closes := alone'.of_subset (by simp)
            rw [Source.textNode_of_ne_nil first, Source.textNode_of_ne_nil second,
              Source.textNode_of_ne_nil both, String.ofList_append, List.append_assoc]
            exact rejoins_nodes_divided (called _) named named' before after same fuel fluid divided

/-- A loop over a list and, after it, the beginning of a text. -/
def Template.firstHalf : Template where
  name := "page"
  nodes := [.forEach "x" ⟨.path "xs" [], []⟩ false
    [.variable ⟨.path "x" [], []⟩, .text ", "] [], .text "to "]
  blocks := ∅

/-- The end of a text and, after it, a file with the output of another template. -/
def Template.secondHalf : Template where
  name := "page"
  nodes := [.text "all", .creates ⟨.literal (.text "f"), []⟩ ⟨.literal (.text "part"), []⟩ 1]
  blocks := ∅

/-- A machine with a list of two texts that knows a template of three letters. -/
def Machine.greetings : Machine :=
  .start (Table.insert ∅ "part" ⟨"part", [.text "cde"], ∅⟩) (Context.set ∅ "xs" (.ofList ⟨0⟩))
    ⟨#[#[.ofText "Ann", .ofText "Bob"]], #[]⟩

/-- So it is where the two parts divide a text between a loop and a tag that creates a file. -/
theorem Template.render_append_greetings :
    ∃ whole n k, Source.parse "page" ((Source.tag "for x in xs" ++ "\x7b\x7b x \x7d\x7d, " ++
        Source.tag "endfor" ++ "to ").toList ++
          ("all" ++ Source.tag "create 'f' from 'part'").toList) = .ok whole ∧
      whole.render ⟨.silent, default⟩ 20 (Machine.greetings.knowing whole) = .done () n ∧
      Template.firstHalf.renderInTurn ⟨.silent, default⟩ 20 .secondHalf .greetings = .done () k ∧
      n.sink.text = "Ann, Bob, to all" ∧ n.files = k.files := by
  obtain ⟨whole, read, rejoins⟩ := @Template.render_append "page"
    (Source.tag "for x in xs" ++ "\x7b\x7b x \x7d\x7d, " ++ Source.tag "endfor" ++ "to ").toList
    ("all" ++ Source.tag "create 'f' from 'part'").toList .firstHalf .secondHalf
    (by with_unfolding_all rfl) (by with_unfolding_all rfl) (by decide +kernel) (by decide +kernel)
    (fun _ taken => by cases taken) (fun _ ends => absurd ends (by decide +kernel))
  have here := rejoins ⟨.silent, default⟩ 20 .greetings (.inl (Sink.fluid_unlimited 0))
  obtain ⟨_, k, done, text⟩ : ∃ v k, Template.firstHalf.renderInTurn ⟨.silent, default⟩ 20
      .secondHalf .greetings = .done v k ∧ k.sink.text = "Ann, Bob, to all" :=
    Ending.Holds.exists_done (by decide +kernel)
  rw [done] at here
  generalize rendered : whole.render ⟨.silent, default⟩ 20 (Machine.greetings.knowing whole) = other
    at here
  cases here with
  | done same =>
    exact ⟨whole, _, k, read, rendered, done, same.text.symm.trans text, same.files.symm⟩

/-- A text of four letters that is divided in the middle: a sink that holds three letters refuses it
whole, but takes the first half of it from the two parts. -/
theorem Template.render_append_refused :
    ∃ t u whole n k, Source.parse "page" ['a', 'b'] = .ok t ∧
      Source.parse "page" ['c', 'd'] = .ok u ∧
      Node.Standalone t.nodes ∧ Node.Standalone u.nodes ∧ t.blocks.keys = [] ∧
      Source.Seam ['a', 'b'] ['c', 'd'] ∧
      Source.parse "page" (['a', 'b'] ++ ['c', 'd']) = .ok whole ∧
      whole.render ⟨.silent, default⟩ 20
        { Machine.greetings.knowing whole with sink := .limited 3 } = .failed .refused n ∧
      t.renderInTurn ⟨.silent, default⟩ 20 u { Machine.greetings with sink := .limited 3 } =
        .failed .refused k ∧
      n.sink.text = "" ∧ k.sink.text = "ab" := by
  refine ⟨⟨"page", [.text "ab"], ∅⟩, ⟨"page", [.text "cd"], ∅⟩, ⟨"page", [.text "abcd"], ∅⟩, _, _,
    by with_unfolding_all rfl, by with_unfolding_all rfl, by decide +kernel, by decide +kernel, rfl,
    fun _ ends => absurd ends (by decide), by with_unfolding_all rfl, rfl, rfl, by decide,
    by decide⟩

end TextTemplate

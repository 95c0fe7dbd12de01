import TextTemplate.Proofs.Inheritance.Line
import TextTemplate.Proofs.Render.Parallel
import TextTemplate.Value.StockHost
/-!
# Inheritance without inheriting

A template that derives from others, and those from others in turn, is rendered as one template that
inherits nothing: the texts before each node that inherits, and then what the nodes of the last
ancestor are flattened to. The two renders make the same text and the same files, unless a guard
against templates that nest without end stops the first.

What names the ancestors is evaluated before anything else than text is rendered. As that may invoke
callables, the flattened template is rendered from the heap that they leave.
-/
namespace TextTemplate

/-- The path and the content of a file that was created. -/
def Act.creation? : Act → Option (Path × String)
  | .created path content => some (path, content)
  | _ => none

/-- The files created according to a journal, in order, each with its path and its content. -/
def Journal.creations (journal : Journal) : List (Path × String) :=
  journal.toList.filterMap Act.creation?

/-- The creations of two journals in a row come in a row. -/
theorem Journal.creations_append (front back : Journal) :
    creations (front ++ back) = creations front ++ creations back := by
  simp [creations]

namespace Render

/-- The comparison of a render in which the templates of a chain override with one in which nothing
does, and which renders a template of a name that the other does not know. -/
def flattening (name : String) (chain : List Template) : Comparison where
  hidden := [name]
  heaps := Eq
  chains overriding other := overriding = chain ∧ other = []
  outcomes := False

section Simulation

variable {setting : Setting} {chain : List Template} {last : Template}
  (regular : ∀ t ∈ chain ++ [last], t.Regular) (name : String) (whole : Template)

include regular

/-- Nodes with the chain overriding do the same as what they are flattened to does with nothing
overriding: at every block the body that stands in its place is the one that replaced it. -/
theorem parallel_of_flattens {ns flat : List Node} (flattens : Flattens (chain ++ [last]) ns flat)
    {owner : Template} (member : owner ∈ chain ++ [last])
    (inside : Node.allIn ns ⊆ Node.allIn owner.nodes) :
    Parallel setting.host (flattening name chain) (complete setting (.nodes owner ns))
      (complete setting (.nodes whole flat)) := by
  have one : (flattening name chain).heaps = Eq := rfl
  have held : ∀ {owner : Template} {first : Node} {rest body : List Node},
      Node.allIn (first :: rest) ⊆ Node.allIn owner.nodes → body ∈ first.bodies →
        Node.allIn body ⊆ Node.allIn owner.nodes := fun inside holds =>
    List.Subset.trans (Node.allIn_subset_of_mem List.mem_cons_self holds) inside
  have others : ∀ {owner : Template} {first : Node} {rest : List Node},
      Node.allIn (first :: rest) ⊆ Node.allIn owner.nodes →
        Node.allIn rest ⊆ Node.allIn owner.nodes := fun inside => by
    rw [Node.allIn_cons] at inside
    exact List.Subset.trans (List.subset_append_right _ _) inside
  induction flattens generalizing owner with
  | nil => exact parallel_nil
  | leaf bare goesOn _ ih =>
    exact parallel_cons goesOn goesOn (parallel_leaf one nofun bare goesOn)
      (ih member (others inside))
  | forEach _ _ _ body otherwise ih =>
    have first := body member (held inside (by simp [Node.bodies]))
    have second := otherwise member (held inside (by simp [Node.bodies]))
    exact parallel_cons rfl rfl (parallel_forEach one first second _ _ _)
      (ih member (others inside))
  | condition _ _ _ yes no ih =>
    have first := yes member (held inside (by simp [Node.bodies]))
    have second := no member (held inside (by simp [Node.bodies]))
    exact parallel_cons rfl rfl (parallel_condition one first second _ _)
      (ih member (others inside))
  | @block block body chosen inner rest flat found replaced _ body_ih ih =>
    have within : Node.block block body ∈ Node.allIn (.block block body :: rest) :=
      Node.mem_allIn_of_mem List.mem_cons_self
    have bound := get?_of_mem (regular owner member) (inside within)
    obtain ⟨source, other, place, among, known, first⟩ := blockBody_of_mem member bound
    obtain rfl : chosen = other := Option.some.inj (found.symm.trans first)
    have replacing := body_ih among ((regular source among).allIn_body_subset known)
    rw [complete_nodes_cons, complete_nodes_append _ replaced.goesOn]
    refine Parallel.bind ⟨steady_node owner (.block block body), fun m n paired => ?_⟩
      fun _ => ih member (others inside)
    have chosen : node setting (complete setting) owner (.block block body) m =
        complete setting (.nodes source chosen) m := by
      show complete setting (.nodes (blockBody m.chain owner block body).1
        (blockBody m.chain owner block body).2) m = _
      rw [show m.chain = chain from paired.chain.1, place]
    rw [chosen]
    exact replacing.relates m n paired

end Simulation

end Render

/-- Two machines have the same text in their sinks, the same files, and have created the same. -/
structure Machine.SameOutput (m n : Machine) : Prop where
  /-- The sinks are the same. -/
  sink : m.sink = n.sink
  /-- The same files were created, with the same contents. -/
  created : m.host.journal.creations = n.host.journal.creations
  /-- The files are the same. -/
  files : m.files = n.files

/-- The same output stays the same as long as both write alike. -/
theorem Machine.SameOutput.together {c : Comparison} {m n m' n' : Machine} (same : m.SameOutput n)
    (paired : Paired c m' n') (together : Together c m n m' n') : m'.SameOutput n' where
  sink := by
    obtain ⟨texts, left, right⟩ := together.texts
    rw [left, right, same.sink]
  created := by
    obtain ⟨acts, left, right⟩ := together.journal
    rw [left, right, Journal.creations_append, Journal.creations_append, same.created]
  files := paired.files

/-- Which templates are being rendered or override has nothing to do with the output. -/
theorem Machine.SameOutput.elsewhere {m n : Machine} (same : m.SameOutput n)
    (active active' : List String) (chain chain' : List Template) :
    SameOutput { m with active, chain } { n with active := active', chain := chain' } :=
  ⟨same.sink, same.created, same.files⟩

/-- Evaluation creates no files. -/
theorem Expr.creations_eval {host : Host} (context : Context) (expr : Expr) (state : HostState) :
    (expr.eval host context state).2.journal.creations = state.journal.creations := by
  refine Expr.eval_kept (fun s => s.journal.creations = state.journal.creations)
    (fun s ref same => ?_) context expr rfl
  rw [← same]
  simp [HostState.invoked, Journal.creations, Act.creation?]

namespace Render

variable {setting : Setting} {hidden : List String} {post : Machine → Machine → Prop}
  {m : Machine} {right : Ending Unit}

/-- A render inside a state that was entered matches what it matches without. -/
theorem matches_around_left {x : Render Unit} {enter leave : Machine → Machine}
    (inside : (x (enter m)).Matches hidden post right)
    (left : ∀ k l, post k l → post (leave k) l) (kept : ∀ k, (leave k).library = k.library) :
    (around enter leave x m).Matches hidden post right := by
  have same : around id id (fun _ : Machine => right) m = right := by
    unfold around
    cases right <;> rfl
  rw [← same]
  exact matches_around inside (fun v k l _ _ => left k l) kept

/-- A template matches what its nodes match, since only its guards may stop it before. -/
theorem matches_template_left {t : Template}
    (inside : (complete setting (.nodes t t.nodes)
      { m with active := m.active ++ [t.name] }).Matches hidden post right)
    (left : ∀ k l, post k l → post { k with active := k.active.dropLast } l) :
    (complete setting (.template t) m).Matches hidden post right := by
  rw [complete_eq, step, template_apply]
  split
  · exact .guarded (RenderError.isGuard_cycle _) _ _
  · split
    · exact .guarded (RenderError.isGuard_tooDeep _ _) _ _
    · exact matches_around_left inside left fun _ => rfl

/-- The comparison of the two renders before the last template of a line is reached: one has some of
the templates overriding and a heap of its own. -/
def leading (name : String) (heap after : Heap) (before : List Template) : Comparison where
  hidden := [name]
  heaps left right := left = heap ∧ right = after
  chains overriding other := overriding = before ∧ other = []
  outcomes := False

variable {context : Context} {library : Library} {heap after : Heap} {t last : Template}
  {chain : List Template} {n : Machine}

/-- The nodes of the first template of a line, with those before it overriding, match the texts of
the line and what the last template is flattened to. -/
theorem matches_of_lineage
    (line : Lineage setting.host context library heap t chain last after) (name : String)
    (whole : Template) {flat : List Node} {before : List Template}
    (regular : ∀ d ∈ before ++ chain ++ [last], d.Regular)
    (flattens : Flattens (before ++ chain ++ [last]) last.nodes flat)
    (kept : ∀ key d, library.get? key = some d → m.library.get? key = some d)
    (place : m.context = context) (paired : Paired (leading name heap after before) m n)
    (same : m.SameOutput n) :
    (complete setting (.nodes t t.nodes) m).Matches [name] Machine.SameOutput
      (complete setting (.nodes whole (chain.flatMap Template.opening ++ flat)) n) := by
  induction line generalizing before m n with
  | base known orphan =>
    rename_i heap t
    have start : Paired (flattening name (before ++ [])) m n :=
      { paired with
        heap := paired.heap.1.trans paired.heap.2.symm
        chain := ⟨by rw [List.append_nil, paired.chain.1], paired.chain.2⟩ }
    have alike : Parallel setting.host _ _ _ := parallel_of_flattens regular name whole flattens
      (List.mem_append_right _ List.mem_cons_self) fun _ => id
    exact (alike.relates m n start).mono fun k l ⟨ends, together⟩ => same.together ends together
  | derived known inherits named line ih =>
    rename_i heap after t parent last chain expr
    have read : t.Regular := regular t (by simp)
    obtain ⟨rest, shape, texts⟩ := read.nodes_of_parent? inherits
    have opens : ∀ node ∈ t.opening, isLast node = false := fun node member =>
      Node.isLast_of_isText (texts node member)
    rw [shape, complete_nodes_append t opens, List.flatMap_cons, List.append_assoc,
      complete_nodes_append whole opens]
    refine matches_bind ((parallel_texts texts).relates m n paired)
      (fun _ m' n' rendered _ ⟨goesOn, together⟩ => ?_)
      fun _ => (steady_complete_nodes t _).leads
    have back := (steady_complete_nodes t t.opening).returns rendered
    have here : m'.context = context := back.context.trans place
    -- the name of the parent is evaluated on the heap of the line, but with another journal
    have heaps : m'.host.heap = (HostState.mk heap #[]).heap := goesOn.heap.1
    obtain ⟨value, left⟩ := Expr.eval_heap setting.host context expr heaps
    have found : m'.library.get? (Library.normalise
        (expr.eval setting.host m'.context m'.host).1.text) = some parent := by
      rw [here, value]
      exact back.library _ _ (kept _ _ named)
    rw [complete_nodes_inherits, bind_of_done (resolve_of_known found)]
    refine matches_around_left (matches_template_left ?_ fun k l out => out.elsewhere _ _ _ _)
      (fun k l out => out.elsewhere _ _ _ _) fun _ => rfl
    have output := same.together goesOn together
    have regular' : ∀ d ∈ before ++ [t] ++ chain ++ [last], d.Regular := by simpa using regular
    have flattens' : Flattens (before ++ [t] ++ chain ++ [last]) last.nodes flat := by
      simpa using flattens
    refine ih regular' flattens' (fun key d found => back.library key d (kept key d found)) here ?_
      ⟨output.sink, ?_, output.files⟩
    · exact { goesOn with
        heap := ⟨by rw [here]; exact left, goesOn.heap.2⟩
        chain := ⟨by rw [goesOn.chain.1], goesOn.chain.2⟩
        depth := by simpa using Nat.le_succ_of_le goesOn.depth
        active := fun key inside =>
          (goesOn.active key inside).imp (List.mem_append_left _) id }
    · exact (Expr.creations_eval m'.context expr m'.host).trans output.created

end Render

/-- The machine with one more template known, and with another heap. -/
def Machine.beside (m : Machine) (t : Template) (heap : Heap) : Machine :=
  { m with
    host := { m.host with heap }
    library := m.library.insert t.name t }

section Flattened

variable {setting : Setting} {m : Machine} {t last : Template} {chain : List Template} {heap : Heap}
  {name : String} {flat : List Node}

/-- A render of the first template of a line matches one of the flattened template. -/
theorem Render.matches_flattened (parsed : m.library.Parsed)
    (line : Lineage setting.host m.context m.library m.host.heap t chain last heap)
    (unused : m.library.get? name = none)
    (flattens : Flattens (chain ++ [last]) last.nodes flat) :
    (complete setting (.template t)
      { m with active := [], chain := [], outcomes := #[] }).Matches [name] Machine.SameOutput
    (complete setting (.template (.flattened name chain flat))
      { m.beside (.flattened name chain flat) heap with
        active := [], chain := [], outcomes := #[] }) := by
  have regular : ∀ d ∈ [] ++ chain ++ [last], d.Regular := fun d member =>
    (parsed _ d (line.known d member)).2.regular
  have paired : Paired (leading name m.host.heap heap [])
      { m with active := [t.name], chain := [], outcomes := #[] }
      { m.beside (.flattened name chain flat) heap with
        active := [name], chain := [], outcomes := #[] } :=
    { heap := ⟨rfl, rfl⟩
      chain := ⟨rfl, rfl⟩
      files := rfl
      context := rfl
      sink := .refl _
      library := by
        have others : ∀ entry ∈ m.library.entries, entry.1 ∉ [name] := fun entry member inside =>
          Table.ne_of_find_eq_none unused entry member (List.mem_singleton.mp inside)
        have inserted : (m.beside (.flattened name chain flat) heap).library.entries =
            m.library.entries ++ [(name, .flattened name chain flat)] :=
          Table.entries_insert_of_get?_eq_none _ unused
        rw [show (leading name m.host.heap heap []).hidden = [name] from rfl, inserted,
          List.filter_append, List.filter_eq_self.mpr (by simpa using others)]
        simp
      hidden := fun key inside => by
        rw [List.mem_singleton.mp inside]
        exact ⟨.flattened name chain flat, by simp [Machine.beside, Template.flattened], rfl⟩
      keyed := fun key d known inside => (parsed key d known).1 ▸ inside
      depth := Nat.le_refl 1
      active := fun key inside => .inr inside
      entered := fun key inside => inside }
  have inside := Render.matches_of_lineage
    (m := { m with active := [t.name], chain := [], outcomes := #[] }) line name
    (.flattened name chain flat) regular flattens (fun key d known => known) rfl paired
    ⟨rfl, rfl, rfl⟩
  rw [complete_eq, complete_eq, step, step, template_apply, template_apply,
    if_neg List.not_mem_nil, if_neg List.not_mem_nil]
  by_cases full : setting.config.maxDepth ≤ 0
  · rw [List.length_nil, if_pos full]
    exact .guarded (RenderError.isGuard_tooDeep _ _) _ _
  · rw [List.length_nil, if_neg full, if_neg full]
    exact matches_around inside (fun _ k l _ _ out => out.elsewhere _ _ _ _) fun _ => rfl

/-- The nodes of the last template of a line can be flattened, and then the flattened template,
known under an unused name, renders as the first template of the line does, from the heap that
evaluating the names of the parents leaves. If the first render is done so is the other, with the
same text, the same files and the same creations, unless the name came to be used meanwhile. If the
other is done so is the first, with the same, unless one of the guards stops it. -/
theorem Template.render_flattened (parsed : m.library.Parsed)
    (line : Lineage setting.host m.context m.library m.host.heap t chain last heap)
    (unused : m.library.get? name = none) :
    (∃ flat, Flattens (chain ++ [last]) last.nodes flat) ∧
    ∀ flat, Flattens (chain ++ [last]) last.nodes flat →
      (∀ fuel m', t.render setting fuel m = .done () m' → m'.library.get? name = none →
        ∃ fuel n', (flattened name chain flat).render setting fuel
          (m.beside (flattened name chain flat) heap) = .done () n' ∧ m'.SameOutput n') ∧
      (∀ fuel n', (flattened name chain flat).render setting fuel
          (m.beside (flattened name chain flat) heap) = .done () n' →
        ∃ fuel m', (t.render setting fuel m = .done () m' ∧ m'.SameOutput n') ∨
          ∃ error, t.render setting fuel m = .failed error m' ∧ error.IsGuard) := by
  have regular : ∀ d ∈ chain ++ [last], d.Regular := fun d member =>
    (parsed _ d (line.known d member)).2.regular
  constructor
  · have read := regular last (List.mem_append_right _ List.mem_cons_self)
    exact Flattens.exists_of_standalone regular (List.mem_append_right _ List.mem_cons_self)
      (fun _ => id) (read.standalone_of_parent? line.orphan)
  · intro flat flattens
    have both := Render.matches_flattened parsed line unused flattens
    constructor
    · intro fuel m' done fresh
      have ended := (Render.complete_eq_iff (by simp)).mpr ⟨fuel, done⟩
      rcases both.forth () m' ended with ⟨key, inside, d, known⟩ | ⟨n', other, same⟩
      · rw [List.mem_singleton.mp inside, fresh] at known
        cases known
      · obtain ⟨fuel', reached⟩ := (Render.complete_eq_iff (by simp)).mp other
        exact ⟨fuel', n', reached, same⟩
    · intro fuel n' done
      have ended := (Render.complete_eq_iff (by simp)).mpr ⟨fuel, done⟩
      rcases both.back () n' ended with ⟨m', first, same⟩ | ⟨error, m', first, guard⟩
      · obtain ⟨fuel', reached⟩ := (Render.complete_eq_iff (by simp)).mp first
        exact ⟨fuel', m', .inl ⟨reached, same⟩⟩
      · obtain ⟨fuel', reached⟩ := (Render.complete_eq_iff (by simp)).mp first
        exact ⟨fuel', m', .inr ⟨error, reached, guard⟩⟩

end Flattened

/-- A template with a block. -/
def Template.frame : Template where
  name := "frame"
  nodes := [.text "<", .block "title" [.text "-"], .text ">"]
  blocks := Table.insert ∅ "title" [.text "-"]

/-- A template that overrides that block with one that has another block inside. -/
def Template.notice : Template where
  name := "notice"
  nodes := [.inherits ⟨.literal (.text "frame"), []⟩,
    .block "title" [.text "(", .block "mark" [.text "?"], .text ")"]]
  blocks := (Table.insert ∅ "mark" [.text "?"]).insert "title"
    [.text "(", .block "mark" [.text "?"], .text ")"]

/-- A template that overrides the other block. -/
def Template.alarm : Template where
  name := "alarm"
  nodes := [.inherits ⟨.literal (.text "notice"), []⟩, .block "mark" [.text "!"]]
  blocks := Table.insert ∅ "mark" [.text "!"]

namespace Template

/-- The frame is read from its source. -/
theorem parse_frame : Source.parse "frame" ("<" ++ Source.tag "block title" ++ "-" ++
    Source.tag "endblock" ++ ">").toList = .ok frame := by
  with_unfolding_all rfl

/-- The notice is read from its source. -/
theorem parse_notice : Source.parse "notice" (Source.tag "extends 'frame'" ++
    Source.tag "block title" ++ "(" ++ Source.tag "block mark" ++ "?" ++ Source.tag "endblock" ++
    ")" ++ Source.tag "endblock").toList = .ok notice := by
  with_unfolding_all rfl

/-- The alarm is read from its source. -/
theorem parse_alarm : Source.parse "alarm" (Source.tag "extends 'notice'" ++
    Source.tag "block mark" ++ "!" ++ Source.tag "endblock").toList = .ok alarm := by
  with_unfolding_all rfl

end Template

/-- The library of these three. -/
def Library.alarms : Library :=
  ((Table.insert ∅ "frame" .frame).insert "notice" .notice).insert "alarm" .alarm

/-- The frame and the notice are known as they were read. -/
theorem Library.parsed_alarms : alarms.Parsed :=
  ((parsed_empty.insert Template.parse_frame).insert Template.parse_notice).insert
    Template.parse_alarm

/-- The first of them derives from the second and that from the third. -/
theorem lineage_alarm (heap : Heap) :
    Lineage .silent ∅ Library.alarms heap .alarm [.alarm, .notice] .frame heap := by
  have frame : Library.alarms.get? (Library.normalise "frame") = some .frame := by
    rw [show Library.normalise "frame" = "frame" by decide]
    rfl
  have notice : Library.alarms.get? (Library.normalise "notice") = some .notice := by
    rw [show Library.normalise "notice" = "notice" by decide]
    rfl
  have last : Lineage .silent ∅ Library.alarms heap .frame [] .frame heap := .base rfl rfl
  have middle : Lineage .silent ∅ Library.alarms heap .notice [.notice] .frame heap :=
    .derived rfl rfl frame last
  exact .derived rfl rfl notice middle

/-- The block inside what replaced a block is replaced as well. -/
theorem flattens_frame : Flattens [.alarm, .notice, .frame] Template.frame.nodes
    [.text "<", .text "(", .text "!", .text ")", .text ">"] := by
  have mark : Flattens [.alarm, .notice, .frame] [.block "mark" [.text "?"], .text ")"]
      [.text "!", .text ")"] :=
    .block rfl (.leaf rfl rfl .nil) (.leaf rfl rfl .nil)
  have title : Flattens [.alarm, .notice, .frame] [.block "title" [.text "-"], .text ">"]
      [.text "(", .text "!", .text ")", .text ">"] :=
    .block rfl (.leaf rfl rfl mark) (.leaf rfl rfl .nil)
  exact .leaf rfl rfl title

/-- Rendered as one template, the three write what the first of them writes. -/
theorem Template.render_alarm_flattened :
    ∃ fuel n, (flattened "flat" [alarm, notice]
        [.text "<", .text "(", .text "!", .text ")", .text ">"]).render ⟨.silent, default⟩ fuel
      ((Machine.start Library.alarms ∅ ∅).beside (flattened "flat" [alarm, notice]
        [.text "<", .text "(", .text "!", .text ")", .text ">"]) ∅) = .done () n ∧
      n.sink.text = "<(!)>" := by
  have rendered : (match alarm.render ⟨.silent, default⟩ 20 (.start Library.alarms ∅ ∅) with
      | .done _ m => some (m.sink.text, (m.library.get? "flat").isNone)
      | _ => none) = some ("<(!)>", true) := by
    decide +kernel
  split at rendered
  · rename_i m done
    obtain ⟨text, fresh⟩ := Prod.mk.inj (Option.some.inj rendered)
    have both := @Template.render_flattened ⟨.silent, default⟩ (.start Library.alarms ∅ ∅) alarm
      frame [alarm, notice] ∅ "flat" Library.parsed_alarms (lineage_alarm ∅) rfl
    obtain ⟨fuel, n, other, same⟩ :=
      (both.2 _ flattens_frame).1 20 m done (Option.isNone_iff_eq_none.mp fresh)
    exact ⟨fuel, n, other, same.sink ▸ text⟩
  · cases rendered

/-- A template that writes once for every item of a list. -/
def Template.roll : Template where
  name := "roll"
  nodes := [.forEach "x" ⟨.path "xs" [], []⟩ false [.text "a"] []]
  blocks := ∅

/-- A template that has its parent named by the context. -/
def Template.pick : Template where
  name := "pick"
  nodes := [.inherits ⟨.path "parent" [], []⟩]
  blocks := ∅

/-- The roll is read from its source. -/
theorem Template.parse_roll : Source.parse "roll"
    (Source.tag "for x in xs" ++ "a" ++ Source.tag "endfor").toList = .ok roll := by
  with_unfolding_all rfl

/-- The pick is read from its source. -/
theorem Template.parse_pick :
    Source.parse "pick" (Source.tag "extends parent").toList = .ok pick := by
  with_unfolding_all rfl

/-- The library of these two. -/
def Library.picks : Library := (Table.insert ∅ "roll" .roll).insert "pick" .pick

/-- The roll is known as it was read. -/
theorem Library.parsed_picks : picks.Parsed :=
  (parsed_empty.insert Template.parse_roll).insert Template.parse_pick

/-- A host whose callable adds an item to a list and answers with the name of a template. -/
def growing : Setting := ⟨.stock #[.append ⟨0⟩ (.ofWhole 1) 1 "roll"], default⟩

/-- The machine in which that callable names the parent and the list is empty. -/
def empties : Machine :=
  .start Library.picks ((Context.set ∅ "xs" (.ofList ⟨0⟩)).set "parent" (.ofCallable ⟨0⟩))
    ⟨#[#[]], #[]⟩

/-- The heap after the callable was invoked. -/
def grown : Heap := ⟨#[#[.ofWhole 1]], #[]⟩

/-- The second of them is the parent of the first, and asking for it leaves another heap. -/
theorem lineage_pick : Lineage growing.host empties.context Library.picks empties.host.heap
    .pick [.pick] .roll grown := by
  have roll : Library.picks.get? (Library.normalise "roll") = some .roll := by
    rw [show Library.normalise "roll" = "roll" by decide]
    rfl
  have last : Lineage growing.host empties.context Library.picks grown .roll [] .roll grown :=
    .base rfl rfl
  exact .derived rfl rfl roll last

/-- The roll is flat already. -/
theorem flattens_roll : Flattens [.pick, .roll] Template.roll.nodes Template.roll.nodes :=
  .forEach (.leaf rfl rfl .nil) .nil .nil

/-- From the heap before, the flattened template may render otherwise: evaluating the name of the
parent adds an item to the list that the parent shows. -/
theorem Template.render_pick_differs : ¬ ∀ (setting : Setting) (m : Machine) (t last : Template)
    (chain : List Template) (heap : Heap) (name : String) (flat : List Node), m.library.Parsed →
      Lineage setting.host m.context m.library m.host.heap t chain last heap →
      ((chain ++ [last]).map Template.name).Nodup →
      (chain ++ [last]).length ≤ setting.config.maxDepth → m.library.get? name = none →
      Flattens (chain ++ [last]) last.nodes flat →
      ∀ fuel m', t.render setting fuel m = .done () m' → m'.library.get? name = none →
        ∃ fuel n', (flattened name chain flat).render setting fuel
          (m.beside (flattened name chain flat) m.host.heap) = .done () n' ∧ m'.SameOutput n' := by
  intro always
  have first : (match pick.render growing 20 empties with
      | .done _ m => some (m.sink.text, (m.library.get? "flat").isNone)
      | _ => none) = some ("a", true) := by
    decide +kernel
  have second : (match (flattened "flat" [pick] roll.nodes).render growing 20
        (empties.beside (flattened "flat" [pick] roll.nodes) empties.host.heap) with
      | .done _ m => some m.sink.text
      | _ => none) = some "" := by
    decide +kernel
  split at first
  · rename_i m done
    obtain ⟨text, fresh⟩ := Prod.mk.inj (Option.some.inj first)
    obtain ⟨fuel, n, other, same⟩ := always growing empties pick roll [pick] grown "flat" roll.nodes
      Library.parsed_picks lineage_pick (by decide) (by decide) rfl flattens_roll 20 m done
      (Option.isNone_iff_eq_none.mp fresh)
    split at second
    · rename_i n' done'
      have here := (Render.complete_eq_iff (by simp)).mpr ⟨fuel, other⟩
      have there := (Render.complete_eq_iff (by simp)).mpr ⟨20, done'⟩
      obtain rfl : n = n' := by
        rw [here] at there
        exact (Ending.done.inj there).2
      have shown : m.sink.text = n.sink.text := by rw [same.sink]
      rw [text, Option.some.inj second] at shown
      simp at shown
    · cases second
  · cases first

end TextTemplate

import TextTemplate.Proofs.Inheritance.Line
import TextTemplate.Proofs.Render.Point
/-!
# Blocks that are open

A block is open while the body that stands in its place is rendered. Templates of a line may nest
the same blocks in opposite orders, so a render may hop from the body of one template into that of
another; but it hops towards the first template of the line alone. Where a block is open no template
before that of the nodes has it, and if that one has it the nodes lie in its body (`Encloses`); so
no block leads back into one that is open. Main statement: `Template.opened_once`.
-/
namespace TextTemplate

/-! ### What a node begins -/

namespace Render

variable {setting : Setting} {owner source t : Template} {node : Node} {inner : List Node}
  {m k : Machine}

/-- The nodes that a node begins are held by it, or it is a block and they stand in its place. -/
theorem Begins.nodes_cases (begins : Begins setting owner node m (.nodes source inner) k) :
    (source = owner ∧ inner ∈ node.bodies ∧ node.block? = none ∧ m.Stays k) ∨
      ∃ name body, node = .block name body ∧ (source, inner) = blockBody m.chain owner name body ∧
        k = m := by
  cases begins with
  | otherwise valued bare =>
    have back := (steady_evaluate _).returns valued
    exact .inl ⟨rfl, by simp [Node.bodies], rfl, back.toStays⟩
  | @branch test negated yes no _ _ value valued =>
    have back := (steady_evaluate test).returns valued
    have held : (if value.truth k.host.heap != negated then yes else no) ∈ [yes, no] := by
      split <;> simp
    exact .inl ⟨rfl, held, rfl, back.toStays⟩
  | block => exact .inr ⟨_, _, rfl, rfl, rfl⟩

/-- A template that a node begins was read from a source. Its blocks are overridden by those of the
template of the node too if that inherits, and by none if it does not. -/
theorem Begins.template_cases (begins : Begins setting owner node m (.template t) k)
    (parsed : m.library.Parsed) :
    t.Parsed ∧ k.library.Parsed ∧
      ((∃ expr, node = .inherits expr ∧ k.chain = m.chain ++ [owner]) ∨ k.chain = []) := by
  cases begins with
  | parent resolved =>
    obtain ⟨read, stays⟩ := parsed_of_resolve parsed resolved
    exact ⟨read, stays.parsed parsed, .inl ⟨_, rfl, by rw [← stays.chain]⟩⟩
  | included resolved =>
    obtain ⟨read, stays⟩ := parsed_of_resolve parsed resolved
    exact ⟨read, stays.parsed parsed, .inr rfl⟩
  | created valued resolved =>
    have back := (steady_evaluate _).returns valued
    obtain ⟨read, stays⟩ := parsed_of_resolve (back.parsed parsed) resolved
    exact ⟨read, stays.parsed (back.parsed parsed), .inr rfl⟩

end Render

/-- The iterations of a loop leave as they find it what every render does. -/
theorem Loop.Reaches.stays {loop : Loop} {setting : Setting} {start m : Machine} {k : Nat}
    (reached : loop.Reaches setting start k m) : start.Stays m := by
  induction reached with
  | entry => exact .refl start
  | @next k m n item before inside rendered ih =>
    have ended := Task.endsIn_done.mp rendered
    have back := (Render.steady_complete_nodes loop.owner loop.body).returns ended
    have around : m.Stays n := ⟨back.active, back.chain, back.library, back.parsed⟩
    have whole := ih.trans around
    exact ⟨whole.active, whole.chain, whole.library, whole.parsed⟩

/-- The body that an iteration renders is held by the node that began the loop. -/
theorem Round.of_begins {setting : Setting} {owner : Template} {node : Node} {m : Machine}
    {cursor : Cursor} {context : Context} (round : Round setting)
    (begins : Render.Begins setting owner node m (round.loop.rest cursor 0)
      { round.start with context }) :
    round.loop.owner = owner ∧ round.loop.body ∈ node.bodies ∧ node.block? = none ∧
      m.Stays round.entered := by
  generalize started : ({ round.start with context } : Machine) = k at begins
  generalize asked : round.loop.rest cursor 0 = task at begins
  unfold Loop.rest at asked
  cases begins with
  | @iterations _ _ _ _ _ _ start _ _ valued _ _ =>
    cases asked
    have back := (Render.steady_evaluate _).returns valued
    -- the loop began where its list was evaluated, but for the scope that it opened
    have chain := congrArg Machine.chain started
    have active := congrArg Machine.active started
    have library := congrArg Machine.library started
    dsimp only at chain active library
    have evaluated : m.Stays round.start := by
      refine ⟨active.trans back.active, chain.trans back.chain, ?_, ?_⟩
      · rw [library]
        exact back.library
      · rw [library]
        exact back.parsed
    have begun := round.reached.stays
    have whole := evaluated.trans begun
    exact ⟨rfl, by simp [Node.bodies], rfl,
      ⟨whole.active, whole.chain, whole.library, whole.parsed⟩⟩
  | _ => cases asked

/-! ### Sites -/

/-- Where a render is, with what is open there. -/
structure Site (setting : Setting) where
  /-- The point to which the render has come. -/
  point : Point setting
  /-- The template whose render was entered last, of those that are going on. -/
  current : Template
  /-- The names of the blocks that are open since then, innermost first. -/
  opened : List String

/-- The name of the block that a node opens. -/
def Node.opens (node : Node) : List String := (node.block?.map (·.1)).toList

section Sites

variable {setting : Setting}

namespace Site

/-- The templates that override, most derived first, and the one whose render was entered last. -/
def line (site : Site setting) : List Template := site.point.machine.chain ++ [site.current]

/-- From one site a render may come to the other. When the first of the nodes is done the same
blocks are open as before it; what stands in the place of a block is rendered with that block open
as well; and no block is open where a template is entered. -/
inductive Enters : Site setting → Site setting → Prop
  | onward {rounds : List (Round setting)} {owner current : Template} {opened : List String}
    {first : Node} {rest : List Node} {m n : Machine} (goesOn : Render.isLast first = false)
    (rendered : Render.node setting (Render.complete setting) owner first m = .done () n) :
    Enters ⟨⟨rounds, owner, first :: rest, m⟩, current, opened⟩
      ⟨⟨rounds, owner, rest, n⟩, current, opened⟩
  | nodes {rounds : List (Round setting)} {owner source current : Template} {opened : List String}
    {first : Node} {rest inner : List Node} {m k : Machine}
    (begins : Render.Begins setting owner first m (.nodes source inner) k) :
    Enters ⟨⟨rounds, owner, first :: rest, m⟩, current, opened⟩
      ⟨⟨rounds, source, inner, k⟩, current, first.opens ++ opened⟩
  | template {rounds : List (Round setting)} {owner current t : Template} {opened : List String}
    {first : Node} {rest : List Node} {m k : Machine}
    (begins : Render.Begins setting owner first m (.template t) k)
    (other : t.name ∉ k.active) (room : k.active.length < setting.config.maxDepth) :
    Enters ⟨⟨rounds, owner, first :: rest, m⟩, current, opened⟩ ⟨.first rounds t k, t, []⟩
  | round {rounds : List (Round setting)} {owner current : Template} {opened : List String}
    {first : Node} {rest : List Node} {m : Machine} (round : Round setting)
    (begins : Render.Begins setting owner first m
      (round.loop.rest (Render.begin round.loop.reversed round.loop.count) 0)
      { round.start with context := round.start.context.push }) :
    Enters ⟨⟨rounds, owner, first :: rest, m⟩, current, opened⟩
      ⟨⟨round :: rounds, round.loop.owner, round.loop.body, round.entered⟩, current, opened⟩

/-- A render that comes to a point comes to a site there. -/
theorem exists_enters {point next : Point setting} (enters : TextTemplate.Enters point next)
    (current : Template) (opened : List String) :
    ∃ current' opened', Enters ⟨point, current, opened⟩ ⟨next, current', opened'⟩ := by
  cases enters with
  | onward goesOn rendered => exact ⟨_, _, .onward goesOn rendered⟩
  | nodes begins => exact ⟨_, _, .nodes begins⟩
  | template begins other room => exact ⟨_, _, .template begins other room⟩
  | round round begins => exact ⟨_, _, .round round begins⟩

end Site

/-- The render of a template comes to the site. -/
def Template.Visits (t : Template) (setting : Setting) (m : Machine) (site : Site setting) : Prop :=
  Relation.ReflTransGen Site.Enters
    ⟨.first [] t { m with active := [], chain := [], outcomes := #[] }, t, []⟩ site

/-- Wherever a render comes, something is current and open there. -/
theorem Template.Comes.exists_visits {t : Template} {m : Machine} {point : Point setting}
    (comes : t.Comes setting m point) : ∃ current opened,
      t.Visits setting m ⟨point, current, opened⟩ := by
  induction comes with
  | refl => exact ⟨t, [], .refl⟩
  | tail before enters ih =>
    obtain ⟨current, opened, visits⟩ := ih
    obtain ⟨current', opened', next⟩ := Site.exists_enters enters current opened
    exact ⟨current', opened', visits.tail next⟩

/-! ### What is so at every site -/

/-- A block of the name is open around nodes of a template: no template before that one has the
block, and if that one has it the nodes lie in its body. -/
structure Encloses (before : List Template) (owner : Template) (ns : List Node) (name : String) :
    Prop where
  /-- No template before has the block. -/
  lacking : ∀ d ∈ before, d.blocks.get? name = none
  /-- If the template has the block, the nodes lie in its body. -/
  within : ∀ body, owner.blocks.get? name = some body → Node.allIn ns ⊆ Node.allIn body

/-- A block that is open around nodes is open around what they hold. -/
theorem Encloses.of_subset {before : List Template} {owner : Template} {ns inner : List Node}
    {name : String} (encloses : Encloses before owner ns name)
    (inside : Node.allIn inner ⊆ Node.allIn ns) : Encloses before owner inner name where
  lacking := encloses.lacking
  within body bound := List.Subset.trans inside (encloses.within body bound)

namespace Site

/-- The render of a template that inherits has not come to its parent: only texts are before it. -/
def Heading (site : Site setting) : Prop :=
  site.opened = [] ∧ site.point.owner = site.current ∧ ∃ texts parent after,
    site.current.parent? = some parent ∧
    site.point.nodes = texts ++ .inherits parent :: after ∧ ∀ node ∈ texts, node.isText = true

/-- What is so at every site of a render. -/
structure Sound (site : Site setting) : Prop where
  /-- The templates known are as they were read. -/
  known : site.point.machine.library.Parsed
  /-- The templates in the line are regular. -/
  regular : ∀ d ∈ site.line, d.Regular
  /-- The nodes are of their template. -/
  inside : Node.allIn site.point.nodes ⊆ Node.allIn site.point.owner.nodes
  /-- Their template is in the line, and the open blocks lie around them. -/
  placed : ∃ before after, site.line = before ++ site.point.owner :: after ∧
    ∀ name ∈ site.opened, Encloses before site.point.owner site.point.nodes name
  /-- No block is open twice. -/
  distinct : site.opened.Nodup
  /-- The templates that override have parents. -/
  derived : ∀ d ∈ site.point.machine.chain, ∃ parent, d.parent? = some parent
  /-- The template that was entered last has none, or the render has not come there. -/
  root : site.current.parent? = none ∧ Node.Standalone site.point.nodes ∨ site.Heading

section Steps

variable {rounds : List (Round setting)} {owner current : Template} {opened : List String}
  {first : Node} {rest : List Node} {m : Machine}

/-- At the heading of a template that inherits, the first node is text or inherits. -/
theorem Heading.bodies_eq_nil
    (heading : Heading ⟨⟨rounds, owner, first :: rest, m⟩, current, opened⟩) :
    first.bodies = [] := by
  obtain ⟨-, -, texts, parent, after, -, shape, plain⟩ := heading
  cases texts with
  | nil =>
    obtain ⟨rfl, -⟩ := List.cons.inj shape
    rfl
  | cons text texts =>
    obtain ⟨rfl, -⟩ := List.cons.inj shape
    have text := plain first List.mem_cons_self
    cases first <;> first | rfl | cases text

/-- What was entered last has no parent where the first node holds nodes. -/
theorem Sound.root_of_bodies
    (sound : Sound ⟨⟨rounds, owner, first :: rest, m⟩, current, opened⟩)
    (holds : first.bodies ≠ []) :
    current.parent? = none ∧ Node.Standalone (first :: rest) := by
  rcases sound.root with root | heading
  · exact root
  · exact absurd heading.bodies_eq_nil holds

/-- The template of the nodes is in the line. -/
theorem Sound.owner_mem {site : Site setting} (sound : site.Sound) :
    site.point.owner ∈ site.line := by
  obtain ⟨before, after, whole, -⟩ := sound.placed
  rw [whole]
  exact List.mem_append_right _ List.mem_cons_self

/-- Nodes that lie in those of a sound site are at a sound site, with the same blocks open. -/
theorem Sound.narrow {ns inner : List Node} {k : Machine}
    (sound : Sound ⟨⟨rounds, owner, ns, m⟩, current, opened⟩)
    (within : Node.allIn inner ⊆ Node.allIn ns) (stays : m.Stays k)
    {rounds' : List (Round setting)} (root : current.parent? = none ∧ Node.Standalone inner ∨
      Heading ⟨⟨rounds', owner, inner, k⟩, current, opened⟩) :
    Sound ⟨⟨rounds', owner, inner, k⟩, current, opened⟩ := by
  have line : k.chain ++ [current] = m.chain ++ [current] := by rw [stays.chain]
  obtain ⟨before, after, whole, encloses⟩ := sound.placed
  exact {
    known := stays.parsed sound.known
    regular := fun d member => sound.regular d (by rwa [Site.line, line] at member)
    inside := List.Subset.trans within sound.inside
    placed := ⟨before, after, line.trans whole, fun name open_ =>
      (encloses name open_).of_subset within⟩
    distinct := sound.distinct
    derived := fun d member => sound.derived d (stays.chain ▸ member)
    root := root }

/-- What the first node holds is at a sound site, with the same blocks open. -/
theorem Sound.held (sound : Sound ⟨⟨rounds, owner, first :: rest, m⟩, current, opened⟩)
    {inner : List Node} (held : inner ∈ first.bodies) {k : Machine} (stays : m.Stays k)
    (rounds' : List (Round setting)) :
    Sound ⟨⟨rounds', owner, inner, k⟩, current, opened⟩ := by
  have within : Node.allIn inner ⊆ Node.allIn (first :: rest) :=
    Node.allIn_subset_of_mem List.mem_cons_self held
  obtain ⟨orphan, alone⟩ := sound.root_of_bodies (List.ne_nil_of_mem held)
  exact sound.narrow within stays (.inl ⟨orphan, alone.of_subset within⟩)

/-- A block that comes first is not open. -/
theorem Sound.fresh {name : String} {body : List Node}
    (sound : Sound ⟨⟨rounds, owner, .block name body :: rest, m⟩, current, opened⟩) :
    owner.blocks.get? name = some body ∧ name ∉ opened := by
  have here : Node.block name body ∈ Node.allIn (.block name body :: rest) :=
    Node.mem_allIn_of_mem List.mem_cons_self
  have regular : owner.Regular := sound.regular owner sound.owner_mem
  have bound : owner.blocks.get? name = some body :=
    Render.get?_of_mem regular (sound.inside here)
  refine ⟨bound, fun open_ => ?_⟩
  -- it would stand inside its own body
  obtain ⟨before, after, -, encloses⟩ := sound.placed
  have within := (encloses name open_).within body bound
  exact Node.block_not_mem_allIn name body (within here)

/-- What stands in the place of a block is at a sound site, with that block open as well. -/
theorem Sound.chosen {name : String} {body : List Node}
    (sound : Sound ⟨⟨rounds, owner, .block name body :: rest, m⟩, current, opened⟩) :
    Sound ⟨⟨rounds, (Render.blockBody m.chain owner name body).1,
      (Render.blockBody m.chain owner name body).2, m⟩, current, name :: opened⟩ := by
  obtain ⟨bound, closed⟩ := sound.fresh
  obtain ⟨orphan, -⟩ := sound.root_of_bodies (List.cons_ne_nil body [])
  obtain ⟨before, after, whole, encloses⟩ := sound.placed
  have distinct : (name :: opened).Nodup := List.nodup_cons.mpr ⟨closed, sound.distinct⟩
  have line : m.chain ++ [current] = before ++ owner :: after := whole
  rcases Render.blockBody_cases (Render.placed_of_append line) bound with
    ⟨own, lacking⟩ | ⟨front, t, back, chosen, split, -, known, other, lacking⟩
  · have within : Node.allIn body ⊆ Node.allIn (.block name body :: rest) :=
      Node.allIn_subset_of_mem List.mem_cons_self List.mem_cons_self
    have regular : owner.Regular := sound.regular owner sound.owner_mem
    rw [own]
    refine { sound with
      inside := List.Subset.trans within sound.inside
      placed := ⟨before, after, whole, List.forall_mem_cons.mpr ⟨?_, fun other open_ =>
        (encloses other open_).of_subset within⟩⟩
      distinct := distinct
      root := .inl ⟨orphan, regular.standalone_body bound⟩ }
    refine ⟨lacking, fun own bound' => ?_⟩
    obtain rfl := Option.some.inj (bound.symm.trans bound')
    exact List.Subset.refl _
  · have place : m.chain ++ [current] = front ++ t :: (back ++ owner :: after) := by
      rw [line, split]
      simp
    have regular : t.Regular := sound.regular t (by simp [Site.line, place])
    rw [other]
    refine { sound with
      inside := regular.allIn_body_subset known
      placed := ⟨front, _, place, List.forall_mem_cons.mpr ⟨?_, fun other open_ => ?_⟩⟩
      distinct := distinct
      root := .inl ⟨orphan, regular.standalone_body known⟩ }
    · refine ⟨lacking, fun own bound' => ?_⟩
      obtain rfl := Option.some.inj (known.symm.trans bound')
      exact List.Subset.refl _
    · -- a template before that of the nodes has no block that is open
      have earlier := (encloses other open_).lacking
      refine ⟨fun d member => earlier d (by simp [split, member]), fun own bound' => ?_⟩
      have lacks : t.blocks.get? other = none := earlier t (by simp [split])
      rw [lacks] at bound'
      cases bound'

/-- A template that is entered is at a sound site. -/
theorem sound_first {t : Template} (read : t.Parsed) (known : m.library.Parsed)
    (regular : ∀ d ∈ m.chain, d.Regular)
    (derived : ∀ d ∈ m.chain, ∃ parent, d.parent? = some parent) :
    Sound (⟨.first rounds t m, t, []⟩ : Site setting) where
  known := known
  regular := List.forall_mem_append.mpr ⟨regular, List.forall_mem_singleton.mpr read.regular⟩
  inside := fun _ member => member
  placed := ⟨m.chain, [], rfl, nofun⟩
  distinct := List.nodup_nil
  derived := derived
  root := by
    rcases read.regular.cases_parent? with orphan | ⟨parent, after, named, shape, texts⟩
    · exact .inl orphan
    · exact .inr ⟨rfl, rfl, t.opening, parent, after, named, shape, texts⟩

/-- A template that inherits is entered at a heading, and it has a parent. -/
theorem Sound.heading_of_inherits {parent : Expr}
    (sound : Sound ⟨⟨rounds, owner, .inherits parent :: rest, m⟩, current, opened⟩) :
    owner.parent? = some parent := by
  rcases sound.root with ⟨-, alone⟩ | ⟨-, own, texts, other, after, named, shape, plain⟩
  · have last := alone _ (Node.mem_allIn_of_mem List.mem_cons_self)
    cases last
  · cases texts with
    | nil =>
      obtain ⟨same, -⟩ := List.cons.inj shape
      cases same
      have entered : owner = current := own
      rw [entered]
      exact named
    | cons text texts =>
      obtain ⟨rfl, -⟩ := List.cons.inj shape
      cases plain _ List.mem_cons_self

/-- The nodes after the first are at a sound site. -/
theorem Sound.onward {n : Machine}
    (sound : Sound ⟨⟨rounds, owner, first :: rest, m⟩, current, opened⟩)
    (goesOn : Render.isLast first = false) (stays : m.Stays n) :
    Sound ⟨⟨rounds, owner, rest, n⟩, current, opened⟩ := by
  have within : Node.allIn rest ⊆ Node.allIn (first :: rest) := by
    rw [Node.allIn_cons]
    exact List.subset_append_right _ _
  refine sound.narrow within stays ?_
  rcases sound.root with ⟨orphan, alone⟩ | ⟨none_, own, texts, parent, later, named, shape, plain⟩
  · exact .inl ⟨orphan, alone.of_subset within⟩
  · cases texts with
    | nil =>
      obtain ⟨rfl, -⟩ := List.cons.inj shape
      cases goesOn
    | cons text texts =>
      obtain ⟨-, rfl⟩ := List.cons.inj shape
      have others : ∀ node ∈ texts, node.isText = true :=
        fun node member => plain node (List.mem_cons_of_mem _ member)
      exact .inr ⟨none_, own, texts, parent, later, named, rfl, others⟩

end Steps

/-- What is so at a site is so at the next. -/
theorem Sound.enters {site next : Site setting} (sound : site.Sound) (enters : Enters site next) :
    next.Sound := by
  cases enters with
  | onward goesOn rendered =>
    have back := (Render.steady_node _ _).returns rendered
    exact sound.onward goesOn back.toStays
  | nodes begins =>
    rcases begins.nodes_cases with ⟨rfl, held, bare, stays⟩ | ⟨name, body, rfl, place, rfl⟩
    · rw [Node.opens, bare]
      exact sound.held held stays _
    · obtain ⟨rfl, rfl⟩ := Prod.mk.inj place
      exact sound.chosen
  | template begins other room =>
    obtain ⟨read, known, ⟨parent, rfl, chain⟩ | chain⟩ := begins.template_cases sound.known
    · refine sound_first read known ?_ ?_
      · rw [chain, List.forall_mem_append, List.forall_mem_singleton]
        exact ⟨fun d member => sound.regular d (List.mem_append_left _ member),
          sound.regular _ sound.owner_mem⟩
      · rw [chain, List.forall_mem_append, List.forall_mem_singleton]
        exact ⟨sound.derived, parent, sound.heading_of_inherits⟩
    · exact sound_first read known (by simp [chain]) (by simp [chain])
  | round round begins =>
    obtain ⟨own, held, -, stays⟩ := round.of_begins begins
    rw [own]
    exact sound.held held stays _

/-- Wherever a render comes, the site is sound. -/
theorem sound_of_visits {t : Template} {m : Machine} {site : Site setting} (read : t.Parsed)
    (known : m.library.Parsed) (visits : t.Visits setting m site) : site.Sound := by
  induction visits with
  | refl => exact sound_first read known nofun nofun
  | tail before enters ih => exact ih.enters enters

end Site

end Sites

/-- Wherever the render of a template comes, no block is open inside itself, and none is begun that
is open; and where no overriding template has the block that is begun, it is of the template entered
last, which is the root of the line: those that override have parents, and it has none. So it is for
all templates that were read, and the sites to which a render comes are all those at which it begins
a node, whatever the fuel. -/
theorem Template.opened_once {setting : Setting} {t : Template} {m : Machine} (read : t.Parsed)
    (known : m.library.Parsed) :
    (∀ fuel, t.Always (fun node k => ∃ site : Site setting, t.Visits setting m site ∧
      site.point.nodes.head? = some node ∧ site.point.machine = k) setting fuel m) ∧
    ∀ site : Site setting, t.Visits setting m site →
      site.opened.Nodup ∧
      ∀ name body rest, site.point.nodes = .block name body :: rest →
        name ∉ site.opened ∧
        ((∀ d ∈ site.point.machine.chain, d.blocks.get? name = none) →
          Render.blockBody site.point.machine.chain site.point.owner name body =
            (site.current, body) ∧
          site.current.parent? = none ∧
          ∀ d ∈ site.point.machine.chain, ∃ parent, d.parent? = some parent) := by
  refine ⟨fun fuel => ?_, fun site visits => ?_⟩
  · refine (Template.always_comes setting fuel t m).mono fun node k begun => ?_
    obtain ⟨point, comes, first, same⟩ := begun
    obtain ⟨current, opened, visits⟩ := comes.exists_visits
    exact ⟨_, visits, first, same⟩
  · have sound := Site.sound_of_visits read known visits
    refine ⟨sound.distinct, fun name body rest first => ?_⟩
    obtain ⟨⟨rounds, owner, nodes, k⟩, current, opened⟩ := site
    cases first
    obtain ⟨bound, fresh⟩ := sound.fresh
    obtain ⟨orphan, -⟩ := sound.root_of_bodies (List.cons_ne_nil body [])
    refine ⟨fresh, fun lacking => ⟨?_, orphan, sound.derived⟩⟩
    have own : owner = current := by
      have member : owner ∈ k.chain ++ [current] := sound.owner_mem
      rcases List.mem_append.mp member with overriding | last
      · have lacks := lacking owner overriding
        rw [bound] at lacks
        cases lacks
      · exact List.mem_singleton.mp last
    have missing : (k.chain.findSome? fun d => (d.blocks.get? name).map (d, ·)) = none :=
      List.findSome?_eq_none_iff.mpr fun d member => by rw [lacking d member]; rfl
    rw [Render.blockBody, missing, own]
    rfl

/-- A template with blocks, some of which stand inside others. -/
def Template.sheet : Template where
  name := "sheet"
  nodes := [.block "head" [.text "h"], .block "foot" [.block "mark" [.block "title" [.text "t"]]]]
  blocks := .ofList [("head", [.text "h"]), ("title", [.text "t"]),
    ("mark", [.block "title" [.text "t"]]), ("foot", [.block "mark" [.block "title" [.text "t"]]])]

/-- A template that puts one of them into the one that stands alone. -/
def Template.letter : Template where
  name := "letter"
  nodes := [.inherits ⟨.literal (.text "sheet"), []⟩, .block "head" [.block "title" []]]
  blocks := .ofList [("title", []), ("head", [.block "title" []])]

/-- A template that nests two of them the other way round. -/
def Template.memo : Template where
  name := "memo"
  nodes := [.inherits ⟨.literal (.text "letter"), []⟩,
    .block "title" [.block "mark" [.text "m"]]]
  blocks := .ofList [("mark", [.text "m"]), ("title", [.block "mark" [.text "m"]])]

set_option maxRecDepth 1000 in
/-- The sheet is read from its source. -/
theorem Template.parse_sheet : Source.parse "sheet" (Source.tag "block head" ++ "h" ++
    Source.tag "endblock" ++ Source.tag "block foot" ++ Source.tag "block mark" ++
    Source.tag "block title" ++ "t" ++ Source.tag "endblock" ++ Source.tag "endblock" ++
    Source.tag "endblock").toList = .ok sheet := by
  with_unfolding_all rfl

/-- The letter is read from its source. -/
theorem Template.parse_letter : Source.parse "letter" (Source.tag "extends 'sheet'" ++
    Source.tag "block head" ++ Source.tag "block title" ++ Source.tag "endblock" ++
    Source.tag "endblock").toList = .ok letter := by
  with_unfolding_all rfl

/-- The memo is read from its source. -/
theorem Template.parse_memo : Source.parse "memo" (Source.tag "extends 'letter'" ++
    Source.tag "block title" ++ Source.tag "block mark" ++ "m" ++ Source.tag "endblock" ++
    Source.tag "endblock").toList = .ok memo := by
  with_unfolding_all rfl

/-- A machine that knows these three. -/
def Machine.memos : Machine :=
  .start (((Table.insert ∅ "sheet" .sheet).insert "letter" .letter).insert "memo" .memo) ∅ ∅

/-- The templates of the memo are known as they were read. -/
theorem Machine.parsed_memos : Machine.memos.library.Parsed :=
  ((Library.parsed_empty.insert Template.parse_sheet).insert Template.parse_letter).insert
    Template.parse_memo

/-- That machine while the base is rendered and the others override. -/
def Machine.inSheet : Machine :=
  { memos with active := ["memo", "letter", "sheet"], chain := [.memo, .letter] }

/-- The third of them comes to the base. -/
theorem Template.visits_sheet : Template.memo.Visits ⟨.silent, default⟩ .memos
    ⟨⟨[], .sheet, Template.sheet.nodes, .inSheet⟩, .sheet, []⟩ := by
  have inherits : ∀ (owner t : Template) (m : Machine),
      Library.normalise t.name = t.name → m.library.get? t.name = some t →
      Render.Begins ⟨.silent, default⟩ owner (.inherits ⟨.literal (.text t.name), []⟩) m
        (.template t) { m with chain := m.chain ++ [owner] } := by
    intro owner t m normal known
    rw [← normal] at known
    exact .parent (Render.resolve_of_known known)
  have letter := inherits .memo .letter { Machine.memos with active := ["memo"] } (by decide) rfl
  have sheet := inherits .letter .sheet
    { Machine.memos with active := ["memo", "letter"], chain := [.memo] } (by decide) rfl
  have entered : Template.memo.Visits ⟨.silent, default⟩ .memos
      ⟨⟨[], .letter, Template.letter.nodes,
        { Machine.memos with active := ["memo", "letter"], chain := [.memo] }⟩, .letter, []⟩ :=
    .tail .refl (.template letter (by decide) (by decide))
  exact entered.tail (.template sheet (by decide) (by decide))

/-- In the render of the third template three blocks come to be open inside one another, one of each
template, and each of them once. A block that neither of the derived templates has is that of the
base. -/
theorem Template.opened_once_memo :
    (∃ site : Site ⟨.silent, default⟩, Template.memo.Visits ⟨.silent, default⟩ .memos site ∧
      site.opened = ["mark", "title", "head"] ∧ site.opened.Nodup) ∧
    ∃ site : Site ⟨.silent, default⟩, Template.memo.Visits ⟨.silent, default⟩ .memos site ∧
      site.point.nodes.head? = some (.block "foot" [.block "mark" [.block "title" [.text "t"]]]) ∧
      Render.blockBody site.point.machine.chain site.point.owner "foot"
        [.block "mark" [.block "title" [.text "t"]]] =
          (.sheet, [.block "mark" [.block "title" [.text "t"]]]) := by
  have read : Template.memo.Parsed := ⟨_, Template.parse_memo⟩
  have base := Template.visits_sheet
  constructor
  · have block : ∀ {owner : Template} {name : String} {body : List Node} {m : Machine}
        (source : Template) (inner : List Node),
        Render.blockBody m.chain owner name body = (source, inner) →
        Render.Begins ⟨.silent, default⟩ owner (.block name body) m (.nodes source inner) m := by
      intro owner name body m source inner place
      have begins := @Render.Begins.block ⟨.silent, default⟩ owner name body m
      rwa [place] at begins
    have head := base.tail (.nodes (block .letter [.block "title" []] rfl))
    have title := head.tail (.nodes (block .memo [.block "mark" [.text "m"]] rfl))
    have mark := title.tail (.nodes (block .memo [.text "m"] rfl))
    exact ⟨_, mark, rfl, ((Template.opened_once read Machine.parsed_memos).2 _ mark).1⟩
  · obtain ⟨n, done⟩ : ∃ n, Render.node ⟨.silent, default⟩ (Render.run ⟨.silent, default⟩ 9) .sheet
        (.block "head" [.text "h"]) .inSheet = .done () n :=
      ⟨_, rfl⟩
    have ended := (Render.node_complete_of_run (by rw [done]; nofun)).trans done
    have foot := base.tail (.onward rfl ended)
    have chain : n.chain = [.memo, .letter] := ((Render.steady_node _ _).returns ended).chain
    have lacking : ∀ d ∈ n.chain, d.blocks.get? "foot" = none := by
      rw [chain]
      exact List.forall_mem_cons.mpr ⟨rfl, List.forall_mem_singleton.mpr rfl⟩
    have once := (Template.opened_once read Machine.parsed_memos).2 _ foot
    exact ⟨_, foot, rfl, ((once.2 _ _ _ rfl).2 lacking).1⟩

end TextTemplate

import TextTemplate.Proofs.Render.Overriding
import TextTemplate.Proofs.Template.Reading
/-!
# Lines of templates

A template may derive from another, and that from another in turn. The names of the parents are
expressions, so which templates stand in a line depends on the context and on the heap, and finding
out may invoke callables. `Lineage` tells the line of a template together with the heap that is
left.

What a line renders is the nodes of its last template with every block replaced, at every depth and
also inside what replaced another, by the body that the first template of the line has for it.
`Flattens` tells this of lists of nodes. Nodes of a line that was read can be flattened, in one way.
-/
namespace TextTemplate

namespace Template

/-- The nodes before the first that inherits. -/
def opening (t : Template) : List Node := t.nodes.takeWhile fun node => !Render.isLast node

/-- What the template gives as the name of its parent, if it has one. -/
def parent? (t : Template) : Option Expr := (t.nodes.find? Render.isLast).bind Node.operand?

/-- The template under a new name that has the texts before the inheriting nodes of some templates
and then other nodes. -/
def flattened (name : String) (chain : List Template) (flat : List Node) : Template where
  name := name
  nodes := chain.flatMap opening ++ flat
  blocks := ∅

end Template

/-- Each of the templates of a chain names the next one as its parent, the last of them names
another template, and that one has no parent. The names are evaluated in order from the first heap
on, and they leave the second heap. -/
inductive Lineage (host : Host) (context : Context) (library : Library) :
    Heap → Template → List Template → Template → Heap → Prop
  /-- A template without a parent. -/
  | base {heap : Heap} {t : Template} (known : library.get? t.name = some t)
      (orphan : t.parent? = none) : Lineage host context library heap t [] t heap
  /-- A template and the line of its parent. -/
  | derived {heap after : Heap} {t parent last : Template} {chain : List Template} {expr : Expr}
      (known : library.get? t.name = some t) (inherits : t.parent? = some expr)
      (named : library.get?
        (Library.normalise (expr.eval host context ⟨heap, #[]⟩).1.text) = some parent)
      (line : Lineage host context library (expr.eval host context ⟨heap, #[]⟩).2.heap parent chain
        last after) : Lineage host context library heap t (t :: chain) last after

/-- The second nodes are the first with every block replaced by the body that the first of the
templates has for it which has one; what replaces a block has its own blocks replaced as well. -/
inductive Flattens (ts : List Template) : List Node → List Node → Prop
  /-- No nodes. -/
  | nil : Flattens ts [] []
  /-- A node that is no block and holds no nodes. -/
  | leaf {node : Node} {rest flat : List Node} (bare : node.bodies = [])
      (goesOn : Render.isLast node = false) (later : Flattens ts rest flat) :
      Flattens ts (node :: rest) (node :: flat)
  /-- A loop, whose parts are flattened. -/
  | forEach {var : String} {list : Expr} {reversed : Bool}
      {body body' otherwise otherwise' rest flat : List Node} (inside : Flattens ts body body')
      (empty : Flattens ts otherwise otherwise') (later : Flattens ts rest flat) :
      Flattens ts (.forEach var list reversed body otherwise :: rest)
        (.forEach var list reversed body' otherwise' :: flat)
  /-- A choice, whose parts are flattened. -/
  | condition {test : Expr} {negated : Bool} {yes yes' no no' rest flat : List Node}
      (first : Flattens ts yes yes') (second : Flattens ts no no') (later : Flattens ts rest flat) :
      Flattens ts (.condition test negated yes no :: rest)
        (.condition test negated yes' no' :: flat)
  /-- A block, in whose place stand the nodes of the chosen body. -/
  | block {name : String} {body chosen inner rest flat : List Node}
      (found : ts.findSome? (·.blocks.get? name) = some chosen) (inside : Flattens ts chosen inner)
      (later : Flattens ts rest flat) : Flattens ts (.block name body :: rest) (inner ++ flat)

namespace Flattens

variable {ts : List Template} {ns flat : List Node}

/-- No node inherits after flattening, at any depth. -/
theorem standalone (flattens : Flattens ts ns flat) : Node.Standalone flat := by
  induction flattens with
  | nil => simp [Node.Standalone]
  | leaf bare goesOn _ ih => exact (Node.Standalone.of_flat bare goesOn).append ih
  | forEach _ _ _ inside empty ih =>
    exact (Node.Standalone.of_bodies rfl (by simp [Node.bodies, inside, empty])).append ih
  | condition _ _ _ first second ih =>
    exact (Node.Standalone.of_bodies rfl (by simp [Node.bodies, first, second])).append ih
  | block _ _ _ inside ih => exact inside.append ih

/-- Nothing inherits in a flattened forest. -/
theorem goesOn (flattens : Flattens ts ns flat) : ∀ n ∈ flat, Render.isLast n = false :=
  fun n member => flattens.standalone n (Node.mem_allIn_of_mem member)

/-- No block is left after flattening. -/
theorem blocksIn_eq_nil (flattens : Flattens ts ns flat) : Node.blocksIn flat = [] := by
  induction flattens with
  | nil => exact Node.blocksIn_nil
  | @leaf node _ _ bare _ _ ih =>
    cases node <;> simp_all [Node.blocksIn_cons, Node.bodies, Node.block?]
  | forEach _ _ _ inside empty ih =>
    simp [Node.blocksIn_cons, Node.bodies, Node.block?, inside, empty, ih]
  | condition _ _ _ first second ih =>
    simp [Node.blocksIn_cons, Node.bodies, Node.block?, first, second, ih]
  | block _ _ _ inside ih => rw [Node.blocksIn_append, inside, ih, List.append_nil]

/-- Nodes are flattened in one way. -/
theorem unique {flat' : List Node} (flattens : Flattens ts ns flat)
    (other : Flattens ts ns flat') : flat = flat' := by
  induction flattens generalizing flat' with
  | nil =>
    cases other
    rfl
  | leaf bare _ _ ih =>
    cases other with
    | leaf _ _ later => rw [ih later]
    | forEach _ _ _ => cases bare
    | condition _ _ _ => cases bare
    | block _ _ _ => cases bare
  | forEach _ _ _ inside empty ih =>
    cases other with
    | leaf bare _ _ => cases bare
    | forEach body otherwise later => rw [inside body, empty otherwise, ih later]
  | condition _ _ _ first second ih =>
    cases other with
    | leaf bare _ _ => cases bare
    | condition yes no later => rw [first yes, second no, ih later]
  | block found _ _ inside ih =>
    cases other with
    | leaf bare _ _ => cases bare
    | block found' replaced later =>
      obtain rfl := Option.some.inj (found.symm.trans found')
      rw [inside replaced, ih later]

end Flattens

/-- A text does not inherit. -/
theorem Node.isLast_of_isText {node : Node} (text : node.isText = true) :
    Render.isLast node = false := by
  cases node <;> first | rfl | cases text

/-- A template that was read has no parent and no node that inherits, or it is texts, a node that
inherits from its parent, and what follows. -/
theorem Template.Regular.cases_parent? {t : Template} (regular : t.Regular) :
    (t.parent? = none ∧ Node.Standalone t.nodes) ∨
      ∃ parent after, t.parent? = some parent ∧ t.nodes = t.opening ++ .inherits parent :: after ∧
        ∀ node ∈ t.opening, node.isText = true := by
  rcases regular.opening with alone | ⟨before, parent, after, shape, texts, -⟩
  · have missing : t.nodes.find? Render.isLast = none :=
      List.find?_eq_none.mpr fun node member => by
        rw [alone node (Node.mem_allIn_of_mem member)]
        exact Bool.false_ne_true
    exact .inl ⟨by rw [Template.parent?, missing, Option.bind_none], alone⟩
  · have passed : ∀ node ∈ before, Render.isLast node = false := fun node member =>
      Node.isLast_of_isText (texts node member)
    have opening : t.opening = before := by
      rw [Template.opening, shape, List.takeWhile_append_of_pos (by simpa using passed)]
      simp [Render.isLast]
    have found : t.nodes.find? Render.isLast = some (.inherits parent) := by
      have none : before.find? Render.isLast = none :=
        List.find?_eq_none.mpr fun node member => by simp [passed node member]
      rw [shape, List.find?_append, none]
      rfl
    refine .inr ⟨parent, after, ?_, by rw [opening, shape], opening ▸ texts⟩
    rw [Template.parent?, found]
    rfl

/-- A template that was read and has a parent is texts, the node that inherits, and the rest. -/
theorem Template.Regular.nodes_of_parent? {t : Template} (regular : t.Regular) {parent : Expr}
    (inherits : t.parent? = some parent) :
    ∃ rest, t.nodes = t.opening ++ .inherits parent :: rest ∧
      ∀ node ∈ t.opening, node.isText = true := by
  rcases regular.cases_parent? with ⟨orphan, -⟩ | ⟨other, rest, named, shape, texts⟩
  · rw [orphan] at inherits
    cases inherits
  · obtain rfl : other = parent := Option.some.inj (named.symm.trans inherits)
    exact ⟨rest, shape, texts⟩

/-- No node inherits in a template that was read and has no parent. -/
theorem Template.Regular.standalone_of_parent? {t : Template} (regular : t.Regular)
    (orphan : t.parent? = none) : Node.Standalone t.nodes := by
  rcases regular.cases_parent? with ⟨-, alone⟩ | ⟨parent, rest, named, -, -⟩
  · exact alone
  · rw [orphan] at named
    cases named

namespace Lineage

variable {host : Host} {context : Context} {library : Library} {heap after : Heap}
  {t last : Template} {chain : List Template}

/-- The templates of a line are known. -/
theorem known (line : Lineage host context library heap t chain last after) :
    ∀ d ∈ chain ++ [last], library.get? d.name = some d := by
  induction line with
  | base known _ => exact List.forall_mem_singleton.mpr known
  | derived known _ _ _ ih => exact List.forall_mem_cons.mpr ⟨known, ih⟩

/-- The last template of a line has no parent. -/
theorem orphan (line : Lineage host context library heap t chain last after) :
    last.parent? = none := by
  induction line with
  | base _ orphan => exact orphan
  | derived _ _ _ _ ih => exact ih

/-- The templates of a line before the last have parents. -/
theorem exists_parent? (line : Lineage host context library heap t chain last after) :
    ∀ d ∈ chain, ∃ parent, d.parent? = some parent := by
  induction line with
  | base _ _ => exact nofun
  | derived _ inherits _ _ ih => exact List.forall_mem_cons.mpr ⟨⟨_, inherits⟩, ih⟩

/-- What the templates of a line render before their parents is text. -/
theorem texts (parsed : library.Parsed)
    (line : Lineage host context library heap t chain last after) :
    ∀ node ∈ chain.flatMap Template.opening, node.isText = true := by
  intro node member
  obtain ⟨d, inside, opens⟩ := List.mem_flatMap.mp member
  have known := line.known d (List.mem_append_left _ inside)
  obtain ⟨parent, inherits⟩ := line.exists_parent? d inside
  obtain ⟨-, -, texts⟩ := (parsed _ d known).2.regular.nodes_of_parent? inherits
  exact texts node opens

/-- The flattened template of a line is like a template that was read. -/
theorem regular_flattened (parsed : library.Parsed)
    (line : Lineage host context library heap t chain last after) (name : String)
    {flat : List Node} (flattens : Flattens (chain ++ [last]) last.nodes flat) :
    (Template.flattened name chain flat).Regular where
  get?_blocks key body := by
    have texts := line.texts parsed
    have none : Node.blocksIn (chain.flatMap Template.opening) = [] := by
      rw [Node.blocksIn, Node.allIn_texts texts, List.filterMap_eq_nil_iff]
      intro node member
      have text := texts node member
      cases node <;> first | rfl | cases text
    rw [Template.flattened, Node.blocksIn_append, none, flattens.blocksIn_eq_nil]
    simp
  opening := by
    have texts := line.texts parsed
    have alone : Node.Standalone (chain.flatMap Template.opening) := by
      intro node found
      rw [Node.allIn_texts texts] at found
      exact Node.isLast_of_isText (texts node found)
    exact .inl (alone.append flattens.standalone)

end Lineage

section Existence

variable {chain : List Template} {last : Template}
  (regular : ∀ t ∈ chain ++ [last], t.Regular)

include regular

/-- Nodes of a line of templates that do not inherit can be flattened. -/
theorem Flattens.exists_of_standalone {owner : Template} {ns : List Node}
    (member : owner ∈ chain ++ [last]) (inside : Node.allIn ns ⊆ Node.allIn owner.nodes)
    (alone : Node.Standalone ns) : ∃ flat, Flattens (chain ++ [last]) ns flat := by
  obtain ⟨before, rest, whole⟩ := List.append_of_mem member
  refine Render.placed_induction (motive := fun owner ns => owner ∈ chain ++ [last] →
      Node.Standalone ns → ∃ flat, Flattens (chain ++ [last]) ns flat) chain
    (fun t within => regular t (List.mem_append_left _ within)) (fun before owner ns _ read inside
      held blocks member alone => ?_) before owner ns (Render.placed_of_append whole)
    (regular owner member) inside member alone
  have every : ∀ ms, ms ⊆ ns → ∃ flat, Flattens (chain ++ [last]) ms flat := by
    intro ms
    induction ms with
    | nil => exact fun _ => ⟨[], .nil⟩
    | cons first rest ih =>
      intro within
      have here := within List.mem_cons_self
      obtain ⟨flat, later⟩ := ih fun n found => within (List.mem_cons_of_mem _ found)
      have part : ∀ body ∈ first.bodies, first.block? = none →
          ∃ flat, Flattens (chain ++ [last]) body flat := fun body holds bare =>
        held first here bare body holds member
          (alone.of_subset (Node.allIn_subset_of_mem here holds))
      cases first with
      | forEach var list reversed body otherwise =>
        obtain ⟨body', inside⟩ := part body (by simp [Node.bodies]) rfl
        obtain ⟨otherwise', empty⟩ := part otherwise (by simp [Node.bodies]) rfl
        exact ⟨_, .forEach inside empty later⟩
      | condition test negated yes no =>
        obtain ⟨yes', first⟩ := part yes (by simp [Node.bodies]) rfl
        obtain ⟨no', second⟩ := part no (by simp [Node.bodies]) rfl
        exact ⟨_, .condition first second later⟩
      | block name body =>
        have bound := Render.get?_of_mem read (inside (Node.mem_allIn_of_mem here))
        obtain ⟨source, chosen, place, among, known, found⟩ := Render.blockBody_of_mem member bound
        have replaced := blocks name body here
        rw [place] at replaced
        obtain ⟨inner, inside⟩ := replaced among ((regular source among).standalone_body known)
        exact ⟨_, .block found inside later⟩
      | inherits parent => cases alone _ (Node.mem_allIn_of_mem here)
      | text s => exact ⟨_, .leaf rfl rfl later⟩
      | «variable» expr => exact ⟨_, .leaf rfl rfl later⟩
      | includes template => exact ⟨_, .leaf rfl rfl later⟩
      | creates file template line => exact ⟨_, .leaf rfl rfl later⟩
  exact every ns fun _ => id

end Existence

end TextTemplate

import TextTemplate.Render.Step
import Mathlib.Data.List.Basic
/-!
# The tree of a template

A node holds lists of nodes, so a list of nodes is a forest. `allIn` lists its nodes at every depth,
outer ones first; the blocks of a forest, the places where it names other templates and the absence
of inheriting nodes are read off that list. A node inside a node of the forest is a node of the
forest, and a body inside a forest is smaller than the forest. `Template.Regular` says what every
template that was read satisfies: its table holds exactly the blocks of its tree, and a node that
inherits stands at the top, after text alone.
-/
namespace TextTemplate

namespace Node

/-- The lists of nodes that a node holds. -/
def bodies : Node → List (List Node)
  | .forEach _ _ _ body otherwise => [body, otherwise]
  | .condition _ _ yes no => [yes, no]
  | .block _ body => [body]
  | _ => []

/-- The name and the body of a block. -/
def block? : Node → Option (String × List Node)
  | .block name body => some (name, body)
  | _ => none

/-- Whether a node is text as it stands. -/
def isText : Node → Bool
  | .text _ => true
  | _ => false

/-- The expression with which a node names another template. -/
def operand? : Node → Option Expr
  | .inherits parent => some parent
  | .includes template => some template
  | .creates _ template _ => some template
  | _ => none

mutual

/-- A node and the nodes inside it. -/
def all : Node → List Node
  | .text s => [.text s]
  | .variable expr => [.variable expr]
  | .forEach var list reversed body otherwise =>
    .forEach var list reversed body otherwise :: (allIn body ++ allIn otherwise)
  | .condition test negated yes no => .condition test negated yes no :: (allIn yes ++ allIn no)
  | .block name body => .block name body :: allIn body
  | .inherits parent => [.inherits parent]
  | .includes template => [.includes template]
  | .creates file template line => [.creates file template line]

/-- The nodes of a forest at every depth. -/
def allIn : List Node → List Node
  | [] => []
  | first :: rest => first.all ++ allIn rest

end

/-- An empty forest has no nodes. -/
@[simp] theorem allIn_nil : allIn [] = [] := by rw [allIn]

/-- The nodes of a forest are those of its first tree and those of the others. -/
@[simp] theorem allIn_cons (first : Node) (rest : List Node) :
    allIn (first :: rest) = first.all ++ allIn rest := by rw [allIn]

/-- The nodes of two forests are those of both. -/
@[simp] theorem allIn_append (front back : List Node) :
    allIn (front ++ back) = allIn front ++ allIn back := by
  induction front with
  | nil => simp
  | cons first rest ih => simp [ih]

/-- A node comes first among its own, followed by those of the lists that it holds. -/
theorem all_eq (node : Node) : node.all = node :: node.bodies.flatMap allIn := by
  cases node <;> simp [all, bodies]

/-- A node is one of the nodes of its tree. -/
theorem mem_all_self (node : Node) : node ∈ node.all := by
  rw [all_eq]
  exact List.mem_cons_self

/-- The nodes of a forest are those of its members. -/
theorem mem_allIn_iff {node : Node} {forest : List Node} :
    node ∈ allIn forest ↔ ∃ member ∈ forest, node ∈ member.all := by
  induction forest with
  | nil => simp
  | cons first rest ih => simp [ih]

/-- A tree of a forest is one of its nodes. -/
theorem mem_allIn_of_mem {node : Node} {forest : List Node} (member : node ∈ forest) :
    node ∈ allIn forest :=
  mem_allIn_iff.mpr ⟨node, member, node.mem_all_self⟩

/-- The lists that a member of a forest holds lie inside the forest. -/
theorem allIn_subset_of_mem {node : Node} {forest body : List Node} (member : node ∈ forest)
    (held : body ∈ node.bodies) : allIn body ⊆ allIn forest := by
  intro inner inside
  refine mem_allIn_iff.mpr ⟨node, member, ?_⟩
  rw [all_eq]
  exact List.mem_cons_of_mem _ (List.mem_flatMap.mpr ⟨body, held, inside⟩)

/-- A list held by a member of a forest is smaller than the forest. -/
theorem sizeOf_lt_of_mem {node : Node} {forest body : List Node} (member : node ∈ forest)
    (held : body ∈ node.bodies) : sizeOf body < sizeOf forest := by
  have inner : sizeOf body < sizeOf node := by
    cases node <;> simp only [bodies, List.mem_cons, List.not_mem_nil, or_false] at held
    · rcases held with rfl | rfl <;> simp only [forEach.sizeOf_spec] <;> omega
    · rcases held with rfl | rfl <;> simp only [condition.sizeOf_spec] <;> omega
    · subst held
      simp only [block.sizeOf_spec]
      omega
  exact Nat.lt_trans inner (List.sizeOf_lt_of_mem member)

/-- What a node of a forest holds lies inside the forest, however deep the node stands. -/
theorem allIn_subset {inner : Node} {forest body : List Node} (held : body ∈ inner.bodies)
    (inside : inner ∈ allIn forest) : allIn body ⊆ allIn forest := by
  obtain ⟨member, here, deep⟩ := mem_allIn_iff.mp inside
  rw [all_eq, List.mem_cons] at deep
  rcases deep with rfl | deeper
  · exact allIn_subset_of_mem here held
  · obtain ⟨between, holds, found⟩ := List.mem_flatMap.mp deeper
    exact List.Subset.trans (allIn_subset held found) (allIn_subset_of_mem here holds)
termination_by sizeOf forest
decreasing_by exact sizeOf_lt_of_mem here holds

/-- A node of a forest is smaller than the forest, however deep it stands. -/
theorem sizeOf_lt_of_mem_allIn {node : Node} {forest : List Node} (inside : node ∈ allIn forest) :
    sizeOf node < sizeOf forest := by
  obtain ⟨member, here, deep⟩ := mem_allIn_iff.mp inside
  rw [all_eq, List.mem_cons] at deep
  rcases deep with rfl | deeper
  · exact List.sizeOf_lt_of_mem here
  · obtain ⟨between, holds, found⟩ := List.mem_flatMap.mp deeper
    exact Nat.lt_trans (sizeOf_lt_of_mem_allIn found) (sizeOf_lt_of_mem here holds)
termination_by sizeOf forest
decreasing_by exact sizeOf_lt_of_mem here holds

/-- A block does not stand inside its own body. -/
theorem block_not_mem_allIn (name : String) (body : List Node) :
    .block name body ∉ allIn body := by
  intro inside
  have smaller := sizeOf_lt_of_mem_allIn inside
  simp only [block.sizeOf_spec] at smaller
  omega

/-- The blocks of a forest at every depth, outer ones first. -/
def blocksIn (forest : List Node) : List (String × List Node) := (allIn forest).filterMap block?

/-- An empty forest has no blocks. -/
@[simp] theorem blocksIn_nil : blocksIn [] = [] := by simp [blocksIn]

/-- The blocks of a node are itself, if it is one, and those of the lists that it holds. -/
theorem blocksIn_cons (first : Node) (rest : List Node) :
    blocksIn (first :: rest) =
      first.block?.toList ++ first.bodies.flatMap blocksIn ++ blocksIn rest := by
  have inner : (first.bodies.flatMap allIn).filterMap block? = first.bodies.flatMap blocksIn :=
    List.filterMap_flatMap
  rw [blocksIn, allIn_cons, all_eq, List.filterMap_append, ← inner, blocksIn]
  cases shape : first.block? <;> simp [shape]

/-- The blocks of two forests are those of both. -/
@[simp] theorem blocksIn_append (front back : List Node) :
    blocksIn (front ++ back) = blocksIn front ++ blocksIn back := by
  simp [blocksIn]

/-- A block of a forest is a node of it, with the name and the body. -/
theorem mem_blocksIn {name : String} {body forest : List Node} :
    (name, body) ∈ blocksIn forest ↔ .block name body ∈ allIn forest := by
  rw [blocksIn, List.mem_filterMap]
  constructor
  · rintro ⟨node, inside, shape⟩
    cases node <;> simp only [block?, reduceCtorEq, Option.some.injEq, Prod.mk.injEq] at shape
    obtain ⟨rfl, rfl⟩ := shape
    exact inside
  · intro inside
    exact ⟨_, inside, rfl⟩

/-- The body of a block lies inside the forest of the block. -/
theorem allIn_subset_of_block {name : String} {body forest : List Node}
    (found : (name, body) ∈ blocksIn forest) : allIn body ⊆ allIn forest :=
  allIn_subset List.mem_cons_self (mem_blocksIn.mp found)

/-- No node of the forest inherits. -/
def Standalone (forest : List Node) : Prop := ∀ node ∈ allIn forest, Render.isLast node = false

instance (forest : List Node) : Decidable (Standalone forest) :=
  inferInstanceAs (Decidable (∀ node ∈ allIn forest, Render.isLast node = false))

/-- Where nothing inherits nothing does so in a part. -/
theorem Standalone.of_subset {inner forest : List Node} (alone : Standalone forest)
    (inside : allIn inner ⊆ allIn forest) : Standalone inner :=
  fun node found => alone node (inside found)

/-- Where nothing inherits in two forests nothing does so in both together. -/
theorem Standalone.append {front back : List Node} (first : Standalone front)
    (second : Standalone back) : Standalone (front ++ back) := by
  intro node found
  rw [allIn_append, List.mem_append] at found
  exact found.elim (first node) (second node)

/-- A node that does not inherit, and none inherits in the lists that it holds. -/
theorem Standalone.of_bodies {node : Node} (goesOn : Render.isLast node = false)
    (held : ∀ body ∈ node.bodies, Standalone body) : Standalone [node] := by
  intro found inside
  rw [allIn_cons, allIn_nil, List.append_nil, all_eq, List.mem_cons] at inside
  rcases inside with rfl | deeper
  · exact goesOn
  · obtain ⟨body, holds, within⟩ := List.mem_flatMap.mp deeper
    exact held body holds found within

/-- Nodes that hold no lists and do not inherit. -/
theorem Standalone.of_flat {node : Node} (flat : node.bodies = [])
    (goesOn : Render.isLast node = false) : Standalone [node] :=
  .of_bodies goesOn (by simp [flat])

/-- Texts hold no node but themselves. -/
theorem allIn_texts {forest : List Node} (texts : ∀ node ∈ forest, node.isText = true) :
    allIn forest = forest := by
  induction forest with
  | nil => simp
  | cons first rest ih =>
    have text := texts first List.mem_cons_self
    have later := ih fun node found => texts node (List.mem_cons_of_mem _ found)
    cases first <;> simp_all [isText, all]

/-- A node of the forest inherits only at its top and after text alone, and at most one does. -/
def InheritsFirst (forest : List Node) : Prop :=
  Standalone forest ∨ ∃ before parent after, forest = before ++ .inherits parent :: after ∧
    (∀ node ∈ before, node.isText = true) ∧ Standalone after

/-- After a forest that inherits at the top may come one in which nothing inherits. -/
theorem InheritsFirst.append {front back : List Node} (first : InheritsFirst front)
    (second : Standalone back) : InheritsFirst (front ++ back) := by
  rcases first with alone | ⟨before, parent, after, rfl, texts, alone⟩
  · exact .inl (alone.append second)
  · exact .inr ⟨before, parent, after ++ back, by simp, texts, alone.append second⟩

end Node

/-- What every template satisfies that was read from a source. -/
structure Template.Regular (t : Template) : Prop where
  /-- The table binds a name to a body exactly if a block of the tree has both. -/
  get?_blocks : ∀ name body, t.blocks.get? name = some body ↔ (name, body) ∈ Node.blocksIn t.nodes
  /-- A node inherits only at the top of the tree and after text alone. -/
  opening : Node.InheritsFirst t.nodes

namespace Template.Regular

variable {t : Template} {name : String} {body : List Node}

/-- The body of a block lies inside the tree of its template. -/
theorem allIn_body_subset (regular : t.Regular) (bound : t.blocks.get? name = some body) :
    Node.allIn body ⊆ Node.allIn t.nodes :=
  Node.allIn_subset_of_block ((regular.get?_blocks name body).mp bound)

/-- No node in the body of a block inherits. -/
theorem standalone_body (regular : t.Regular) (bound : t.blocks.get? name = some body) :
    Node.Standalone body := by
  have found := (regular.get?_blocks name body).mp bound
  rcases regular.opening with alone | ⟨before, parent, after, shape, texts, alone⟩
  · exact alone.of_subset (Node.allIn_subset_of_block found)
  · -- the block stands in none of the texts, and the inheriting node holds nothing
    rw [shape, Node.mem_blocksIn, Node.allIn_append, Node.allIn_cons, Node.allIn_texts texts,
      List.mem_append, List.mem_append] at found
    rcases found with inText | inParent | inAfter
    · exact absurd (texts _ inText) (by simp [Node.isText])
    · simp [Node.all] at inParent
    · exact alone.of_subset (Node.allIn_subset_of_block (Node.mem_blocksIn.mpr inAfter))

end Template.Regular

end TextTemplate

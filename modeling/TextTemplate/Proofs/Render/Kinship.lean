import TextTemplate.Proofs.Render.Lockstep
/-!
# Kin machines and akin templates

Two renders do the same from machines that differ in what neither of them looks at: the contexts may
bind names differently that no expression starts from, and the libraries may know a template under a
name differently while it is being rendered, since whoever asks for it then ends in a cycle. The
nodes may stand on different lines. A `Leeway` says which differences there may be; `Node.Akin`,
`Task.Akin` and `Kin` say of nodes, tasks and machines that they differ in nothing else, and
`Beside` that two renders did the same on their way.
-/
namespace TextTemplate

/-- In what two renders may differ. -/
structure Leeway where
  /-- The names that mean the same in both contexts. -/
  names : String → Prop
  /-- How the lines of nodes are related. -/
  lines : Nat → Nat → Prop
  /-- The names, all of them of templates being rendered, that the libraries may know differently.
  -/
  own : List String
  /-- The templates that both libraries know. -/
  library : Library
  /-- A node may stand on the same line. -/
  same_line : ∀ line, lines line line

/-- Two contexts have the same settings, and names that mean the same in both. -/
structure Context.Agrees (names : String → Prop) (a b : Context) : Prop where
  /-- The names mean the same in both. -/
  get : ∀ name, names name → a.get name = b.get name
  /-- Files are created under the same directory. -/
  outputDir : a.outputDir = b.outputDir
  /-- Values are escaped alike. -/
  escaper : a.escaper = b.escaper

/-- An expression starts from a literal or from one of the names. -/
def Expr.Reads (names : String → Prop) (expr : Expr) : Prop :=
  ∀ name fields, expr.operand = .path name fields → names name

namespace Context.Agrees

variable {names : String → Prop} {a b : Context}

/-- A context agrees with itself. -/
theorem refl (names : String → Prop) (a : Context) : a.Agrees names a := ⟨fun _ _ => rfl, rfl, rfl⟩

/-- Contexts that agree do so in a new scope. -/
theorem push (agrees : a.Agrees names b) : a.push.Agrees names b.push where
  get name inside := by
    rw [Context.get, Context.get, get?_push, get?_push]
    exact agrees.get name inside
  outputDir := agrees.outputDir
  escaper := agrees.escaper

/-- A name that is bound means the same from then on, whether it did before or not. -/
theorem set (agrees : a.Agrees names b) (name : String) (v : Value) :
    (a.set name v).Agrees names (b.set name v) where
  get other inside := by
    rw [Context.get, Context.get, get?_set, get?_set]
    split
    · rfl
    · exact agrees.get other inside
  outputDir := agrees.outputDir
  escaper := agrees.escaper

/-- What is bound to a name that may mean anything does not matter. -/
theorem set_left (agrees : a.Agrees names b) {name : String} (outside : ¬ names name) (v : Value) :
    (a.set name v).Agrees names b where
  get other inside := by
    have differs : name ≠ other := fun same => outside (same ▸ inside)
    rw [Context.get, get?_set, if_neg differs]
    exact agrees.get other inside
  outputDir := agrees.outputDir
  escaper := agrees.escaper

/-- A name that may mean anything may be bound in one of the contexts. -/
theorem set_right (agrees : a.Agrees names b) {name : String} (outside : ¬ names name) (v : Value) :
    a.Agrees names (b.set name v) where
  get other inside := by
    have differs : name ≠ other := fun same => outside (same ▸ inside)
    rw [agrees.get other inside]
    simp only [Context.get, get?_set, if_neg differs]
  outputDir := agrees.outputDir
  escaper := agrees.escaper

/-- An expression has one value where the contexts agree on the name that it starts from. -/
theorem eval (agrees : a.Agrees names b) {expr : Expr} (reads : expr.Reads names) (host : Host)
    (state : HostState) : expr.eval host a state = expr.eval host b state := by
  have operand : expr.operand.eval host a state = expr.operand.eval host b state := by
    cases start : expr.operand with
    | literal l => rfl
    | path name fields =>
      have same : a.get name = b.get name := agrees.get name (reads name fields start)
      rw [Operand.eval, Operand.eval, same]
  rw [Expr.eval, Expr.eval, operand]

/-- Contexts that agree show values alike. -/
theorem shown (agrees : a.Agrees names b) (v : Value) : Render.shown a v = Render.shown b v := by
  rw [Render.shown, Render.shown, agrees.escaper]

/-- Contexts that agree create a file in the same place. -/
theorem targetPath (agrees : a.Agrees names b) (file : String) :
    Render.targetPath a file = Render.targetPath b file := by
  rw [Render.targetPath, Render.targetPath, agrees.outputDir]

end Context.Agrees

/-- Two nodes are the same but for the lines, and their expressions start from names that mean the
same. They inherit only if that is allowed. -/
inductive Node.Akin (c : Leeway) (inheriting : Prop) : Node → Node → Prop
  | text (s : String) : Akin c inheriting (.text s) (.text s)
  | variable {expr : Expr} (reads : expr.Reads c.names) :
    Akin c inheriting (.variable expr) (.variable expr)
  | forEach (var : String) {list : Expr} (reversed : Bool)
    {body body' otherwise otherwise' : List Node} (reads : list.Reads c.names)
    (inside : List.Forall₂ (Akin c inheriting) body body')
    (empty : List.Forall₂ (Akin c inheriting) otherwise otherwise') :
    Akin c inheriting (.forEach var list reversed body otherwise)
      (.forEach var list reversed body' otherwise')
  | condition {test : Expr} (negated : Bool) {yes yes' no no' : List Node}
    (reads : test.Reads c.names) (inside : List.Forall₂ (Akin c inheriting) yes yes')
    (other : List.Forall₂ (Akin c inheriting) no no') :
    Akin c inheriting (.condition test negated yes no) (.condition test negated yes' no')
  | block (name : String) {body body' : List Node}
    (inside : List.Forall₂ (Akin c inheriting) body body') :
    Akin c inheriting (.block name body) (.block name body')
  | inherits {parent : Expr} (reads : parent.Reads c.names) (allowed : inheriting) :
    Akin c inheriting (.inherits parent) (.inherits parent)
  | includes {template : Expr} (reads : template.Reads c.names) :
    Akin c inheriting (.includes template) (.includes template)
  | creates {file template : Expr} {line line' : Nat} (names : file.Reads c.names)
    (reads : template.Reads c.names) (lines : c.lines line line') :
    Akin c inheriting (.creates file template line) (.creates file template line')

/-- The expressions of a node. -/
def Node.exprs : Node → List Expr
  | .text _ => []
  | .variable expr => [expr]
  | .forEach _ list _ _ _ => [list]
  | .condition test _ _ _ => [test]
  | .block _ _ => []
  | .inherits parent => [parent]
  | .includes template => [template]
  | .creates file template _ => [file, template]

/-- All expressions in a forest start from names that mean the same. -/
def Node.Reads (names : String → Prop) (forest : List Node) : Prop :=
  ∀ node ∈ Node.allIn forest, ∀ expr ∈ node.exprs, expr.Reads names

/-- What holds of the expressions of a forest holds of those in a part of it. -/
theorem Node.Reads.of_subset {names : String → Prop} {inner forest : List Node}
    (reads : Node.Reads names forest) (inside : Node.allIn inner ⊆ Node.allIn forest) :
    Node.Reads names inner :=
  fun node found => reads node (inside found)

/-- Nodes are akin to themselves if they start from names that mean the same. -/
theorem Node.akin_self {c : Leeway} {forest : List Node} (reads : Node.Reads c.names forest) :
    List.Forall₂ (Node.Akin c True) forest forest := by
  have held : ∀ node ∈ forest, ∀ body ∈ node.bodies, List.Forall₂ (Node.Akin c True) body body :=
    fun node member body holds =>
      have smaller := Node.sizeOf_lt_of_mem member holds
      Node.akin_self (reads.of_subset (Node.allIn_subset_of_mem member holds))
  refine List.forall₂_same.mpr fun node member => ?_
  have here := reads node (Node.mem_allIn_of_mem member)
  have inside := held node member
  cases node with
  | text s => exact .text s
  | «variable» expr => exact .variable (here expr (by simp [Node.exprs]))
  | forEach var list reversed body otherwise =>
    exact .forEach var reversed (here list (by simp [Node.exprs]))
      (inside body (by simp [Node.bodies])) (inside otherwise (by simp [Node.bodies]))
  | condition test negated yes no =>
    exact .condition negated (here test (by simp [Node.exprs])) (inside yes (by simp [Node.bodies]))
      (inside no (by simp [Node.bodies]))
  | block name body => exact .block name (inside body (by simp [Node.bodies]))
  | inherits parent => exact .inherits (here parent (by simp [Node.exprs])) trivial
  | includes template => exact .includes (here template (by simp [Node.exprs]))
  | creates file template line =>
    exact .creates (here file (by simp [Node.exprs])) (here template (by simp [Node.exprs]))
      (c.same_line line)
termination_by sizeOf forest

/-- Every expression of a template, also of a body that overrides, starts from names that mean the
same. -/
structure Template.Reads (names : String → Prop) (t : Template) : Prop where
  /-- The expressions in the nodes start from the names. -/
  nodes : Node.Reads names t.nodes
  /-- So do those in the bodies of blocks. -/
  blocks : ∀ name body, t.blocks.get? name = some body → Node.Reads names body

/-- Two tasks are the same but for the lines, for owners of one name, and for templates of one name
that is being rendered. A list of nodes that may inherit has one owner. -/
inductive Task.Akin (c : Leeway) (active : List String) : Task → Task → Prop
  | template {t : Template} (reads : t.Reads c.names) : Akin c active (.template t) (.template t)
  | entered {t t' : Template} (named : t.name = t'.name) (inside : t.name ∈ active) :
    Akin c active (.template t) (.template t')
  | nodes {inheriting : Prop} {owner owner' : Template} {ns ns' : List Node}
    (named : owner.name = owner'.name) (owned : inheriting → owner = owner' ∧ owner.Reads c.names)
    (akin : List.Forall₂ (Node.Akin c inheriting) ns ns') :
    Akin c active (.nodes owner ns) (.nodes owner' ns')
  | iterate {inheriting : Prop} {owner owner' : Template} {body body' : List Node} (var : String)
    (reversed : Bool) (list : ListRef) (cursor : Cursor) (index : Nat)
    (named : owner.name = owner'.name) (owned : inheriting → owner = owner' ∧ owner.Reads c.names)
    (akin : List.Forall₂ (Node.Akin c inheriting) body body') :
    Akin c active (.iterate owner var reversed body list cursor index)
      (.iterate owner' var reversed body' list cursor index)

/-- Two outcomes are the same, but for the line of a file without a name. -/
inductive SaveOutcome.Akin (c : Leeway) : SaveOutcome → SaveOutcome → Prop
  | same (outcome : SaveOutcome) : Akin c outcome outcome
  | nameless (path : Path) (owner : String) {line line' : Nat} (lines : c.lines line line') :
    Akin c (.failed path (.emptyName owner line)) (.failed path (.emptyName owner line'))

/-- Two machines from which renders do the same. -/
structure Kin (c : Leeway) (m n : Machine) : Prop where
  /-- The lists and records are the same. -/
  heap : m.host.heap = n.host.heap
  /-- The files are the same. -/
  files : m.files = n.files
  /-- The contexts agree on the names. -/
  context : m.context.Agrees c.names n.context
  /-- The sinks take the same. -/
  sink : m.sink.Alike n.sink
  /-- The same templates are being rendered. -/
  active : m.active = n.active
  /-- The same templates override. -/
  chain : m.chain = n.chain
  /-- The expressions of overriding templates start from the names. -/
  reads : ∀ t ∈ m.chain, t.Reads c.names
  /-- But for the names of their own the libraries are the same. -/
  library : m.library.entries.filter (fun entry => entry.1 ∉ c.own) =
    n.library.entries.filter fun entry => entry.1 ∉ c.own
  /-- A name of their own is known to both and is that of a template being rendered. -/
  own : ∀ name ∈ c.own, name ∈ m.active ∧ ∃ t t', m.library.get? name = some t ∧
    n.library.get? name = some t' ∧ t.name = name ∧ t'.name = name
  /-- What both libraries know is known to the first. -/
  knows : c.library.Within m.library

/-- Two renders did the same on their way from `m` and `n` to `m'` and `n'`. -/
structure Beside (c : Leeway) (m n m' n' : Machine) : Prop where
  /-- Both wrote the same texts. -/
  texts : ∃ texts, m'.sink = m.sink.writeAll texts ∧ n'.sink = n.sink.writeAll texts
  /-- Both did the same acts. -/
  journal : Alongside m.host.journal n.host.journal m'.host.journal n'.host.journal
  /-- Both have the same outcomes, but for lines. -/
  outcomes : Grown (SaveOutcome.Akin c) m.outcomes n.outcomes m'.outcomes n'.outcomes
  /-- The same templates are being rendered as at the start. -/
  active : m'.active = m.active

/-- Two renders that did nothing did the same. -/
theorem Beside.refl (c : Leeway) (m n : Machine) : Beside c m n m n :=
  ⟨⟨[], rfl, rfl⟩, .refl _ _, .refl _ _, rfl⟩

/-- Renders that did the same twice did the same. -/
theorem Beside.trans {c : Leeway} {m n m' n' m'' n'' : Machine} (first : Beside c m n m' n')
    (second : Beside c m' n' m'' n'') : Beside c m n m'' n'' where
  texts := by
    obtain ⟨early, left, right⟩ := first.texts
    obtain ⟨late, left', right'⟩ := second.texts
    refine ⟨early ++ late, ?_, ?_⟩
    · rw [left', left, Sink.writeAll_writeAll]
    · rw [right', right, Sink.writeAll_writeAll]
  journal := first.journal.trans second.journal
  outcomes := first.outcomes.trans second.outcomes
  active := second.active.trans first.active

namespace Kin

variable {c : Leeway} {m n : Machine}

/-- Names of templates that are not the libraries' own mean the same in both. -/
theorem get? (kin : Kin c m n) {name : String} (other : name ∉ c.own) :
    m.library.get? name = n.library.get? name := by
  have left : Table.find name (m.library.entries.filter fun entry => entry.1 ∉ c.own) =
      m.library.get? name := Table.find_filter (fun name => name ∉ c.own) (decide_eq_true other) _
  have right : Table.find name (n.library.entries.filter fun entry => entry.1 ∉ c.own) =
      n.library.get? name := Table.find_filter (fun name => name ∉ c.own) (decide_eq_true other) _
  rw [← left, ← right, kin.library]

/-- Both libraries may come to know a template. -/
theorem insert (kin : Kin c m n) {key : String} (other : key ∉ c.own)
    (unknown : m.library.get? key = none) (t : Template) :
    Kin c { m with library := m.library.insert key t }
      { n with library := n.library.insert key t } :=
  have unknown' : n.library.get? key = none := (kin.get? other).symm.trans unknown
  { kin with
    library := by
      rw [Table.entries_insert_of_get?_eq_none t unknown,
        Table.entries_insert_of_get?_eq_none t unknown', List.filter_append, List.filter_append,
        kin.library]
    own := fun name inside => by
      have differs : key ≠ name := fun same => other (same ▸ inside)
      rw [Table.get?_insert, Table.get?_insert, if_neg differs, if_neg differs]
      exact kin.own name inside
    knows := fun name t' known => by
      have there := kin.knows name t' known
      have differs : key ≠ name := by
        rintro rfl
        rw [unknown] at there
        cases there
      rw [Table.get?_insert, if_neg differs]
      exact there }

end Kin

end TextTemplate

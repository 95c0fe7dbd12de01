import TextTemplate.Proofs.Render.Overriding
import TextTemplate.Proofs.Render.Safety
import Mathlib.Logic.Relation
/-!
# When a report of a cycle is genuine

A render reports a cycle when it meets the name of a template that is being rendered. A parent stays
among those while the blocks of its children are rendered inside it, so the names being rendered are
no path along which templates refer to each other: a block that overrides another and includes a
template with the same base meets the base again, although nothing refers to itself.

Where overriding blocks name no template that leads back to what they override in, and nothing
refers to itself, no cycle is reported. The invariant is that what nodes name leads to no template
that is being rendered, and that an overriding template leads to itself and its ancestors alone
among those.
-/
namespace TextTemplate

/-- The name that an expression gives to a template by a literal alone. -/
def Expr.templateName? : Expr → Option String
  | ⟨.literal (.text s), []⟩ => some (Library.normalise s)
  | _ => none

/-- Some node of a forest names the template by a literal. -/
def Node.Names (forest : List Node) (name : String) : Prop :=
  ∃ node ∈ allIn forest, ∃ expr, node.operand? = some expr ∧ expr.templateName? = some name

/-- What part of a forest names, the forest names. -/
theorem Node.Names.mono {inner forest : List Node} {name : String} (names : Names inner name)
    (inside : allIn inner ⊆ allIn forest) : Names forest name :=
  let ⟨node, found, rest⟩ := names
  ⟨node, inside found, rest⟩

namespace Library

/-- The tree of one template names another. -/
def Refers (library : Library) (a b : String) : Prop :=
  ∃ t, library.get? a = some t ∧ Node.Names t.nodes b

/-- One template is the parent of another. -/
def Extends (library : Library) (a b : String) : Prop :=
  ∃ t parent, library.get? a = some t ∧ .inherits parent ∈ Node.allIn t.nodes ∧
    parent.templateName? = some b

/-- The second template is an ancestor of the first. -/
abbrev Derives (library : Library) : String → String → Prop := Relation.TransGen library.Extends

/-- The first template refers to the second, maybe by way of others, or they are the same. -/
abbrev Reaches (library : Library) : String → String → Prop := Relation.ReflTransGen library.Refers

/-- Wherever a template of the library names another, it does so by a literal, and the other is
known as well. -/
def Closed (library : Library) : Prop :=
  ∀ a t, library.get? a = some t → ∀ node ∈ Node.allIn t.nodes, ∀ expr, node.operand? = some expr →
    ∃ b target, expr.templateName? = some b ∧ library.get? b = some target

/-- No template leads back to itself. -/
def Acyclic (library : Library) : Prop := ∀ a, ¬ Relation.TransGen library.Refers a a

/-- A block that an ancestor of its template has as well names no template that leads to an ancestor
of its template. -/
def OverridesApart (library : Library) : Prop :=
  ∀ a t ancestor d name body overridden b, library.get? a = some t → library.Derives a ancestor →
    library.get? ancestor = some d → .block name body ∈ Node.allIn t.nodes →
    .block name overridden ∈ Node.allIn d.nodes → Node.Names body b →
    ∀ other, library.Derives a other → ¬ library.Reaches b other

/-- A template refers to its parent. -/
theorem Extends.refers {library : Library} {a b : String} (parent : library.Extends a b) :
    library.Refers a b := by
  obtain ⟨t, expr, known, inside, named⟩ := parent
  exact ⟨t, known, _, inside, expr, rfl, named⟩

/-- Where nothing leads back to itself, nothing leads back from what is referred to. -/
theorem Acyclic.not_refers_reaches {library : Library} (acyclic : library.Acyclic) {a b : String}
    (refers : library.Refers a b) : ¬ library.Reaches b a := fun back =>
  acyclic a (Relation.TransGen.head' refers back)

end Library

namespace Render

variable {library : Library} {setting : Setting} {m n : Machine}

/-- A template may be rendered from the machine without a cycle: it leads to none of those being
rendered, it comes after the overriding ones in their line of ancestors, and those lead to
themselves and their ancestors alone among those being rendered. -/
structure Enterable (library : Library) (t : Template) (m : Machine) : Prop where
  /-- What the library knew is known still. -/
  kept : ∀ name d, library.get? name = some d → m.library.get? name = some d
  /-- The overriding templates and this one are known under their names. -/
  known : ∀ d ∈ m.chain ++ [t], library.get? d.name = some d
  /-- Each of them comes after those that it is an ancestor of. -/
  derives : (m.chain ++ [t]).Pairwise fun d e => library.Derives d.name e.name
  /-- An overriding template leads to itself and its ancestors alone among those being rendered. -/
  reaches : ∀ d ∈ m.chain, ∀ x ∈ m.active, library.Reaches d.name x →
    x = d.name ∨ library.Derives d.name x
  /-- The template leads to none of those being rendered. -/
  fresh : ∀ x ∈ m.active, ¬ library.Reaches t.name x

/-- Nodes may be rendered from the machine without a cycle, `current` being the template after the
overriding ones: they are the owner's, what they name leads to no template being rendered, and they
inherit only if the owner is the current template. -/
structure Fits (library : Library) (current owner : Template) (ns : List Node) (m : Machine) :
    Prop where
  /-- What the library knew is known still. -/
  kept : ∀ name d, library.get? name = some d → m.library.get? name = some d
  /-- The overriding templates and the current one are known under their names. -/
  known : ∀ d ∈ m.chain ++ [current], library.get? d.name = some d
  /-- Each of them comes after those that it is an ancestor of. -/
  derives : (m.chain ++ [current]).Pairwise fun d e => library.Derives d.name e.name
  /-- Each of them leads to itself and its ancestors alone among those being rendered. -/
  reaches : ∀ d ∈ m.chain ++ [current], ∀ x ∈ m.active, library.Reaches d.name x →
    x = d.name ∨ library.Derives d.name x
  /-- The owner is one of them. -/
  placed : ∃ before after, m.chain ++ [current] = before ++ owner :: after
  /-- The nodes are the owner's. -/
  inside : Node.allIn ns ⊆ Node.allIn owner.nodes
  /-- Nothing inherits among the nodes unless the owner is the current template. -/
  alone : owner = current ∨ Node.Standalone ns
  /-- What the nodes name leads to no template being rendered. -/
  apart : ∀ b, Node.Names ns b → ∀ x ∈ m.active, ¬ library.Reaches b x

/-- Nodes that fit a machine fit it as long as the render stays in the same place. -/
theorem Fits.stays {current owner : Template} {ns : List Node}
    (fits : Fits library current owner ns m) (stays : m.Stays n) :
    Fits library current owner ns n where
  kept name d known := stays.library name d (fits.kept name d known)
  known := stays.chain ▸ fits.known
  derives := stays.chain ▸ fits.derives
  reaches := by
    rw [stays.chain, stays.active]
    exact fits.reaches
  placed := stays.chain ▸ fits.placed
  inside := fits.inside
  alone := fits.alone
  apart := stays.active ▸ fits.apart

/-- What nodes hold fits if they do. -/
theorem Fits.inner {current owner : Template} {ns inner : List Node}
    (fits : Fits library current owner ns m) (within : Node.allIn inner ⊆ Node.allIn ns) :
    Fits library current owner inner m :=
  { fits with
    inside := List.Subset.trans within fits.inside
    alone := fits.alone.imp id fun alone => alone.of_subset within
    apart := fun b names => fits.apart b (names.mono within) }

/-- The nodes of a template fit once it was entered. -/
theorem Enterable.entered (acyclic : library.Acyclic) {t : Template}
    (enterable : Enterable library t m) :
    Fits library t t t.nodes { m with active := m.active ++ [t.name] } where
  kept := enterable.kept
  known := enterable.known
  derives := enterable.derives
  reaches := by
    intro d overriding x active reaches
    rcases List.mem_append.mp active with earlier | last
    · rcases List.mem_append.mp overriding with inChain | here
      · exact enterable.reaches d inChain x earlier reaches
      · rw [List.mem_singleton.mp here] at reaches
        exact absurd reaches (enterable.fresh x earlier)
    · rw [List.mem_singleton.mp last]
      rcases List.mem_append.mp overriding with inChain | here
      · exact .inr ((List.pairwise_append.mp enterable.derives).2.2 d inChain t
          (List.mem_singleton.mpr rfl))
      · exact .inl (by rw [List.mem_singleton.mp here])
  placed := ⟨m.chain, [], rfl⟩
  inside _ := id
  alone := .inl rfl
  apart := by
    intro b names x active reaches
    have known := enterable.known t (List.mem_append_right _ (List.mem_singleton.mpr rfl))
    have refers : library.Refers t.name b := ⟨t, known, names⟩
    rcases List.mem_append.mp active with earlier | last
    · exact enterable.fresh x earlier (.head refers reaches)
    · rw [List.mem_singleton.mp last] at reaches
      exact acyclic.not_refers_reaches refers reaches

/-- A literal that names a known template is resolved to it and changes nothing. -/
theorem resolve_of_templateName {expr : Expr} {b : String} {t : Template}
    (named : expr.templateName? = some b) (known : m.library.get? b = some t) :
    resolve setting expr m = .done t m := by
  obtain ⟨operand, filters⟩ := expr
  unfold Expr.templateName? at named
  split at named
  · rename_i s shape
    cases shape
    rw [Option.some.injEq] at named
    subst named
    exact resolve_of_known known
  · cases named

section Entering

variable (parsed : library.Parsed) {current owner t : Template} {ns : List Node} {node : Node}
  {expr : Expr} {b : String} (named : expr.templateName? = some b)
  (known : library.get? b = some t)

include parsed named known

/-- A template that nodes name may be rendered with no blocks overriding. -/
theorem Fits.nested (fits : Fits library current owner ns m) (member : node ∈ ns)
    (operand : node.operand? = some expr) (sink : Sink) :
    Enterable library t { m with chain := [], sink } where
  kept := fits.kept
  known := by
    intro d here
    rw [List.nil_append, List.mem_singleton] at here
    rw [here, (parsed b t known).1, known]
  derives := by simp
  reaches := nofun
  fresh := by
    rw [(parsed b t known).1]
    exact fits.apart b ⟨node, Node.mem_allIn_of_mem member, expr, operand, named⟩

/-- The parent of a template may be rendered with the blocks of the template overriding. -/
theorem Fits.parent (fits : Fits library current owner ns m) (member : .inherits expr ∈ ns) :
    Enterable library t { m with chain := m.chain ++ [owner] } := by
  have inside := Node.mem_allIn_of_mem member
  have same : owner = current := by
    rcases fits.alone with same | alone
    · exact same
    · exact absurd (alone _ inside) (by simp [isLast])
  subst same
  have name := (parsed b t known).1
  have extends' : library.Extends owner.name t.name :=
    ⟨owner, expr, fits.known owner (by simp), fits.inside inside, by rw [name, named]⟩
  refine ⟨fits.kept, ?_, ?_, fits.reaches, ?_⟩
  · intro d here
    rcases List.mem_append.mp here with earlier | last
    · exact fits.known d earlier
    · rw [List.mem_singleton.mp last, name, known]
  · refine List.pairwise_append.mpr ⟨fits.derives, by simp, fun d here e last => ?_⟩
    rw [List.mem_singleton.mp last]
    rcases List.mem_append.mp here with earlier | own
    · have before := (List.pairwise_append.mp fits.derives).2.2 d earlier owner (by simp)
      exact before.tail extends'
    · rw [List.mem_singleton.mp own]
      exact .single extends'
  · rw [name]
    exact fits.apart b ⟨_, inside, expr, rfl, named⟩

end Entering

/-- What stands in the place of a block fits if the block does: if it is of an overriding template,
what it names leads neither to the template's descendants, as nothing leads back to itself, nor to
its ancestors, as overriding blocks are apart from those. -/
theorem Fits.chosen (parsed : library.Parsed) (acyclic : library.Acyclic)
    (separate : library.OverridesApart) {current owner : Template} {ns body : List Node}
    {name : String} (fits : Fits library current owner ns m) (member : .block name body ∈ ns) :
    Fits library current (blockBody m.chain owner name body).1
      (blockBody m.chain owner name body).2 m := by
  have regular : ∀ d ∈ m.chain ++ [current], d.Regular := fun d here =>
    (parsed _ d (fits.known d here)).2.regular
  obtain ⟨before, after, whole⟩ := fits.placed
  have within := Node.mem_allIn_of_mem member
  have standing : owner ∈ m.chain ++ [current] := by simp [whole]
  have bound := get?_of_mem (regular owner standing) (fits.inside within)
  rcases blockBody_cases (placed_of_append whole) bound with
    ⟨own, -⟩ | ⟨front, t, back, chosen, split, -, known, other, -⟩
  · rw [own]
    exact fits.inner (Node.allIn_subset_of_mem member List.mem_cons_self)
  · rw [other]
    have here : t ∈ m.chain ++ [current] := by simp [whole, split]
    have mine := (regular t here).allIn_body_subset known
    have derives : library.Derives t.name owner.name := by
      have line := fits.derives
      rw [whole, split] at line
      simp only [List.append_assoc, List.cons_append, List.pairwise_append,
        List.pairwise_cons] at line
      exact line.2.1.1 owner (by simp)
    have place : m.chain ++ [current] = front ++ t :: (back ++ owner :: after) := by
      rw [whole, split]
      simp
    refine { fits with
      placed := ⟨front, _, place⟩
      inside := mine
      alone := .inr ((regular t here).standalone_body known)
      apart := ?_ }
    intro b names x active reaches
    have refers : library.Refers t.name b := ⟨t, fits.known t here, names.mono mine⟩
    rcases fits.reaches t here x active (.head refers reaches) with rfl | ancestor
    · exact acyclic.not_refers_reaches refers reaches
    · exact separate t.name t owner.name owner name chosen body b (fits.known t here) derives
        (fits.known owner standing)
        (Node.mem_blocksIn.mp (((regular t here).get?_blocks name chosen).mp known))
        (fits.inside within) names x ancestor reaches

/-- A task that may be done from the machine without a cycle. -/
def Admits (library : Library) : Task → Machine → Prop
  | .template t, m => Enterable library t m
  | .nodes owner ns, m => ∃ current, Fits library current owner ns m
  | .iterate owner _ _ body _ _ _, m => ∃ current, Fits library current owner body m

/-- No error but a report of a cycle. -/
def NoCycle (error : RenderError) : Prop := ∀ names, error ≠ .cycle names

section Runs

variable (parsed : library.Parsed) (closed : library.Closed) (acyclic : library.Acyclic)
  (separate : library.OverridesApart)

include parsed closed acyclic separate

/-- A node reports no cycle if the tasks inside it do not. -/
theorem noCycle_node {fuel : Nat} {current owner : Template} {ns : List Node}
    (tasks : ∀ task k, Admits library task k → Safe NoCycle True (run setting fuel task) k)
    (fits : Fits library current owner ns m) {n : Node} (member : n ∈ ns) :
    Safe NoCycle True (node setting (run setting fuel) owner n) m := by
  have target : ∀ expr, n.operand? = some expr → ∃ b t, expr.templateName? = some b ∧
      library.get? b = some t ∧ ∀ k, m.Stays k → resolve setting expr k = .done t k := by
    intro expr operand
    obtain ⟨before, after, whole⟩ := fits.placed
    have known := fits.known owner (by simp [whole])
    obtain ⟨b, t, named, found⟩ := closed owner.name owner known n
      (fits.inside (Node.mem_allIn_of_mem member)) expr operand
    exact ⟨b, t, named, found, fun k stays =>
      resolve_of_templateName named (stays.library b t (fits.kept b t found))⟩
  refine safe_node (steady_run fuel) (fun k l => Machine.Stays.trans) nofun (Machine.Stays.refl m)
    (fun _ body held k stays => ?_)
    (fun var expr reversed body otherwise shape list cursor k stays _ => ?_)
    (fun name body shape => ?_) (fun expr operand => ?_)
    (fun expr t k shape resolved => ?_) (fun expr t l sink operand goesOn resolved => ?_)
  · exact tasks (.nodes owner body) k
      ⟨current, (fits.stays stays).inner (Node.allIn_subset_of_mem member held)⟩
  · subst shape
    refine tasks (.iterate owner var reversed body list cursor 0) k
      ⟨current, (fits.stays stays).inner (Node.allIn_subset_of_mem member ?_)⟩
    simp [Node.bodies]
  · subst shape
    exact tasks (.nodes _ _) m ⟨current, fits.chosen parsed acyclic separate member⟩
  · obtain ⟨b, t, -, -, resolved⟩ := target expr operand
    exact safe_of_done (resolved _ (stays_asking n setting.host m))
  · subst shape
    obtain ⟨b, t', named, known, there⟩ := target expr rfl
    rw [there m (.refl m)] at resolved
    cases resolved
    exact tasks (.template t) _ (fits.parent parsed named known member)
  · obtain ⟨b, t', named, known, there⟩ := target expr operand
    have stays := stays_asking n setting.host m
    rw [there _ stays] at resolved
    cases resolved
    exact tasks (.template t) _ ((fits.stays stays).nested parsed named known member operand sink)

/-- No task that is admitted reports a cycle. -/
theorem noCycle_run (fuel : Nat) (task : Task) (m : Machine) (admits : Admits library task m) :
    Safe NoCycle True (run setting fuel task) m := by
  induction fuel generalizing task m with
  | zero => trivial
  | succ fuel ih =>
    cases task with
    | template t =>
      have enterable : Enterable library t m := admits
      refine safe_template (fun known => ?_) (fun _ _ => nofun) fun _ _ => ?_
      · exact absurd .refl (enterable.fresh t.name known)
      · exact ih (.nodes t t.nodes) _ ⟨t, enterable.entered acyclic⟩
    | nodes owner ns =>
      obtain ⟨current, fits⟩ := admits
      refine safe_nodes (steady_run fuel) (fun k l => Machine.Stays.trans) (Machine.Stays.refl m)
        fun n member k stays => ?_
      exact noCycle_node parsed closed acyclic separate ih (fits.stays stays) member
    | iterate owner var reversed body list cursor index =>
      obtain ⟨current, fits⟩ := admits
      refine safe_iterate (steady_run fuel) (fun k l => Machine.Stays.trans) (Machine.Stays.refl m)
        (fun k stays => ?_) (fun k stays => ?_)
      · exact ih (.nodes owner body) k ⟨current, fits.stays stays⟩
      · exact ih (.iterate owner var reversed body list _ _) k ⟨current, fits.stays stays⟩

end Runs

end Render

/-- No render of a known template reports a cycle, in a library that is closed under naming and
whose templates neither lead back to themselves nor do so by way of a block that overrides another.
-/
theorem Template.render_ne_cycle {library : Library} (parsed : library.Parsed)
    (closed : library.Closed) (acyclic : library.Acyclic) (separate : library.OverridesApart)
    {t : Template} (known : library.get? t.name = some t) (setting : Setting) (fuel : Nat)
    (m : Machine) (kept : ∀ name d, library.get? name = some d → m.library.get? name = some d)
    (names : List String) (n : Machine) :
    t.render setting fuel m ≠ .failed (.cycle names) n := by
  intro failed
  have enterable :
      Render.Enterable library t { m with active := [], chain := [], outcomes := #[] } :=
    ⟨kept, by simpa using known, by simp, nofun, nofun⟩
  have safe : Render.Safe Render.NoCycle True (Render.run setting fuel (.template t)) _ :=
    Render.noCycle_run parsed closed acyclic separate fuel (.template t) _ enterable
  unfold Render.Safe at safe
  rw [show Render.run setting fuel (.template t) _ = _ from failed] at safe
  exact safe names rfl

namespace Library

variable {library : Library} {key a b : String} {t : Template}

/-- No template leads back to itself where every one has a rank above those that it names. -/
theorem acyclic_of_rank (rank : String → Nat)
    (falls : ∀ a b, library.Refers a b → rank b < rank a) : library.Acyclic := by
  have below : ∀ a b, Relation.TransGen library.Refers a b → rank b < rank a := by
    intro a b path
    induction path with
    | single refers => exact falls _ _ refers
    | tail _ refers ih => exact Nat.lt_trans (falls _ _ refers) ih
  exact fun a cycle => Nat.lt_irrefl _ (below a a cycle)

/-- In the empty library nothing refers to anything. -/
theorem not_refers_empty : ¬ Refers ∅ a b := by
  rintro ⟨t, known, -⟩
  cases known

/-- After a template was added, what refers to a name is that template or what did so before. -/
theorem refers_of_insert (refers : Refers (library.insert key t) a b) :
    (a = key ∧ Node.Names t.nodes b) ∨ library.Refers a b := by
  obtain ⟨known, found, names⟩ := refers
  rw [Table.get?_insert] at found
  split at found
  · rename_i same
    cases found
    exact .inl ⟨same.symm, names⟩
  · exact .inr ⟨known, found, names⟩

/-- The empty library is closed. -/
theorem closed_empty : Closed ∅ := by
  intro a t known
  cases known

/-- A library stays closed if a template is added that names known templates alone. -/
theorem Closed.insert (closed : library.Closed)
    (targets : ∀ node ∈ Node.allIn t.nodes, ∀ expr, node.operand? = some expr →
      ∃ b target, expr.templateName? = some b ∧ library.get? b = some target) :
    Closed (library.insert key t) := by
  have still : ∀ b target, library.get? b = some target →
      ∃ target, (library.insert key t).get? b = some target := by
    intro b target known
    rw [Table.get?_insert]
    split
    · exact ⟨t, rfl⟩
    · exact ⟨target, known⟩
  intro a d known node inside expr operand
  have target : ∃ b target, expr.templateName? = some b ∧ library.get? b = some target := by
    rw [Table.get?_insert] at known
    split at known
    · cases known
      exact targets node inside expr operand
    · exact closed a d known node inside expr operand
  obtain ⟨b, target, named, found⟩ := target
  obtain ⟨target, found⟩ := still b target found
  exact ⟨b, target, named, found⟩

end Library

/-- A template with a block. -/
def Template.base : Template where
  name := "base"
  nodes := [.text "[", .block "b" [.text "-"], .text "]"]
  blocks := Table.insert ∅ "b" [.text "-"]

/-- A template that names no other. -/
def Template.label : Template where
  name := "label"
  nodes := [.text "x"]
  blocks := ∅

/-- A template that overrides the block of its parent and includes another one there. -/
def Template.overrider (name included : String) : Template where
  name := name
  nodes := [.inherits ⟨.literal (.text "base"), []⟩,
    .block "b" [.includes ⟨.literal (.text included), []⟩]]
  blocks := Table.insert ∅ "b" [.includes ⟨.literal (.text included), []⟩]

/-- A base, a label, and a widget that includes the label in a block of the base. -/
def Library.widgets : Library :=
  ((Table.insert ∅ "base" .base).insert "label" .label).insert "widget"
    (.overrider "widget" "label")

/-- Those and a page that includes the widget in a block of the base that the widget has too. -/
def Library.pages : Library := widgets.insert "page" (.overrider "page" "widget")

namespace Template

/-- The base is read from its source. -/
theorem parse_base : Source.parse "base"
    ("[" ++ Source.tag "block b" ++ "-" ++ Source.tag "endblock" ++ "]").toList = .ok base := by
  with_unfolding_all rfl

/-- The label is read from its source. -/
theorem parse_label : Source.parse "label" "x".toList = .ok label := by
  with_unfolding_all rfl

/-- The widget is read from its source. -/
theorem parse_widget : Source.parse "widget" (Source.tag "extends 'base'" ++
    Source.tag "block b" ++ Source.tag "include 'label'" ++ Source.tag "endblock").toList =
      .ok (overrider "widget" "label") := by
  with_unfolding_all rfl

/-- The page is read from its source. -/
theorem parse_page : Source.parse "page" (Source.tag "extends 'base'" ++
    Source.tag "block b" ++ Source.tag "include 'widget'" ++ Source.tag "endblock").toList =
      .ok (overrider "page" "widget") := by
  with_unfolding_all rfl

end Template

/-- A literal names the base. -/
theorem Expr.templateName?_base :
    (⟨.literal (.text "base"), []⟩ : Expr).templateName? = some "base" := by decide

/-- A literal names the label. -/
theorem Expr.templateName?_label :
    (⟨.literal (.text "label"), []⟩ : Expr).templateName? = some "label" := by decide

/-- A literal names the widget. -/
theorem Expr.templateName?_widget :
    (⟨.literal (.text "widget"), []⟩ : Expr).templateName? = some "widget" := by decide

namespace Library

/-- The base, the label and the widget are known as they were read. -/
theorem parsed_widgets : widgets.Parsed :=
  ((parsed_empty.insert Template.parse_base).insert Template.parse_label).insert
    Template.parse_widget

/-- With the page they are known as they were read. -/
theorem parsed_pages : pages.Parsed := parsed_widgets.insert Template.parse_page

/-- The base, the label and the widget name nothing else. -/
theorem closed_widgets : widgets.Closed := by
  refine ((closed_empty.insert ?_).insert ?_).insert ?_
  · simp [Template.base, Node.all, Node.operand?]
  · simp [Template.label, Node.all, Node.operand?]
  · simp [Template.overrider, Node.all, Node.operand?, Expr.templateName?_base,
      Expr.templateName?_label, Table.get?_insert]

/-- With the page they name nothing else. -/
theorem closed_pages : pages.Closed := by
  refine closed_widgets.insert ?_
  simp [Template.overrider, Node.all, Node.operand?, Expr.templateName?_base,
    Expr.templateName?_widget, widgets, Table.get?_insert]

/-- A template that overrides the block names its base and what it includes. -/
theorem names_overrider {name included target : String}
    (literal : (⟨.literal (.text included), []⟩ : Expr).templateName? = some target) :
    Node.Names (Template.overrider name included).nodes b ↔ b = "base" ∨ b = target := by
  simp [Node.Names, Template.overrider, Node.all, Node.operand?, Expr.templateName?_base, literal,
    eq_comm]

/-- Only the widget refers to anything: to its base and to the label. -/
theorem refers_widgets (refers : widgets.Refers a b) :
    a = "widget" ∧ (b = "base" ∨ b = "label") := by
  rcases refers_of_insert refers with ⟨rfl, names⟩ | refers
  · exact ⟨rfl, (names_overrider Expr.templateName?_label).mp names⟩
  rcases refers_of_insert refers with ⟨-, names⟩ | refers
  · simp [Node.Names, Template.label, Node.all, Node.operand?] at names
  rcases refers_of_insert refers with ⟨-, names⟩ | refers
  · simp [Node.Names, Template.base, Node.all, Node.operand?] at names
  · exact absurd refers not_refers_empty

/-- Only the page and the widget refer to anything. -/
theorem refers_pages (refers : pages.Refers a b) :
    (a = "page" ∧ (b = "base" ∨ b = "widget")) ∨ (a = "widget" ∧ (b = "base" ∨ b = "label")) := by
  rcases refers_of_insert refers with ⟨rfl, names⟩ | refers
  · exact .inl ⟨rfl, (names_overrider Expr.templateName?_widget).mp names⟩
  · exact .inr (refers_widgets refers)

/-- Nothing leads back to itself among the templates with the page. -/
theorem acyclic_pages : pages.Acyclic := by
  refine acyclic_of_rank (fun name => if name = "page" then 2 else if name = "widget" then 1 else 0)
    fun a b refers => ?_
  rcases refers_pages refers with ⟨rfl, rfl | rfl⟩ | ⟨rfl, rfl | rfl⟩ <;> decide

/-- Nothing leads back to itself among the templates without the page. -/
theorem acyclic_widgets : widgets.Acyclic := by
  refine acyclic_of_rank (fun name => if name = "widget" then 1 else 0) fun a b refers => ?_
  rcases refers_widgets refers with ⟨rfl, rfl | rfl⟩ <;> decide

/-- Only the widget has a parent: the base. -/
theorem extends_widgets (parent : widgets.Extends a b) : a = "widget" ∧ b = "base" := by
  obtain ⟨rfl, -⟩ := refers_widgets parent.refers
  obtain ⟨t, expr, known, inside, named⟩ := parent
  have same : t = Template.overrider "widget" "label" := by
    rw [widgets, Table.get?_insert, if_pos rfl] at known
    exact (Option.some.inj known).symm
  subst same
  have literal : expr = ⟨.literal (.text "base"), []⟩ := by
    simpa [Template.overrider, Node.all] using inside
  rw [literal, Expr.templateName?_base] at named
  exact ⟨rfl, (Option.some.inj named).symm⟩

/-- The block of the widget names no template that leads to the base. -/
theorem overridesApart_widgets : widgets.OverridesApart := by
  intro a t ancestor d name body overridden b known derives _ member _ names other descends reaches
  obtain ⟨c, parent, -⟩ := Relation.TransGen.head'_iff.mp derives
  obtain ⟨rfl, -⟩ := extends_widgets parent
  have same : t = Template.overrider "widget" "label" := by
    rw [widgets, Table.get?_insert, if_pos rfl] at known
    exact (Option.some.inj known).symm
  subst same
  have only : b = "label" := by
    have shape : name = "b" ∧ body = [.includes ⟨.literal (.text "label"), []⟩] := by
      simpa [Template.overrider, Node.all] using member
    rw [shape.2] at names
    simpa [Node.Names, Node.all, Node.operand?, Expr.templateName?_label, eq_comm] using names
  subst only
  obtain ⟨c, -, last⟩ := Relation.TransGen.tail'_iff.mp descends
  obtain ⟨-, rfl⟩ := extends_widgets last
  rcases Relation.ReflTransGen.cases_head reaches with same | ⟨c, refers, -⟩
  · simp at same
  · simpa using refers_widgets refers

end Library

/-- The widget includes the label in a block that it overrides, and its render reports no cycle. -/
theorem Template.render_widget_ne_cycle :
    ¬ ∃ names n, (Template.overrider "widget" "label").render ⟨.silent, default⟩ 9
      (.start Library.widgets ∅ ∅) = .failed (.cycle names) n := by
  rintro ⟨names, n, reported⟩
  exact Template.render_ne_cycle Library.parsed_widgets Library.closed_widgets
    Library.acyclic_widgets Library.overridesApart_widgets rfl ⟨.silent, default⟩ 9
    (.start Library.widgets ∅ ∅) (fun _ _ => id) names n reported

/-- The page overrides a block with one that includes the widget, and as both have the same base its
render reports a cycle, although no template leads back to itself. -/
theorem Template.render_page_cycle : ¬ ∀ library : Library, library.Parsed → library.Closed →
    library.Acyclic → ∀ t : Template, library.get? t.name = some t → ∀ setting fuel m,
      (∀ name d, library.get? name = some d → m.library.get? name = some d) →
      ∀ names n, t.render setting fuel m ≠ .failed (.cycle names) n := by
  intro never
  have spared := never Library.pages Library.parsed_pages Library.closed_pages
    Library.acyclic_pages (.overrider "page" "widget") rfl ⟨.silent, default⟩ 20
    (.start Library.pages ∅ ∅) fun _ _ => id
  have reported : (match (Template.overrider "page" "widget").render ⟨.silent, default⟩ 20
      (.start Library.pages ∅ ∅) with
      | .failed (.cycle names) _ => some names
      | _ => none) = some ["page", "base", "widget", "base"] := by
    decide +kernel
  split at reported
  · rename_i names n failed
    exact spared names n failed
  · cases reported

end TextTemplate

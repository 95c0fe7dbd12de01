import TextTemplate.Proofs.Render.Ending
/-!
# Traits of renders

Many properties of all renders are proved in one way: every operation that a step is made of has the
property, and putting renders together keeps it. A `Trait` is such a property, of families of
renders, so that it may compare two renders or infinitely many. It is `Compatible` if the operations
have it; then a step has it if the tasks inside have it, and so does every run.

A trait has three grades, since not all renders keep to the same rules: a whole render leaves the
scopes as it finds them, one inside a scope may bind names there, and one of a template is told the
template.
-/
namespace TextTemplate.Render

/-- A property of families of renders. -/
structure Trait (ι : Type) where
  /-- What is claimed of renders that leave the scopes as they find them. -/
  whole : {α : Type} → (ι → Render α) → Prop
  /-- What is claimed of renders that may bind names in the innermost scope. -/
  inner : {α : Type} → (ι → Render α) → Prop
  /-- What is claimed of renders of a template. -/
  entered : Template → (ι → Render Unit) → Prop

namespace Trait

variable {ι : Type}

/-- What a trait claims of the renders of a task. -/
def Meets (trait : Trait ι) : Task → (ι → Render Unit) → Prop
  | .template t => trait.entered t
  | .nodes _ _ => trait.whole
  | .iterate .. => trait.inner

/-- All operations of a step have the trait, but for opening a scope. -/
structure Operable (trait : Trait ι) (settings : ι → Setting) : Prop where
  /-- Doing nothing. -/
  pure : ∀ {α : Type} (v : α), trait.whole fun _ => Pure.pure v
  /-- One render after the other. -/
  bind : ∀ {α β : Type} {x : ι → Render α} {f : ι → α → Render β},
    trait.whole x → (∀ v, trait.whole fun i => f i v) → trait.whole fun i => x i >>= f i
  /-- Writing a text. -/
  emit : ∀ text, trait.whole fun _ => emit text
  /-- Evaluating an expression. -/
  evaluate : ∀ expr, trait.whole fun i => evaluate (settings i) expr
  /-- Writing a value as the context shows it. -/
  shown : ∀ v, trait.whole fun _ => do Render.emit (← reads fun m => Render.shown m.context v)
  /-- Reading from the heap. -/
  heap : ∀ {α : Type} (f : Heap → α), trait.whole fun _ => reads fun m => f m.host.heap
  /-- Finding what stands in the place of a block. -/
  blockBody : ∀ owner name body,
    trait.whole fun _ => reads fun m => blockBody m.chain owner name body
  /-- Rendering another template with one more overriding. -/
  inherits : ∀ owner name {x : Template → ι → Render Unit}, (∀ t, trait.entered t (x t)) →
    trait.whole fun i => load (settings i) name >>= fun t => overridden owner (x t i)
  /-- Rendering another template with none overriding. -/
  includes : ∀ name {x : Template → ι → Render Unit}, (∀ t, trait.entered t (x t)) →
    trait.whole fun i => load (settings i) name >>= fun t => detached (x t i)
  /-- Rendering another template into a text. -/
  captures : ∀ name {x : Template → ι → Render Unit}, (∀ t, trait.entered t (x t)) →
    trait.whole fun i => load (settings i) name >>= fun t => captured (detached (x t i))
  /-- Creating a file. -/
  create : ∀ owner line file content, trait.whole fun _ => create owner line file content
  /-- Entering a template. -/
  template : ∀ t {x : ι → Render Unit}, trait.whole x →
    trait.entered t fun i => template (settings i) (fun _ => x i) t
  /-- What leaves the scopes alone may be done inside one. -/
  inner : ∀ {α : Type} {x : ι → Render α}, trait.whole x → trait.inner x
  /-- One render after the other inside a scope. -/
  innerBind : ∀ {α β : Type} {x : ι → Render α} {f : ι → α → Render β},
    trait.inner x → (∀ v, trait.inner fun i => f i v) → trait.inner fun i => x i >>= f i
  /-- Binding a name. -/
  bindName : ∀ name v, trait.inner fun _ => bindName name v
  /-- Binding `forloop`. -/
  bindLoop : ∀ list index, trait.inner fun i => bindLoop (settings i) list index

/-- All operations of a step have the trait. -/
structure Compatible (trait : Trait ι) (settings : ι → Setting) : Prop
    extends trait.Operable settings where
  /-- Opening a scope. -/
  inScope : ∀ {x : ι → Render Unit}, trait.inner x → trait.whole fun i => inScope (x i)

namespace Compatible

variable {trait : Trait ι} {settings : ι → Setting} {runs : ι → Task → Render Unit}

/-- A node has the trait if what is inside it has it. -/
theorem node (compatible : trait.Compatible settings)
    (inside : ∀ task, trait.Meets task fun i => runs i task) (owner : Template) (n : Node) :
    trait.whole fun i => Render.node (settings i) (runs i) owner n := by
  cases n with
  | text s => exact compatible.emit s
  | «variable» expr => exact compatible.bind (compatible.evaluate expr) compatible.shown
  | forEach var expr reversed body otherwise =>
    refine compatible.bind (compatible.evaluate expr) fun v => ?_
    cases v.list? with
    | none => exact inside (.nodes owner otherwise)
    | some list =>
      refine compatible.bind (compatible.heap fun heap => heap.count list) fun count => ?_
      split
      · exact compatible.inScope
          (inside (.iterate owner var reversed body list (begin reversed count) 0))
      · exact inside (.nodes owner otherwise)
  | condition test negated yes no =>
    refine compatible.bind (compatible.evaluate test) fun v => ?_
    refine compatible.bind (compatible.heap v.truth) fun holds => ?_
    split
    · exact inside (.nodes owner yes)
    · exact inside (.nodes owner no)
  | block name body =>
    exact compatible.bind (compatible.blockBody owner name body) fun chosen =>
      inside (.nodes chosen.1 chosen.2)
  | inherits parent =>
    simp only [Render.node, resolve, bind_assoc]
    exact compatible.bind (compatible.evaluate parent) fun v =>
      compatible.inherits owner v.text fun t => inside (.template t)
  | includes template =>
    simp only [Render.node, resolve, bind_assoc]
    exact compatible.bind (compatible.evaluate template) fun v =>
      compatible.includes v.text fun t => inside (.template t)
  | creates file template line =>
    simp only [Render.node, resolve, bind_assoc]
    refine compatible.bind (compatible.evaluate file) fun named => ?_
    refine compatible.bind (compatible.evaluate template) fun v => ?_
    -- what is loaded and what is captured belong together, as one may decide about the other
    simp only [← bind_assoc]
    refine compatible.bind ?_ fun content => compatible.create owner line named.text content
    exact compatible.captures v.text fun t => inside (.template t)

/-- Nodes have the trait if what is inside them has it. -/
theorem nodes (compatible : trait.Compatible settings)
    (inside : ∀ task, trait.Meets task fun i => runs i task) (owner : Template) (ns : List Node) :
    trait.whole fun i => Render.nodes (settings i) (runs i) owner ns := by
  induction ns with
  | nil => exact compatible.pure ()
  | cons first rest ih =>
    refine compatible.bind (compatible.node inside owner first) fun _ => ?_
    split
    · exact compatible.pure ()
    · exact ih

/-- The iterations of a loop have the trait if what is inside them has it. -/
theorem iterate (compatible : trait.Compatible settings)
    (inside : ∀ task, trait.Meets task fun i => runs i task) (owner : Template) (var : String)
    (reversed : Bool) (body : List Node) (list : ListRef) (cursor : Cursor) (index : Nat) :
    trait.inner fun i =>
      Render.iterate (settings i) (runs i) owner var reversed body list cursor index := by
  simp only [iterate_eq]
  have current := compatible.inner (compatible.heap fun heap => cursor.current heap list)
  refine compatible.innerBind current fun reported => ?_
  cases reported with
  | none => exact compatible.inner (compatible.pure ())
  | some item =>
    refine compatible.innerBind (compatible.bindName var item) fun _ => ?_
    refine compatible.innerBind (compatible.bindLoop list index) fun _ => ?_
    refine compatible.innerBind (compatible.inner (inside (.nodes owner body))) fun _ => ?_
    exact inside (.iterate owner var reversed body list (advance reversed cursor) (index + 1))

/-- A step has the trait if the tasks inside it have it. -/
theorem step (compatible : trait.Compatible settings)
    (inside : ∀ task, trait.Meets task fun i => runs i task) (task : Task) :
    trait.Meets task fun i => Render.step (settings i) (runs i) task := by
  cases task with
  | template t => exact compatible.template t (inside (.nodes t t.nodes))
  | nodes owner ns => exact compatible.nodes inside owner ns
  | iterate owner var reversed body list cursor index =>
    exact compatible.iterate inside owner var reversed body list cursor index

/-- Every run has the trait if the lack of fuel has it. -/
theorem run (compatible : trait.Compatible settings)
    (starved : ∀ task, trait.Meets task fun _ => starve) (fuel : Nat) (task : Task) :
    trait.Meets task fun i => Render.run (settings i) fuel task := by
  induction fuel generalizing task with
  | zero => exact starved task
  | succ fuel ih => exact compatible.step ih task

end Compatible

end Trait

end TextTemplate.Render

import TextTemplate.Render.Machine
import TextTemplate.Evaluation
import TextTemplate.Value.Cursor

/-!
# Rendering

Rendering is told as tasks: a template, a list of nodes, the rest of a loop. A step does one task
with the help of a function that does the tasks inside it; running a task with fuel `n + 1` is a
step whose inner tasks are run with fuel `n`. So a property of all renders is a property that a step
keeps.

Blocks are looked up in the override chain, most derived template first. `extends` adds a template
to the chain and renders its parent; `include` and `create` render with an empty chain.
-/
namespace TextTemplate

/-- What does not change during a render. -/
structure Setting where
  /-- The host's callables. -/
  host : Host
  /-- The configuration. -/
  config : Config

/-- Something to render. -/
inductive Task
  /-- A template, as one more of those being rendered. -/
  | template (t : Template)
  /-- Nodes of a template. -/
  | nodes (owner : Template) (nodes : List Node)
  /-- The iterations of a loop from the cursor on, the first of them having the given index. -/
  | iterate (owner : Template) (var : String) (reversed : Bool) (body : List Node)
    (list : ListRef) (cursor : Cursor) (index : Nat)

namespace Render

/-- Write a text to the sink. -/
def emit (text : String) : Render Unit := fun m =>
  if m.sink.accepts m.sink.written text then
    .done () { m with
      sink := { m.sink with written := m.sink.written.push text }
      host := m.host.record (.wrote m.sink.level text) }
  else .failed .refused m

/-- The value of an expression. -/
def evaluate (setting : Setting) (expr : Expr) : Render Value := fun m =>
  let (v, host) := expr.eval setting.host m.context m.host
  .done v { m with host }

/-- The text that is written for a value. -/
def shown (context : Context) (v : Value) : String :=
  match context.escaper with
  | some escape => if v.raw then v.text else escape v.text
  | none => v.text

/-- The template of a name. -/
def load (setting : Setting) (name : String) : Render Template := fun m =>
  match m.library.load setting.config m.files name with
  | .ok (template, library) => .done template { m with library }
  | .error error => .failed error m

/-- The template whose name is the text of an expression. -/
def resolve (setting : Setting) (expr : Expr) : Render Template := do
  load setting (← evaluate setting expr).text

/-- Do something as part of rendering a template. -/
def entering (t : Template) : Render Unit → Render Unit :=
  around (fun m => { m with active := m.active ++ [t.name] })
    (fun m => { m with active := m.active.dropLast })

/-- Do something with the blocks of a template overriding, after those that override already. -/
def overridden (t : Template) : Render Unit → Render Unit :=
  around (fun m => { m with chain := m.chain ++ [t] })
    (fun m => { m with chain := m.chain.dropLast })

/-- Do something with no blocks overriding. -/
def detached (body : Render Unit) : Render Unit := do
  let chain ← reads (·.chain)
  around (fun m => { m with chain := [] }) (fun m => { m with chain }) body

/-- Do something in a scope of its own. -/
def inScope (body : Render Unit) : Render Unit := fun m =>
  match body { m with context := m.context.push } with
  | .outOfFuel => .outOfFuel
  | .done _ m =>
    match m.context.pop with
    | .ok context => .done () { m with context }
    | .error error => .failed (.scope error) m
  | .failed error m =>
    match m.context.pop with
    | .ok context => .failed error { m with context }
    | .error error => .failed (.scope error) m

/-- The text that something writes, none of which goes to the sink. -/
def captured (body : Render Unit) : Render String := do
  let sink ← reads (·.sink)
  around (fun m => { m with sink := .unlimited (sink.level + 1) }) (fun m => { m with sink })
    (do body; reads (·.sink.text))

/-- Bind a name in the innermost scope. -/
def bindName (name : String) (v : Value) : Render Unit :=
  modify fun m => { m with context := m.context.set name v }

/-- Note what became of a created file. -/
def conclude (outcome : SaveOutcome) : Render Unit :=
  modify fun m => { m with outcomes := m.outcomes.push outcome }

/-- Note that a file is complete. -/
def announce (path : Path) (content : String) : Render Unit :=
  modify fun m => { m with host := m.host.record (.created path content) }

/-- Save a text under a path. -/
def save (path : Path) (content : String) : Render SaveOutcome := fun m =>
  let (files, outcome) := m.files.save path content
  .done outcome { m with files }

/-- The body that stands in the place of a block, and the template that it is from. -/
def blockBody (chain : List Template) (owner : Template) (name : String) (body : List Node) :
    Template × List Node :=
  (chain.findSome? fun t => (t.blocks.get? name).map (t, ·)).getD (owner, body)

/-- The path of a created file. -/
def targetPath (context : Context) (file : String) : Path :=
  match context.outputDir with
  | some dir => dir.join ⟨file⟩
  | none => ⟨file⟩

/-- Create a file from a text; an empty name is an outcome and no error. -/
def create (owner : Template) (line : Nat) (file content : String) : Render Unit := do
  let path ← reads fun m => targetPath m.context file
  announce path content
  if file.isEmpty then conclude (.failed path (.emptyName owner.name line))
  else conclude (← save path content)

/-- The cursor of a loop after an iteration. -/
def advance (reversed : Bool) (cursor : Cursor) : Cursor :=
  if reversed then cursor.prev else cursor.next

/-- The cursor of a loop before its first iteration. -/
def begin (reversed : Bool) (count : Nat) : Cursor :=
  if reversed then .last count else .first

/-- Render a node, with `run` for what is inside it. A node that inherits renders its parent. -/
def node (setting : Setting) (run : Task → Render Unit) (owner : Template) : Node → Render Unit
  | .text s => emit s
  | .variable expr => do
    let v ← evaluate setting expr
    emit (← reads fun m => shown m.context v)
  | .forEach var expr reversed body otherwise => do
    let v ← evaluate setting expr
    match v.list? with
    | some list =>
      let count ← reads (·.host.heap.count list)
      if 0 < count then
        inScope (run (.iterate owner var reversed body list (begin reversed count) 0))
      else run (.nodes owner otherwise)
    | none => run (.nodes owner otherwise)
  | .condition test negated yes no => do
    let v ← evaluate setting test
    let holds ← reads (v.truth ·.host.heap)
    if holds != negated then run (.nodes owner yes) else run (.nodes owner no)
  | .block name body => do
    let (source, chosen) ← reads fun m => blockBody m.chain owner name body
    run (.nodes source chosen)
  | .inherits parent => do
    let t ← resolve setting parent
    overridden owner (run (.template t))
  | .includes template => do
    let t ← resolve setting template
    detached (run (.template t))
  | .creates file template line => do
    let file := (← evaluate setting file).text
    let t ← resolve setting template
    let content ← captured (detached (run (.template t)))
    create owner line file content

/-- Whether nothing after a node is rendered. -/
def isLast : Node → Bool
  | .inherits _ => true
  | _ => false

/-- Render nodes in order, up to one that inherits. -/
def nodes (setting : Setting) (run : Task → Render Unit) (owner : Template) :
    List Node → Render Unit
  | [] => pure ()
  | first :: rest => do
    node setting run owner first
    if isLast first then return else nodes setting run owner rest

/-- Render a template, unless it is being rendered already or too many are. -/
def template (setting : Setting) (run : Task → Render Unit) (t : Template) : Render Unit := do
  let active ← reads (·.active)
  if t.name ∈ active then fail (.cycle (active ++ [t.name]))
  else if setting.config.maxDepth ≤ active.length then
    fail (.tooDeep setting.config.maxDepth t.name)
  else entering t (run (.nodes t t.nodes))

/-- Render the iterations of a loop from the cursor on. The list may change meanwhile: the cursor
looks at it as it is. -/
def iterate (setting : Setting) (run : Task → Render Unit) (owner : Template) (var : String)
    (reversed : Bool) (body : List Node) (list : ListRef) (cursor : Cursor) (index : Nat) :
    Render Unit := do
  match ← reads fun m => cursor.current m.host.heap list with
  | none => return
  | some item =>
    bindName var item
    if setting.config.loopMetadata then
      bindName "forloop" (.ofLoop ⟨index, ← reads (·.host.heap.count list)⟩)
    run (.nodes owner body)
    run (.iterate owner var reversed body list (advance reversed cursor) (index + 1))

/-- Do a task, with `run` for the tasks inside it. -/
def step (setting : Setting) (run : Task → Render Unit) : Task → Render Unit
  | .template t => template setting run t
  | .nodes owner ns => nodes setting run owner ns
  | .iterate owner var reversed body list cursor index =>
    iterate setting run owner var reversed body list cursor index

/-- Do a task with the given fuel. -/
def run (setting : Setting) : Nat → Task → Render Unit
  | 0, _ => starve
  | fuel + 1, task => step setting (run setting fuel) task

end Render

/-- Render a template from a machine in which no template is being rendered. -/
def Template.render (setting : Setting) (fuel : Nat) (t : Template) (m : Machine) : Ending Unit :=
  Render.run setting fuel (.template t) { m with active := [], chain := [], outcomes := #[] }

end TextTemplate

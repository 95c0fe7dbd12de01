import TextTemplate.Render.Step
/-!
# What an ending satisfies

A property of a render is told by three conditions: one on the value and the machine of a render
that is done, one on the error and the machine of a render that failed, and one for want of fuel.
The laws here reduce such a property of a composed render to a property of its first part, so a
render is followed operation by operation from the machine that it starts from.
-/
namespace TextTemplate

/-- The machine of a program that did nothing yet: no files, and a sink that takes every text. -/
def Machine.start (library : Library) (context : Context) (heap : Heap) : Machine where
  host := ⟨heap, #[]⟩
  library := library
  files := .bare ⟨[]⟩
  context := context
  sink := .unlimited 0
  active := []
  chain := []
  outcomes := #[]

/-- An ending satisfies the condition for its kind. -/
def Ending.Holds {α : Type} (ok : α → Machine → Prop) (bad : RenderError → Machine → Prop)
    (starved : Prop) : Ending α → Prop
  | .done v m => ok v m
  | .failed error m => bad error m
  | .outOfFuel => starved

/-- Weaker conditions hold of an ending as well. -/
theorem Ending.Holds.mono {α : Type} {ok ok' : α → Machine → Prop}
    {bad bad' : RenderError → Machine → Prop} {starved starved' : Prop} {ending : Ending α}
    (holds : ending.Holds ok bad starved) (value : ∀ v m, ok v m → ok' v m)
    (error : ∀ e m, bad e m → bad' e m) (fuel : starved → starved') :
    ending.Holds ok' bad' starved' := by
  cases ending with
  | done v m => exact value v m holds
  | failed e m => exact error e m holds
  | outOfFuel => exact fuel holds

/-- Two properties of one ending hold together. -/
theorem Ending.Holds.and {α : Type} {ok ok' : α → Machine → Prop}
    {bad bad' : RenderError → Machine → Prop} {starved starved' : Prop} {ending : Ending α}
    (first : ending.Holds ok bad starved) (second : ending.Holds ok' bad' starved') :
    ending.Holds (fun v m => ok v m ∧ ok' v m) (fun e m => bad e m ∧ bad' e m)
      (starved ∧ starved') := by
  cases ending <;> exact ⟨first, second⟩

instance {α : Type} {ok : α → Machine → Prop} {bad : RenderError → Machine → Prop} {starved : Prop}
    [∀ v m, Decidable (ok v m)] [∀ error m, Decidable (bad error m)] [Decidable starved]
    (ending : Ending α) : Decidable (ending.Holds ok bad starved) :=
  match ending with
  | .done v m => inferInstanceAs (Decidable (ok v m))
  | .failed error m => inferInstanceAs (Decidable (bad error m))
  | .outOfFuel => inferInstanceAs (Decidable starved)

/-- A render is done if no other ending satisfies its condition. -/
theorem Ending.Holds.exists_done {α : Type} {ok : α → Machine → Prop} {ending : Ending α}
    (holds : ending.Holds ok (fun _ _ => False) False) :
    ∃ v m, ending = .done v m ∧ ok v m := by
  cases ending with
  | done v m => exact ⟨v, m, rfl, holds⟩
  | failed error m => exact holds.elim
  | outOfFuel => exact holds.elim

/-- A render failed if no other ending satisfies its condition. -/
theorem Ending.Holds.exists_failed {α : Type} {bad : RenderError → Machine → Prop}
    {ending : Ending α} (holds : ending.Holds (fun _ _ => False) bad False) :
    ∃ error m, ending = .failed error m ∧ bad error m := by
  cases ending with
  | done v m => exact holds.elim
  | failed error m => exact ⟨error, m, rfl, holds⟩
  | outOfFuel => exact holds.elim

namespace Render

variable {α β : Type} {ok : α → Machine → Prop} {bad : RenderError → Machine → Prop}
  {starved : Prop} {m : Machine}

/-- What follows starts from the value and the machine that the first part is done with. -/
theorem holds_bind {next : β → Machine → Prop} (x : Render α) (f : α → Render β) :
    ((x >>= f) m).Holds next bad starved ↔
      (x m).Holds (fun v n => (f v n).Holds next bad starved) bad starved := by
  rw [bind_apply]
  cases x m <;> exact Iff.rfl

/-- A state that was entered is left at every ending. -/
theorem holds_around (enter leave : Machine → Machine) (body : Render α) :
    (around enter leave body m).Holds ok bad starved ↔
      (body (enter m)).Holds (fun v n => ok v (leave n)) (fun e n => bad e (leave n)) starved := by
  unfold around
  cases body (enter m) <;> exact Iff.rfl

/-- After a first part that is done the second one runs from where it ended. -/
theorem bind_of_done {x : Render α} {f : α → Render β} {v : α} {n : Machine}
    (done : x m = .done v n) : (x >>= f) m = f v n := by
  rw [bind_apply, done]

/-- A sequence is done if and only if both parts are, one after the other. -/
theorem done_bind {x : Render α} {f : α → Render β} {w : β} {k : Machine} :
    (x >>= f) m = .done w k ↔ ∃ v l, x m = .done v l ∧ f v l = .done w k := by
  rw [bind_apply]
  cases x m with
  | done v l =>
    constructor
    · exact fun done => ⟨v, l, rfl, done⟩
    · rintro ⟨_, _, ⟨⟩, done⟩
      exact done
  | failed error l => simp
  | outOfFuel => simp

/-- A sequence whose first part fails has failed. -/
theorem failed_bind {x : Render α} {f : α → Render β} {error : RenderError} {k : Machine}
    (failed : x m = .failed error k) : (x >>= f) m = .failed error k := by
  rw [bind_apply, failed]

/-- A render with something around it is done if and only if the render is. -/
theorem done_around {x : Render α} {enter leave : Machine → Machine} {v : α} {k : Machine} :
    around enter leave x m = .done v k ↔ ∃ l, x (enter m) = .done v l ∧ leave l = k := by
  unfold around
  cases x (enter m) with
  | done w l => simp only [Ending.done.injEq]; grind
  | failed error l => simp
  | outOfFuel => simp

/-- A detached render runs with no overriding templates and then has them back. -/
theorem detached_apply (body : Render Unit) (m : Machine) :
    detached body m = around (fun k => { k with chain := [] })
      (fun k => { k with chain := m.chain }) body m := rfl

/-- A captured render writes to a sink of its own, and its text is handed on. -/
theorem captured_apply (body : Render Unit) (m : Machine) :
    captured body m = around (fun k => { k with sink := .unlimited (k.sink.level + 1) })
      (fun k => { k with sink := m.sink }) (body >>= fun _ => reads (·.sink.text)) m := rfl

section Actions

variable {ok : Unit → Machine → Prop}

/-- The chain is put aside and back again. -/
theorem holds_detached (body : Render Unit) :
    (detached body m).Holds ok bad starved ↔
      (body { m with chain := [] }).Holds (fun _ n => ok () { n with chain := m.chain })
        (fun e n => bad e { n with chain := m.chain }) starved := by
  rw [detached_apply, holds_around]

/-- The sink is put aside and back again; what was captured is the text of the other sink. -/
theorem holds_captured {ok : String → Machine → Prop} (body : Render Unit) :
    (captured body m).Holds ok bad starved ↔
      (body { m with sink := .unlimited (m.sink.level + 1) }).Holds
        (fun _ n => ok n.sink.text { n with sink := m.sink })
        (fun e n => bad e { n with sink := m.sink }) starved := by
  rw [captured_apply, holds_around, holds_bind]
  rfl

/-- A text is taken or refused. -/
theorem holds_emit {text : String} :
    (emit text m).Holds ok bad starved ↔
      if m.sink.accepts m.sink.written text then
        ok () { m with
          sink := { m.sink with written := m.sink.written.push text }
          host := m.host.record (.wrote m.sink.level text) }
      else bad .refused m := by
  unfold emit
  split <;> exact Iff.rfl

end Actions

/-- A template is known, or it is read from its file and known from then on. -/
theorem holds_load {setting : Setting} {name : String} {ok : Template → Machine → Prop} :
    (load setting name m).Holds ok bad starved ↔
      match m.library.load setting.config m.files name with
      | .ok (t, library) => ok t { m with library }
      | .error error => bad error m := by
  unfold load
  cases m.library.load setting.config m.files name <;> exact Iff.rfl

/-- A load that is done changed the library only. -/
theorem done_load {setting : Setting} {name : String} {t : Template} {n : Machine}
    (done : load setting name m = .done t n) :
    ∃ library, m.library.load setting.config m.files name = .ok (t, library) ∧
      n = { m with library } := by
  unfold load at done
  split at done
  · rename_i loaded
    cases done
    exact ⟨_, loaded, rfl⟩
  · cases done

/-- What saving a text in a file does to the files, and what became of it; an empty name is refused
before anything is saved. -/
def stored (owner : Template) (line : Nat) (file : String) (path : Path) (content : String)
    (files : FileTree) : FileTree × SaveOutcome :=
  if file.isEmpty then (files, .failed path (.emptyName owner.name line))
  else files.save path content

/-- Creating a file is always done. -/
theorem create_eq (owner : Template) (line : Nat) (file content : String) (m : Machine) :
    create owner line file content m =
      let path := targetPath m.context file
      let result := stored owner line file path content m.files
      .done () { m with
        host := m.host.record (.created path content)
        files := result.1
        outcomes := m.outcomes.push result.2 } := by
  unfold create stored
  simp only [bind_apply, reads, announce, modify]
  split
  · rfl
  · simp only [bind_apply, save, conclude, modify]

/-- A template is rendered unless it is being rendered already or too many are. -/
theorem template_apply (setting : Setting) (run : Task → Render Unit) (t : Template) (m : Machine) :
    template setting run t m =
      if t.name ∈ m.active then .failed (.cycle (m.active ++ [t.name])) m
      else if setting.config.maxDepth ≤ m.active.length then
        .failed (.tooDeep setting.config.maxDepth t.name) m
      else entering t (run (.nodes t t.nodes)) m := by
  unfold template
  rw [bind_apply]
  unfold reads
  dsimp only
  split
  · rfl
  · split <;> rfl

/-- An include renders the template it resolves, without the overriding ones. -/
theorem node_includes (setting : Setting) (run : Task → Render Unit) (owner : Template)
    (template : Expr) :
    node setting run owner (.includes template) =
      resolve setting template >>= fun t => detached (run (.template t)) := rfl

/-- A create renders its template into a text and then creates the file. -/
theorem node_creates (setting : Setting) (run : Task → Render Unit) (owner : Template)
    (file template : Expr) (line : Nat) :
    node setting run owner (.creates file template line) = (do
      let named ← evaluate setting file
      let t ← resolve setting template
      let content ← captured (detached (run (.template t)))
      create owner line named.text content) := rfl

/-- Nodes none of which inherits are rendered, and then those after them. -/
theorem nodes_append (setting : Setting) (run : Task → Render Unit) (owner : Template)
    {front : List Node} (goesOn : ∀ n ∈ front, isLast n = false) (back : List Node) :
    nodes setting run owner (front ++ back) =
      nodes setting run owner front >>= fun _ => nodes setting run owner back := by
  induction front with
  | nil => rfl
  | cons first rest ih =>
    have later := ih fun n member => goesOn n (List.mem_cons_of_mem _ member)
    have here := goesOn first List.mem_cons_self
    simp only [List.cons_append, nodes, here, later, bind_assoc, Bool.false_eq_true, if_false]

/-- Bind `forloop` for an iteration, if that is wanted. -/
def bindLoop (setting : Setting) (list : ListRef) (index : Nat) : Render Unit := do
  if setting.config.loopMetadata then
    bindName "forloop" (.ofLoop ⟨index, ← reads (·.host.heap.count list)⟩)

/-- An iteration binds its names and renders the body, and then the others follow. -/
theorem iterate_eq (setting : Setting) (run : Task → Render Unit) (owner : Template) (var : String)
    (reversed : Bool) (body : List Node) (list : ListRef) (cursor : Cursor) (index : Nat) :
    iterate setting run owner var reversed body list cursor index =
      (do
        match ← reads fun m => cursor.current m.host.heap list with
        | none => return
        | some item =>
          bindName var item
          bindLoop setting list index
          run (.nodes owner body)
          run (.iterate owner var reversed body list (advance reversed cursor) (index + 1))) := by
  unfold iterate bindLoop
  congr 1
  funext reported
  cases reported with
  | none => rfl
  | some item => cases setting.config.loopMetadata <;> rfl

/-- The machine after the names of an iteration were bound. -/
def bound (setting : Setting) (var : String) (item : Value) (list : ListRef) (index : Nat)
    (m : Machine) : Machine :=
  let context := m.context.set var item
  { m with
    context :=
      if setting.config.loopMetadata then
        context.set "forloop" (.ofLoop ⟨index, m.host.heap.count list⟩)
      else context }

/-- The iterations of a loop end off the list, or they are one iteration and the others. -/
theorem iterate_apply (setting : Setting) (run : Task → Render Unit) (owner : Template)
    (var : String) (reversed : Bool) (body : List Node) (list : ListRef) (cursor : Cursor)
    (index : Nat) (m : Machine) :
    iterate setting run owner var reversed body list cursor index m =
      match cursor.current m.host.heap list with
      | none => .done () m
      | some item =>
        (run (.nodes owner body) >>= fun _ =>
          run (.iterate owner var reversed body list (advance reversed cursor) (index + 1)))
          (bound setting var item list index m) := by
  rw [iterate_eq, bind_apply]
  unfold reads
  dsimp only
  cases cursor.current m.host.heap list with
  | none => rfl
  | some item =>
    unfold bindLoop bound
    cases setting.config.loopMetadata <;> rfl

end Render

end TextTemplate

import TextTemplate.Proofs.Render.Completion
import TextTemplate.Value.StockHost
/-!
# Loops

A loop goes by positions. Its iterations look at one position after the other, from the first on or
backwards from the last one that the list had when the loop began, and what a position holds is
looked up when its iteration begins, since callables may have changed the list by then. `Reaches`
tells the machines between the iterations. Main statement: a loop over no list or over an empty one
is its other part; else it ends at the first position outside the list, or with the first error of
its body (`Render.forEach_lawful`).
-/
namespace TextTemplate

/-- With enough fuel the task ends in this way. -/
def Task.EndsIn (task : Task) (setting : Setting) (m : Machine) (ending : Ending Unit) : Prop :=
  ending ≠ .outOfFuel ∧ ∃ fuel, Render.run setting fuel task m = ending

/-- A task ends as it does with all the fuel that it needs. -/
theorem Task.endsIn_iff {task : Task} {setting : Setting} {m : Machine} {ending : Ending Unit}
    (ends : ending ≠ .outOfFuel) :
    task.EndsIn setting m ending ↔ Render.complete setting task m = ending := by
  rw [Render.complete_eq_iff ends]
  exact and_iff_right ends

/-- A task ends done if and only if its complete render is done. -/
theorem Task.endsIn_done {task : Task} {setting : Setting} {m n : Machine} :
    task.EndsIn setting m (.done () n) ↔ Render.complete setting task m = .done () n :=
  Task.endsIn_iff nofun

/-- A task ends in an error if and only if its complete render fails. -/
theorem Task.endsIn_failed {task : Task} {setting : Setting} {m n : Machine} {error : RenderError} :
    task.EndsIn setting m (.failed error n) ↔ Render.complete setting task m = .failed error n :=
  Task.endsIn_iff nofun

/-- A loop that began. -/
structure Loop where
  /-- The template that it is from. -/
  owner : Template
  /-- Its variable. -/
  var : String
  /-- Whether it goes backwards. -/
  reversed : Bool
  /-- Its body. -/
  body : List Node
  /-- The list. -/
  list : ListRef
  /-- The number of items that the list had when the loop began. -/
  count : Nat

namespace Loop

/-- The position at which an iteration looks, the iterations being counted from zero: one after the
other from the first on, or back from the last one that the list had when the loop began. -/
def position (loop : Loop) (k : Nat) : Option Nat :=
  if loop.reversed then
    if k < loop.count then some (loop.count - 1 - k) else none
  else some k

/-- What stands there in the list as it is in the machine. -/
def item? (loop : Loop) (k : Nat) (m : Machine) : Option Value :=
  (loop.position k).bind fun p => (m.host.heap.items loop.list)[p]?

/-- The context with one more scope, in which the variable is bound to the item and `forloop`, if
that is wanted, to where the loop stands. -/
def inner (loop : Loop) (setting : Setting) (outer : Context) (item : Value) (info : LoopInfo) :
    Context :=
  let context := outer.push.set loop.var item
  if setting.config.loopMetadata then context.set "forloop" (.ofLoop info) else context

/-- The machine in which an iteration renders the body. -/
def entered (loop : Loop) (setting : Setting) (k : Nat) (item : Value) (m : Machine) : Machine :=
  { m with context := loop.inner setting m.context item ⟨k, m.host.heap.count loop.list⟩ }

/-- The body is rendered from the machine and ends in this way. -/
def BodyEnds (loop : Loop) (setting : Setting) : Machine → Ending Unit → Prop :=
  (Task.nodes loop.owner loop.body).EndsIn setting

/-- The iterations before the one of the given number lead from the start to the machine. -/
inductive Reaches (loop : Loop) (setting : Setting) (start : Machine) : Nat → Machine → Prop
  | entry : Reaches loop setting start 0 start
  | next {k : Nat} {m n : Machine} {item : Value} (before : Reaches loop setting start k m)
    (inside : loop.item? k m = some item)
    (rendered : loop.BodyEnds setting (loop.entered setting k item m) (.done () n)) :
    Reaches loop setting start (k + 1) { n with context := m.context }

/-- What a loop does from where it starts, by the ways in which it ends. -/
structure Lawful (loop : Loop) (setting : Setting) (start : Machine) (ends : Ending Unit → Prop) :
    Prop where
  /-- It is done at the first iteration whose position is outside the list. -/
  done : ∀ n, ends (.done () n) ↔ ∃ k, loop.Reaches setting start k n ∧ loop.item? k n = none
  /-- It fails at the first iteration whose body fails, with that error. -/
  failed : ∀ error n, ends (.failed error n) ↔ ∃ k m item after, loop.Reaches setting start k m ∧
    loop.item? k m = some item ∧
    loop.BodyEnds setting (loop.entered setting k item m) (.failed error after) ∧
    n = { after with context := m.context }
  /-- In its iterations the variable means the item, and other names mean what they mean around. -/
  binds : ∀ k m item, loop.Reaches setting start k m →
    (loop.entered setting k item m).context.get loop.var = item ∧
    ∀ name, name ≠ loop.var → (setting.config.loopMetadata = true → name ≠ "forloop") →
      (loop.entered setting k item m).context.get name = start.context.get name
  /-- If the list stays as it is, there is one iteration for each item, in order or in reverse. -/
  counted : (∀ k m, loop.Reaches setting start k m →
      m.host.heap.items loop.list = start.host.heap.items loop.list) →
    (∀ k m, loop.Reaches setting start k m → k ≤ loop.count ∧
      loop.item? k m = if k < loop.count then
        (start.host.heap.items loop.list)[if loop.reversed then loop.count - 1 - k else k]?
      else none) ∧
    ∀ n, ends (.done () n) ↔ loop.Reaches setting start loop.count n

/-! ### Positions and scopes -/

section Positions

variable {loop : Loop} {setting : Setting} {k : Nat} {m : Machine}

/-- The cursor begins at the position of the first iteration. -/
theorem position_begin : (Render.begin loop.reversed loop.count).position = loop.position 0 := by
  unfold Render.begin position
  cases loop.reversed with
  | false => rfl
  | true =>
    by_cases empty : loop.count = 0
    · simp [Cursor.last, empty]
    · have some_ : 0 < loop.count := Nat.pos_of_ne_zero empty
      simp [Cursor.last, empty, some_]

/-- The cursor of a loop goes through the positions of the iterations. -/
theorem position_advance {cursor : Cursor} (here : cursor.position = loop.position k) :
    (Render.advance loop.reversed cursor).position = loop.position (k + 1) := by
  unfold Render.advance position at *
  cases direction : loop.reversed with
  | false =>
    rw [direction] at here
    simp [Cursor.next, here]
  | true =>
    rw [direction] at here
    simp only [if_true, Cursor.prev] at here ⊢
    rw [here]
    by_cases inside : k < loop.count
    · rw [if_pos inside, Option.bind_some]
      by_cases last : k + 1 < loop.count
      · rw [if_pos last, if_neg (by omega)]
        exact congrArg some (by omega)
      · rw [if_neg last, if_pos (by omega)]
    · rw [if_neg inside, if_neg (by omega), Option.bind_none]

/-- What the cursor reports is what stands at the position of the iteration. -/
theorem current_eq {cursor : Cursor} (here : cursor.position = loop.position k) (m : Machine) :
    cursor.current m.host.heap loop.list = loop.item? k m := by
  unfold Cursor.current item?
  rw [here]

/-- The scope of a loop over a context, just opened or as an iteration bound names in it. -/
inductive Opened (loop : Loop) (setting : Setting) (outer : Context) : Context → Prop
  | fresh : Opened loop setting outer outer.push
  | used (item : Value) (info : LoopInfo) :
    Opened loop setting outer (loop.inner setting outer item info)

/-- An iteration binds its names in place of those of the iteration before. -/
theorem bound_eq {context : Context} (opened : loop.Opened setting m.context context)
    (item : Value) :
    Render.bound setting loop.var item loop.list k { m with context } =
      loop.entered setting k item m := by
  unfold Render.bound entered
  refine congrArg (fun context => { m with context }) ?_
  cases opened with
  | fresh => rfl
  | used before info =>
    unfold inner
    cases setting.config.loopMetadata with
    | false => simp [Context.set, Context.push, Table.insert, Table.put]
    | true =>
      by_cases same : loop.var = "forloop" <;>
        simp [Context.set, Context.push, Table.insert, Table.put, same]

end Positions

/-! ### Iterations

The task that the iterations are runs them in one scope, which every iteration binds its names in;
`Reaches` has the machines as they are when that scope is closed.
-/

section Iterations

variable {loop : Loop} {setting : Setting} {start m n : Machine} {k : Nat}

/-- The iterations from a cursor on. -/
def rest (loop : Loop) (cursor : Cursor) (k : Nat) : Task :=
  .iterate loop.owner loop.var loop.reversed loop.body loop.list cursor k

/-- No iteration changes what is bound around the loop. -/
theorem Reaches.context_eq (reached : loop.Reaches setting start k m) :
    m.context = start.context := by
  induction reached with
  | entry => rfl
  | next before inside rendered ih => exact ih

/-- A body that is done leaves the scope of the loop as its iteration bound names in it. -/
theorem opened_of_body {item : Value}
    (rendered : loop.BodyEnds setting (loop.entered setting k item m) (.done () n)) :
    loop.Opened setting m.context n.context := by
  have ended := Task.endsIn_done.mp rendered
  have back := (Render.steady_complete_nodes loop.owner loop.body).returns ended
  rw [back.context]
  exact .used item _

/-- What an iteration does that finds an item. -/
theorem complete_rest_of_item {context : Context} {cursor : Cursor} {item : Value}
    (opened : loop.Opened setting m.context context) (here : cursor.position = loop.position k)
    (inside : loop.item? k m = some item) :
    Render.complete setting (loop.rest cursor k) { m with context } =
      (Render.complete setting (.nodes loop.owner loop.body) >>= fun _ =>
        Render.complete setting (loop.rest (Render.advance loop.reversed cursor) (k + 1)))
        (loop.entered setting k item m) := by
  rw [rest, Render.complete_iterate]
  have found : cursor.current ({ m with context } : Machine).host.heap loop.list = some item :=
    (current_eq here m).trans inside
  rw [found]
  dsimp only
  rw [bound_eq opened item]
  rfl

/-- An iteration that finds no item ends the loop. -/
theorem complete_rest_of_none {context : Context} {cursor : Cursor}
    (here : cursor.position = loop.position k) (outside : loop.item? k m = none) :
    Render.complete setting (loop.rest cursor k) { m with context } =
      .done () { m with context } := by
  rw [rest, Render.complete_iterate]
  have found : cursor.current ({ m with context } : Machine).host.heap loop.list = none :=
    (current_eq here m).trans outside
  rw [found]

/-- The loop ends as the iterations that are left do. -/
theorem Reaches.complete_eq (reached : loop.Reaches setting start k m) :
    ∃ context cursor, loop.Opened setting m.context context ∧
      cursor.position = loop.position k ∧
      Render.complete setting (loop.rest (Render.begin loop.reversed loop.count) 0)
          { start with context := start.context.push } =
        Render.complete setting (loop.rest cursor k) { m with context } := by
  induction reached with
  | entry => exact ⟨_, _, .fresh, position_begin, rfl⟩
  | @next k m n item before inside rendered ih =>
    obtain ⟨context, cursor, opened, here, same⟩ := ih
    have ended := Task.endsIn_done.mp rendered
    have bound := opened_of_body rendered
    refine ⟨n.context, Render.advance loop.reversed cursor, bound, position_advance here, ?_⟩
    rw [same, complete_rest_of_item opened here inside, Render.bind_of_done ended]

/-- How a loop ends, with the machine as it is when its scope is closed. -/
inductive Stops (loop : Loop) (setting : Setting) (start : Machine) : Ending Unit → Prop
  | done {k : Nat} {m : Machine} (reached : loop.Reaches setting start k m)
    (outside : loop.item? k m = none) : Stops loop setting start (.done () m)
  | failed {k : Nat} {m after : Machine} {item : Value} {error : RenderError}
    (reached : loop.Reaches setting start k m) (inside : loop.item? k m = some item)
    (stuck : loop.BodyEnds setting (loop.entered setting k item m) (.failed error after)) :
    Stops loop setting start (.failed error { after with context := m.context })

/-- What is left of a loop ends as the law says. -/
theorem stops_of_rounds {fuel : Nat} {context : Context} {cursor : Cursor}
    (reached : loop.Reaches setting start k m) (opened : loop.Opened setting m.context context)
    (here : cursor.position = loop.position k) :
    (Render.rounds setting (Render.complete setting (.nodes loop.owner loop.body)) loop.var
        loop.reversed loop.list fuel cursor k { m with context }).Holds
      (fun _ n => loop.Stops setting start (.done () { n with context := start.context }))
      (fun error n =>
        loop.Stops setting start (.failed error { n with context := start.context }))
      True := by
  induction fuel generalizing k m context cursor with
  | zero => trivial
  | succ fuel ih =>
    rw [Render.rounds_apply]
    have found : cursor.current ({ m with context } : Machine).host.heap loop.list =
        loop.item? k m := current_eq here m
    rw [found]
    cases looked : loop.item? k m with
    | none =>
      have stop := Stops.done reached looked
      rwa [← reached.context_eq]
    | some item =>
      dsimp only
      rw [bound_eq opened item, Render.bind_apply]
      cases rendered : Render.complete setting (.nodes loop.owner loop.body)
          (loop.entered setting k item m) with
      | done v n =>
        have ended := Task.endsIn_done.mpr rendered
        have onward := Reaches.next reached looked ended
        have bound := opened_of_body ended
        exact @ih { n with context := m.context } (k + 1) n.context _ onward bound
          (position_advance here)
      | failed error n =>
        have stuck := Task.endsIn_failed.mpr rendered
        have stop := Stops.failed reached looked stuck
        rwa [← reached.context_eq]
      | outOfFuel => trivial

/-- What the loop node does when the list has items. -/
theorem inScope_eq (loop : Loop) (start : Machine) :
    Render.inScope (Render.complete setting
        (loop.rest (Render.begin loop.reversed loop.count) 0)) start =
      Render.around (fun m => { m with context := m.context.push })
        (fun n => { n with context := start.context })
        (Render.complete setting (loop.rest (Render.begin loop.reversed loop.count) 0)) start :=
  Render.inScope_eq_around (Render.steady_complete (loop.rest _ 0)) start

/-- The complete render of the iterations ends only where the loop stops. -/
theorem stops_of_complete (loop : Loop) (setting : Setting) (start : Machine) :
    (Render.complete setting (loop.rest (Render.begin loop.reversed loop.count) 0)
        { start with context := start.context.push }).Holds
      (fun _ n => loop.Stops setting start (.done () { n with context := start.context }))
      (fun error n =>
        loop.Stops setting start (.failed error { n with context := start.context }))
      True := by
  obtain ⟨fuel, reached⟩ := Render.rounds_of_complete setting loop.owner loop.var loop.reversed
    loop.body loop.list (Render.begin loop.reversed loop.count) 0
    { start with context := start.context.push }
  rw [rest, ← reached fuel (Nat.le_refl _)]
  exact stops_of_rounds .entry .fresh position_begin

/-- Where the iterations end in their scope the loop stops. -/
theorem stops_of_ended {ending : Ending Unit} (ends : ending ≠ .outOfFuel)
    (ended : Render.inScope (Render.complete setting
      (loop.rest (Render.begin loop.reversed loop.count) 0)) start = ending) :
    loop.Stops setting start ending := by
  have stops := stops_of_complete loop setting start
  rw [inScope_eq, Render.around] at ended
  cases inside : Render.complete setting (loop.rest (Render.begin loop.reversed loop.count) 0)
      { start with context := start.context.push } with
  | done v n =>
    rw [inside] at stops ended
    exact ended ▸ stops
  | failed error n =>
    rw [inside] at stops ended
    exact ended ▸ stops
  | outOfFuel =>
    rw [inside] at ended
    exact absurd ended.symm ends

/-- Where the loop stops the iterations end in their scope. -/
theorem ended_of_stops {ending : Ending Unit} (stops : loop.Stops setting start ending) :
    Render.inScope (Render.complete setting
      (loop.rest (Render.begin loop.reversed loop.count) 0)) start = ending := by
  rw [inScope_eq]
  unfold Render.around
  cases stops with
  | @done k m reached outside =>
    obtain ⟨context, cursor, -, here, same⟩ := reached.complete_eq
    rw [same, complete_rest_of_none here outside, ← reached.context_eq]
  | @failed k m after item error reached inside stuck =>
    obtain ⟨context, cursor, opened, here, same⟩ := reached.complete_eq
    have failed := Task.endsIn_failed.mp stuck
    rw [same, complete_rest_of_item opened here inside, Render.failed_bind failed,
      ← reached.context_eq]

end Iterations

/-! ### The law -/

section Law

variable {loop : Loop} {setting : Setting} {start m : Machine} {k : Nat}

/-- In an iteration the variable means the item; the names that the iteration does not bind mean
what they mean around the loop. -/
theorem get_inner (named : setting.config.loopMetadata = true → loop.var ≠ "forloop")
    (outer : Context) (item : Value) (info : LoopInfo) :
    (loop.inner setting outer item info).get loop.var = item ∧
      ∀ name, name ≠ loop.var → (setting.config.loopMetadata = true → name ≠ "forloop") →
        (loop.inner setting outer item info).get name = outer.get name := by
  unfold inner Context.get
  cases wanted : setting.config.loopMetadata with
  | false =>
    refine ⟨by simp [Context.get?_set], fun name other _ => ?_⟩
    simp [Context.get?_set, Ne.symm other]
  | true =>
    have apart := named wanted
    refine ⟨by simp [Context.get?_set, Ne.symm apart], fun name other free => ?_⟩
    simp [Context.get?_set, Ne.symm other, Ne.symm (free rfl)]

/-- As long as the list stays as it is, an iteration finds the item of its number, from the front or
from the back, unless there were as many iterations as items. -/
theorem item?_of_same (counted : loop.count = start.host.heap.count loop.list)
    (same : m.host.heap.items loop.list = start.host.heap.items loop.list) (le : k ≤ loop.count) :
    loop.item? k m = if k < loop.count then
      (start.host.heap.items loop.list)[if loop.reversed then loop.count - 1 - k else k]?
    else none := by
  unfold item? position
  rw [same]
  have size : loop.count = (start.host.heap.items loop.list).size := counted
  cases loop.reversed with
  | false =>
    by_cases inside : k < loop.count
    · simp [inside]
    · have outside : (start.host.heap.items loop.list).size ≤ k := by omega
      simp [inside, outside]
  | true => by_cases inside : k < loop.count <;> simp [inside]

/-- If no iteration changes the list, there are no more iterations than items. -/
theorem Reaches.le_count (counted : loop.count = start.host.heap.count loop.list)
    (same : ∀ k m, loop.Reaches setting start k m →
      m.host.heap.items loop.list = start.host.heap.items loop.list)
    (reached : loop.Reaches setting start k m) : k ≤ loop.count := by
  induction reached with
  | entry => exact Nat.zero_le _
  | @next k m n item before inside rendered ih =>
    rw [item?_of_same counted (same k m before) ih] at inside
    by_contra beyond
    rw [if_neg (by omega)] at inside
    cases inside

/-- The ways in which a loop ends say what it does. -/
theorem lawful_of_stops (named : setting.config.loopMetadata = true → loop.var ≠ "forloop")
    (counted : loop.count = start.host.heap.count loop.list) {ends : Ending Unit → Prop}
    (law : ∀ ending, ends ending ↔ loop.Stops setting start ending) :
    loop.Lawful setting start ends where
  done n := by
    rw [law]
    constructor
    · rintro ⟨reached, outside⟩
      exact ⟨_, reached, outside⟩
    · rintro ⟨k, reached, outside⟩
      exact .done reached outside
  failed error n := by
    rw [law]
    constructor
    · rintro ⟨⟩
      exact ⟨_, _, _, _, ‹_›, ‹_›, ‹_›, rfl⟩
    · rintro ⟨k, m, item, after, reached, inside, stuck, rfl⟩
      exact .failed reached inside stuck
  binds k m item reached := by
    have means := get_inner named m.context item ⟨k, m.host.heap.count loop.list⟩
    rw [reached.context_eq] at means
    unfold entered
    rw [reached.context_eq]
    exact means
  counted same := by
    have found : ∀ k m, loop.Reaches setting start k m → k ≤ loop.count ∧
        loop.item? k m = if k < loop.count then
          (start.host.heap.items loop.list)[if loop.reversed then loop.count - 1 - k else k]?
        else none := fun k m reached => by
      have le := reached.le_count counted same
      exact ⟨le, item?_of_same counted (same k m reached) le⟩
    refine ⟨found, fun n => ?_⟩
    rw [law]
    constructor
    · rintro @⟨k, _, reached, outside⟩
      have le := (found k n reached).1
      rcases Nat.lt_or_eq_of_le le with inside | rfl
      · rw [(found k n reached).2, if_pos inside] at outside
        have size : loop.count = (start.host.heap.items loop.list).size := counted
        have beyond := Array.getElem?_eq_none_iff.mp outside
        exact absurd beyond (by split <;> omega)
      · exact reached
    · intro reached
      refine .done reached ?_
      rw [(found _ n reached).2, if_neg (Nat.lt_irrefl _)]

end Law

end Loop

namespace Render

variable {setting : Setting} {owner : Template} {var : String} {expr : Expr} {reversed : Bool}
  {body otherwise : List Node} {m start : Machine} {value : Value}

/-- Tasks that are the same from where they start end in the same ways. -/
theorem endsIn_congr {task task' : Task} {m' : Machine}
    (same : complete setting task m = complete setting task' m') (ending : Ending Unit) :
    task.EndsIn setting m ending ↔ task'.EndsIn setting m' ending := by
  by_cases ends : ending = .outOfFuel
  · simp [Task.EndsIn, ends]
  · rw [Task.endsIn_iff ends, Task.endsIn_iff ends, same]

/-- A loop evaluates its expression first and asks then whether the value is a list with items. -/
theorem complete_forEach (valued : evaluate setting expr m = .done value start) :
    complete setting (.nodes owner [.forEach var expr reversed body otherwise]) m =
      match value.list? with
      | some list =>
        let count := start.host.heap.count list
        if 0 < count then
          inScope (complete setting
            (.iterate owner var reversed body list (begin reversed count) 0)) start
        else complete setting (.nodes owner otherwise) start
      | none => complete setting (.nodes owner otherwise) start := by
  rw [complete_nodes_cons, complete_nodes_nil]
  simp only [isLast, Bool.false_eq_true, if_false]
  rw [bind_pure_unit, node, bind_of_done valued]
  cases value.list? with
  | none => rfl
  | some list =>
    dsimp only
    rw [bind_apply]
    unfold reads
    dsimp only
    split <;> rfl

/-- A loop whose expression gives no list or an empty one is its other part, rendered where the loop
stands. A loop over a list with items goes through the positions of that list, and looks each of
them up when its iteration begins. -/
theorem forEach_lawful (setting : Setting) (owner : Template) (var : String) (expr : Expr)
    (reversed : Bool) (body otherwise : List Node) (m start : Machine) (value : Value)
    (valued : evaluate setting expr m = .done value start)
    (named : setting.config.loopMetadata = true → var ≠ "forloop") :
    ((∀ list, value.list? = some list → start.host.heap.count list = 0) → ∀ ending,
      (Task.nodes owner [.forEach var expr reversed body otherwise]).EndsIn setting m ending ↔
        (Task.nodes owner otherwise).EndsIn setting start ending) ∧
    ∀ list, value.list? = some list → 0 < start.host.heap.count list →
      Loop.Lawful ⟨owner, var, reversed, body, list, start.host.heap.count list⟩ setting start
        ((Task.nodes owner [.forEach var expr reversed body otherwise]).EndsIn setting m) := by
  have same := @complete_forEach setting owner var expr reversed body otherwise m start value valued
  constructor
  · intro bare ending
    refine endsIn_congr ?_ ending
    rw [same]
    cases listed : value.list? with
    | none => rfl
    | some list => simp only [bare list listed, Nat.lt_irrefl, if_false]
  · intro list listed some_
    refine Loop.lawful_of_stops named rfl fun ending => ?_
    simp only [listed, some_, if_true] at same
    constructor
    · rintro ended
      exact Loop.stops_of_ended ended.1 (same ▸ (Task.endsIn_iff ended.1).mp ended)
    · intro stops
      have ended := Loop.ended_of_stops stops
      refine (Task.endsIn_iff ?_).mpr (same.trans ended)
      cases stops <;> nofun

/-- Nodes that write the item and invoke a callable. -/
def growth : List Node := [.variable ⟨.path "x" [], []⟩, .variable ⟨.path "grow" [], []⟩]

/-- A template that renders them for the items of a list. -/
def growths : Template := ⟨"growths", [.forEach "x" ⟨.path "xs" [], []⟩ false growth []], ∅⟩

/-- A host whose callable appends a text to a list of fewer than four items. -/
def growing : Setting := ⟨.stock #[.append ⟨0⟩ (.ofText "c") 4 ""], default⟩

/-- A machine with a list of two texts, to which the callable appends. -/
def grower : Machine :=
  .start ∅ ((Context.set ∅ "xs" (.ofList ⟨0⟩)).set "grow" (.ofCallable ⟨0⟩))
    ⟨#[#[.ofText "a", .ofText "b"]], #[]⟩

/-- So the loop goes on through the items that its body appends. -/
theorem forEach_lawful_growing :
    ∃ n k, (Task.nodes growths growths.nodes).EndsIn growing grower (.done () n) ∧
      n.sink.text = "abcc" ∧
      Loop.Reaches ⟨growths, "x", false, growth, ⟨0⟩, 2⟩ growing grower k n ∧
      Loop.item? ⟨growths, "x", false, growth, ⟨0⟩, 2⟩ k n = none := by
  have valued : evaluate growing ⟨.path "xs" [], []⟩ grower = .done (.ofList ⟨0⟩) grower := rfl
  have law := (forEach_lawful growing growths "x" ⟨.path "xs" [], []⟩ false growth [] grower grower
    (.ofList ⟨0⟩) valued (fun _ => by decide)).2 ⟨0⟩ rfl (by decide)
  obtain ⟨_, n, done, text⟩ : ∃ v n, run growing 20 (.nodes growths growths.nodes) grower =
      .done v n ∧ n.sink.text = "abcc" :=
    Ending.Holds.exists_done (by decide +kernel)
  have ended : (Task.nodes growths growths.nodes).EndsIn growing grower (.done () n) :=
    ⟨nofun, 20, done⟩
  obtain ⟨k, reached, outside⟩ := (law.done n).mp ended
  exact ⟨n, k, ended, text, reached, outside⟩

end Render

end TextTemplate

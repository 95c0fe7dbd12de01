import TextTemplate.Value.Heap
import TextTemplate.File.Path

/-!
# The host's callables

A callable is a function of the host: it is given its arguments, may change the heap, and answers
with a text. The journal records, in order, what a render does that its surroundings can see:
callables invoked, texts written and files created.
-/
namespace TextTemplate

/-- The functions that callables stand for. -/
structure Host where
  /-- Invoke a callable: its answer and the heap that it leaves. -/
  call : CallableRef → List Value → Heap → String × Heap

namespace Host

/-- The host without callables of its own: each answers with the empty text. -/
def silent : Host := ⟨fun _ _ heap => ("", heap)⟩

end Host

/-- An act of a render that its surroundings can see. -/
inductive Act
  /-- A callable was invoked without arguments. -/
  | called (callable : CallableRef)
  /-- A sink took a text; the level counts the files being created around it. -/
  | wrote (level : Nat) (text : String)
  /-- The text of a file was complete and was handed on to be saved under a path. -/
  | created (path : Path) (content : String)
deriving DecidableEq, Repr

/-- Acts in the order in which they happened. -/
abbrev Journal := Array Act

/-- What evaluation may change: the heap, and the journal of what happened. -/
structure HostState where
  /-- The contents of lists and records. -/
  heap : Heap
  /-- What happened so far. -/
  journal : Journal

namespace HostState

/-- Nothing on the heap and nothing done yet. -/
def empty : HostState := ⟨∅, #[]⟩

/-- Note an act. -/
def record (state : HostState) (act : Act) : HostState :=
  { state with journal := state.journal.push act }

/-- Writing an act into the journal leaves the heap alone. -/
@[simp] theorem heap_record (state : HostState) (act : Act) :
    (state.record act).heap = state.heap := rfl

/-- An act is written at the end of the journal. -/
@[simp] theorem journal_record (state : HostState) (act : Act) :
    (state.record act).journal = state.journal.push act := rfl

end HostState

namespace Value

/-- Invoke a value: a callable answers with a text, every other value with the empty text. -/
def call (v : Value) (host : Host) (args : List Value) (heap : Heap) : String × Heap :=
  match v.payload with
  | .callable ref => host.call ref args heap
  | _ => ("", heap)

/-- Replace a callable by the text it answers with when it is invoked without arguments. -/
def settle (v : Value) (host : Host) (state : HostState) : Value × HostState :=
  match v.payload with
  | .callable ref =>
    let (answer, heap) := host.call ref [] state.heap
    (.ofText answer, { state with heap }.record (.called ref))
  | _ => (v, state)

/-- A settled value is no callable. -/
theorem kind_settle (v : Value) (host : Host) (state : HostState) :
    (v.settle host state).1.kind ≠ .function := by
  obtain ⟨payload, raw⟩ := v
  cases payload <;> simp [settle, kind, ofText]

end Value

end TextTemplate

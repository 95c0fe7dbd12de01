import TextTemplate.Value.Heap
import TextTemplate.Escaping
import TextTemplate.File.Path

/-!
# Contexts

A context is a stack of scopes with two settings, the output directory and the escaper. A name is
looked up from the innermost scope outwards and bound in the innermost scope. There is always at
least one scope: the base scope cannot be closed.
-/
namespace TextTemplate

/-- The bindings of one scope. -/
abbrev Scope := Table String Value

/-- Scopes, innermost first, and the settings of output. -/
structure Context where
  /-- The innermost scope. -/
  top : Scope
  /-- The scopes around it, innermost first; the last of them is the base scope. -/
  outer : List Scope
  /-- Where created files go. -/
  outputDir : Option Path
  /-- What is done to the text of a value before it is written. -/
  escaper : Option Escaper

/-- What may go wrong with scopes. -/
inductive ScopeError
  /-- Only the base scope is left, which cannot be closed. -/
  | baseScope
deriving DecidableEq, Repr

namespace ScopeError

/-- What a user is told. -/
def message : ScopeError → String
  | .baseScope => "cannot pop the base scope of a template context"

end ScopeError

namespace Context

/-- A context with an empty base scope and no settings. -/
def empty : Context := ⟨∅, [], none, none⟩

instance : EmptyCollection Context := ⟨empty⟩

instance : Inhabited Context := ⟨empty⟩

/-- All scopes, innermost first. -/
def scopes (context : Context) : List Scope := context.top :: context.outer

/-- The number of scopes, the base scope included. -/
def depth (context : Context) : Nat := context.scopes.length

/-- Open a scope. -/
def push (context : Context) : Context :=
  { context with top := ∅, outer := context.scopes }

/-- Close the innermost scope. -/
def pop (context : Context) : Except ScopeError Context :=
  match context.outer with
  | [] => .error .baseScope
  | top :: outer => .ok { context with top, outer }

/-- Bind a name in the innermost scope. -/
def set (context : Context) (name : String) (v : Value) : Context :=
  { context with top := context.top.insert name v }

/-- The innermost binding of a name. -/
def get? (context : Context) (name : String) : Option Value :=
  context.scopes.findSome? (·.get? name)

/-- The innermost binding of a name, or the absent value. -/
def get (context : Context) (name : String) : Value := (context.get? name).getD .absent

/-- What a name means has a property that all bindings of the name have, and the absent value. -/
theorem get_of_forall {P : Value → Prop} {context : Context} {name : String} (absent : P .absent)
    (holds : ∀ scope ∈ context.scopes, ∀ v, scope.get? name = some v → P v) :
    P (context.get name) := by
  unfold get
  cases bound : context.get? name with
  | none => exact absent
  | some v =>
    obtain ⟨scope, member, found⟩ := List.exists_of_findSome?_eq_some bound
    exact holds scope member v found

/-- Opening a scope adds one to the depth. -/
@[simp] theorem depth_push (context : Context) : context.push.depth = context.depth + 1 := rfl

/-- Binding a name opens no scope. -/
@[simp] theorem depth_set (context : Context) (name : String) (v : Value) :
    (context.set name v).depth = context.depth := rfl

/-- A name that was just bound has the new value; every other name keeps its own. -/
theorem get?_set (context : Context) (name other : String) (v : Value) :
    (context.set name v).get? other = if name = other then some v else context.get? other := by
  by_cases same : name = other <;> simp [get?, scopes, set, List.findSome?_cons, same]

/-- An empty scope hides nothing. -/
@[simp] theorem get?_push (context : Context) (name : String) :
    context.push.get? name = context.get? name := by
  simp [get?, push, scopes, List.findSome?_cons]

end Context

end TextTemplate

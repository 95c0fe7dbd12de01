import TextTemplate.Value.Host
import TextTemplate.Context
import TextTemplate.Template.Expr

/-!
# Evaluation of expressions

A path starts with a name of the context and goes on through fields of records and positions in
lists; a callable met on the way is replaced by the text that it answers with. A path that leads
nowhere is absent. Filters then apply from left to right. Main statement: no expression has a
callable as its value.
-/
namespace TextTemplate

namespace Value

/-- What a field of a path finds in a value: none if the value has no parts, absent if it has no
such part. -/
def part? (v : Value) (field : String) (heap : Heap) : Option Value :=
  match v.payload with
  | .record ref => some (heap.field ref field)
  | .loop info => some (info.field field)
  | .list ref =>
    some (match Text.natOfDigits? field.toList with
      | some position => heap.item ref position
      | none => .absent)
  | _ => none

/-- Follow the fields of a path, up to the first that cannot be looked up. -/
def follow (host : Host) : List String → Value → HostState → Value × HostState
  | [], v, state => (v, state)
  | field :: fields, v, state =>
    match v.part? field state.heap with
    | none => (.absent, state)
    | some part =>
      let (settled, state) := part.settle host state
      follow host fields settled state

/-- Whether `default` replaces a value. -/
def isBlank (v : Value) : Bool :=
  match v.payload with
  | .absent => true
  | .text s => s.isEmpty
  | _ => false

end Value

namespace Filter

/-- Apply a filter to a value. -/
def apply (heap : Heap) (v : Value) : Filter → Value
  | .default fallback => if v.isBlank then fallback.value else v
  | .length =>
    match v.payload with
    | .list ref => .ofCount (heap.count ref)
    | .text s => .ofCount s.length
    | _ => .ofWhole 0
  | .add term =>
    match v.asWhole?, term.value.asWhole? with
    | some a, some b => .ofWhole (Text.saturate (a.toInt + b.toInt))
    | _, _ => (Value.ofText (v.text ++ term.value.text)).withRaw v.raw

/-- A filter makes no callable of what is none. -/
theorem kind_apply (heap : Heap) {v : Value} (settled : v.kind ≠ .function) (f : Filter) :
    (f.apply heap v).kind ≠ .function := by
  cases f with
  | default fallback =>
    simp only [apply]
    split
    · cases fallback <;>
        simp [Literal.value, Value.kind, Value.ofText, Value.ofWhole, Value.withRaw]
    · exact settled
  | length =>
    simp only [apply]
    split <;> simp [Value.kind, Value.ofCount, Value.ofWhole]
  | add term =>
    simp only [apply]
    split <;> simp [Value.kind, Value.ofWhole, Value.ofText, Value.withRaw]

end Filter

namespace Operand

/-- The value of an operand. -/
def eval (host : Host) (context : Context) (state : HostState) : Operand → Value × HostState
  | .literal l => (l.value, state)
  | .path name fields =>
    let (first, state) := (context.get name).settle host state
    first.follow host fields state

end Operand

namespace Expr

/-- The value of an expression, and the host's state after the callables that were met. -/
def eval (host : Host) (context : Context) (expr : Expr) (state : HostState) : Value × HostState :=
  let (v, state) := expr.operand.eval host context state
  (expr.filters.foldl (fun v f => f.apply state.heap v) v, state)

end Expr

/-- Following fields from a value that is no callable ends in none. -/
theorem Value.kind_follow (host : Host) (fields : List String) {v : Value} (state : HostState)
    (settled : v.kind ≠ .function) : (v.follow host fields state).1.kind ≠ .function := by
  induction fields generalizing v state with
  | nil => exact settled
  | cons field fields ih =>
    simp only [Value.follow]
    split
    · simp [Value.kind, Value.absent]
    · exact ih _ (Value.kind_settle _ host state)

/-- No operand has a callable as its value. -/
theorem Operand.kind_eval (host : Host) (context : Context) (state : HostState)
    (operand : Operand) : (operand.eval host context state).1.kind ≠ .function := by
  cases operand with
  | literal l =>
    cases l <;> simp [Operand.eval, Literal.value, Value.kind, Value.ofText, Value.ofWhole,
      Value.withRaw]
  | path name fields => exact Value.kind_follow host fields _ (Value.kind_settle _ host state)

end TextTemplate

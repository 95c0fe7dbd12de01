import TextTemplate.Text.Digit
import TextTemplate.Text.Blank
import TextTemplate.Table

/-!
# Values

A template value holds one payload out of a closed set of kinds and a flag that says whether its
text is written as it stands (`raw`). Lists and records are shared: a value holds a reference to
one, and the heap holds its contents. No reading of a value fails; a representation that its kind
does not carry is the absent value, zero or the empty text.
-/
namespace TextTemplate

/-- A list of the heap. -/
structure ListRef where
  /-- Its place in the heap. -/
  index : Nat
deriving DecidableEq, Repr

/-- A record of the heap. -/
structure RecordRef where
  /-- Its place in the heap. -/
  index : Nat
deriving DecidableEq, Repr

/-- A callable of the host. -/
structure CallableRef where
  /-- Its number with the host. -/
  index : Nat
deriving DecidableEq, Repr

/-- Where a loop stands: the iteration, counted from zero, and the length of the list. -/
structure LoopInfo where
  /-- Iterations finished before this one. -/
  index : Nat
  /-- Length of the list when this iteration began. -/
  total : Nat
deriving DecidableEq, Repr

/-- What a value holds. -/
inductive Payload
  | absent
  | bool (b : Bool)
  | whole (n : Int64)
  | text (s : String)
  | record (ref : RecordRef)
  | loop (info : LoopInfo)
  | list (ref : ListRef)
  | callable (ref : CallableRef)
deriving DecidableEq

/-- A payload and whether its text escapes the escaper. -/
structure Value where
  /-- What the value holds. -/
  payload : Payload
  /-- Whether its text is written as it stands. -/
  raw : Bool
deriving DecidableEq

/-- The kinds of values. -/
inductive Kind
  | none | bool | integer | string | struct | list | function
deriving DecidableEq, Repr

namespace Kind

/-- The name of a kind. -/
def name : Kind → String
  | .none => "none"
  | .bool => "bool"
  | .integer => "integer"
  | .string => "string"
  | .struct => "struct"
  | .list => "list"
  | .function => "function"

end Kind

namespace Value

/-- The value of a name that is bound nowhere. -/
def absent : Value := ⟨.absent, false⟩

instance : Inhabited Value := ⟨absent⟩

/-- A truth value. -/
def ofBool (b : Bool) : Value := ⟨.bool b, false⟩

/-- A whole number. -/
def ofWhole (n : Int64) : Value := ⟨.whole n, false⟩

/-- A count; one beyond the whole numbers becomes the greatest of them. -/
def ofCount (n : Nat) : Value := ofWhole (Text.saturate n)

/-- A text. -/
def ofText (s : String) : Value := ⟨.text s, false⟩

/-- A reference to a list. -/
def ofList (ref : ListRef) : Value := ⟨.list ref, false⟩

/-- A reference to a record. -/
def ofRecord (ref : RecordRef) : Value := ⟨.record ref, false⟩

/-- A reference to a callable. -/
def ofCallable (ref : CallableRef) : Value := ⟨.callable ref, false⟩

/-- The standing of a loop. -/
def ofLoop (info : LoopInfo) : Value := ⟨.loop info, false⟩

/-- The same value with the given flag. -/
def withRaw (v : Value) (raw : Bool) : Value := { v with raw }

/-- The kind of what a value holds. -/
def kind (v : Value) : Kind :=
  match v.payload with
  | .absent => .none
  | .bool _ => .bool
  | .whole _ => .integer
  | .text _ => .string
  | .record _ | .loop _ => .struct
  | .list _ => .list
  | .callable _ => .function

/-- Whether a value holds anything. -/
def isPresent (v : Value) : Bool := v.payload != .absent

/-- The number that a value stands for: a truth value is 0 or 1, a text is read, all else is 0. -/
def toWhole (v : Value) : Int64 :=
  match v.payload with
  | .bool b => if b then 1 else 0
  | .whole n => n
  | .text s => (Text.readWhole (Text.trim s.toList)).getD 0
  | _ => 0

/-- The number of a whole number, or of a text that reads as one. -/
def asWhole? (v : Value) : Option Int64 :=
  match v.payload with
  | .whole n => some n
  | .text s => Text.readWhole (Text.trim s.toList)
  | _ => none

/-- The text that a text value holds. -/
def asText? (v : Value) : Option String :=
  match v.payload with
  | .text s => some s
  | _ => none

/-- The list that a value refers to. -/
def list? (v : Value) : Option ListRef :=
  match v.payload with
  | .list ref => some ref
  | _ => none

/-- The text written for a value. Structures, lists, callables and the absent value write none. -/
def text (v : Value) : String :=
  match v.payload with
  | .bool b => if b then "true" else "false"
  | .whole n => Text.writeWhole n
  | .text s => s
  | _ => ""

/-- Equality as templates' hosts see it: scalars by what they hold, lists and structures by
identity. Callables and absent values equal nothing, and the raw flag does not count. -/
def same (v w : Value) : Bool :=
  match v.payload, w.payload with
  | .absent, _ | .callable _, _ => false
  | p, q => p == q

/-- The absent value is written as nothing. -/
@[simp] theorem text_absent : absent.text = "" := rfl

/-- A text is written as it is. -/
@[simp] theorem text_ofText (s : String) : (ofText s).text = s := rfl

/-- The flag does not change what a value holds. -/
@[simp] theorem payload_withRaw (v : Value) (raw : Bool) :
    (v.withRaw raw).payload = v.payload := rfl

/-- The flag does not change how a value is written. -/
@[simp] theorem text_withRaw (v : Value) (raw : Bool) : (v.withRaw raw).text = v.text := rfl

end Value

namespace LoopInfo

/-- A field of the standing of a loop. The countdowns stop at zero, as the list may have shrunk. -/
def field (info : LoopInfo) (name : String) : Value :=
  match name with
  | "counter" => .ofCount (info.index + 1)
  | "counter0" => .ofCount info.index
  | "revcounter" => .ofCount (info.total - info.index)
  | "revcounter0" => .ofCount (info.total - (info.index + 1))
  | "first" => .ofBool (info.index == 0)
  | "last" => .ofBool (info.total ≤ info.index + 1)
  | _ => .absent

end LoopInfo

end TextTemplate

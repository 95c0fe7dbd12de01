import TextTemplate.Context
import TextTemplate.Text.Quoted

/-!
# Descriptions

The forms in which values and contexts are shown to a programmer. A description never follows a
reference into a list or record, so it always ends.
-/
namespace TextTemplate

/-- Items between brackets, separated by commas. -/
def bracketed (opening closing : String) (items : List String) : String :=
  opening ++ ", ".intercalate items ++ closing

/-- A truth value as it is shown. -/
def boolText (b : Bool) : String := if b then "true" else "false"

namespace Value

/-- A value as it is shown. -/
def describe (v : Value) (heap : Heap) : String :=
  let held := match v.payload with
    | .absent => "None"
    | .bool b => s!"Bool({boolText b})"
    | .whole n => s!"Integer({Text.writeWhole n})"
    | .text s => s!"String({Text.quoted s})"
    | .record _ | .loop _ => "Struct(..)"
    | .list ref => s!"List(count={heap.count ref})"
    | .callable _ => "Function(..)"
  if v.raw then held ++ " [raw]" else held

end Value

namespace Context

/-- A scope as it is shown. -/
def describeScope (heap : Heap) (scope : Scope) : String :=
  bracketed "\x7b" "\x7d" <| scope.entries.map fun (name, v) =>
    Text.quoted name ++ ": " ++ v.describe heap

/-- A context as it is shown, base scope first. -/
def describe (context : Context) (heap : Heap) : String :=
  let scopes := bracketed "[" "]" (context.scopes.reverse.map (describeScope heap))
  let outputDir := match context.outputDir with
    | none => "None"
    | some dir => s!"Some({Text.quoted dir.text})"
  let escaper := boolText context.escaper.isSome
  s!"Context \x7b scopes: {scopes}, output_dir: {outputDir}, escaper: {escaper} \x7d"

end Context

end TextTemplate

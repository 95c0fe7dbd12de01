import TextTemplate.Data.Document
import TextTemplate.Engine.Config
import TextTemplate.File.Tree

/-!
# Data files

A data file holds an object whose fields become bindings of a context. Its format is told by the
ending of its name. Binding a field hides an earlier binding of the same name, so of several files
the last one counts. How a text is read is up to the `JsonLibrary` and the `YamlLibrary`, of which
nothing is assumed.
-/
namespace TextTemplate

/-- What reads YAML texts: documents, and configurations with defaults for what they do not name. -/
class YamlLibrary where
  /-- The document of a text, or what is wrong with the text. -/
  read : String → Except String Document
  /-- The configuration of a text, or what is wrong with the text. -/
  readConfig : String → Except String Config

/-- The formats of data files. -/
inductive DataFormat
  | json
  | yaml
deriving DecidableEq

namespace DataFormat

/-- The format of an ending in small letters. -/
def ofExtension? : String → Option DataFormat
  | "json" => some .json
  | "yaml" => some .yaml
  | "yml" => some .yaml
  | _ => none

/-- The name of a format. -/
def name : DataFormat → String
  | .json => "JSON"
  | .yaml => "YAML"

/-- The document of a text, or what is wrong with the text. -/
def read [JsonLibrary] [YamlLibrary] : DataFormat → String → Except String Document
  | .json => JsonLibrary.read
  | .yaml => YamlLibrary.read

end DataFormat

/-- What is wrong with a data file. -/
inductive DataFault
  /-- It could not be read. -/
  | unreadable (cause : FileError)
  /-- Its text is not of its format. -/
  | malformed (format : DataFormat) (cause : String)
  /-- Its ending, in small letters, tells no format. -/
  | unknownFormat (extension : String)
  /-- Its document is no object. -/
  | notMapping
deriving DecidableEq

/-- A data file that could not be bound. -/
structure DataError where
  /-- The file. -/
  path : Path
  /-- What is wrong with it. -/
  fault : DataFault
deriving DecidableEq

namespace DataError

/-- What a user is told. -/
def message (error : DataError) : String :=
  let file := error.path.text
  match error.fault with
  | .unreadable _ => s!"cannot read data file '{file}'"
  | .malformed format _ => s!"invalid {format.name} in '{file}'"
  | .unknownFormat extension =>
    s!"unsupported data file extension '{extension}' for '{file}' (expected .json, .yaml or .yml)"
  | .notMapping => s!"data file '{file}' must contain a mapping at the top level"

end DataError

namespace DataFormat

/-- The ending of a path in small letters; only ASCII letters have a case here. -/
def extension (p : Path) : String := (p.extension?.getD "").map Char.toLower

/-- The document in a file. -/
def load [JsonLibrary] [YamlLibrary] (files : FileTree) (p : Path) : Except DataError Document :=
  match files.readText p with
  | .error cause => .error ⟨p, .unreadable cause⟩
  | .ok text =>
    match ofExtension? (extension p) with
    | none => .error ⟨p, .unknownFormat (extension p)⟩
    | some format =>
      match format.read text with
      | .ok document => .ok document
      | .error cause => .error ⟨p, .malformed format cause⟩

end DataFormat

/-- A context with the heap of its values. -/
structure Bindings where
  /-- The scopes. -/
  context : Context
  /-- The lists and records that the values refer to. -/
  heap : Heap

namespace Bindings

/-- Bind a name to a text in the innermost scope. -/
def setText (bindings : Bindings) (name text : String) : Bindings :=
  { bindings with context := bindings.context.set name (.ofText text) }

/-- Bind a name to the value of a document in the innermost scope. -/
def setDocument [JsonLibrary] (bindings : Bindings) (name : String) (document : Document) :
    Bindings :=
  let (v, heap) := document.toValue bindings.heap
  ⟨bindings.context.set name v, heap⟩

/-- Bind the fields of an object in the innermost scope. -/
def setFields [JsonLibrary] (bindings : Bindings) (fields : List (String × Document)) :
    Bindings :=
  fields.foldl (fun bindings (name, document) => bindings.setDocument name document) bindings

/-- Bind the fields of the object in a file. -/
def setFile [JsonLibrary] [YamlLibrary] (files : FileTree) (bindings : Bindings) (p : Path) :
    Except DataError Bindings := do
  match ← DataFormat.load files p with
  | .object fields => return bindings.setFields fields
  | _ => .error ⟨p, .notMapping⟩

end Bindings

end TextTemplate

import TextTemplate.Data.File
import TextTemplate.Data.Yaml.Resolution
import TextTemplate.File.Save

/-!
# Configuration files

A configuration is written as a YAML mapping from the names of settings to their values. Settings
that it does not name keep their defaults, names that it should not have are passed over, and a
setting that it names twice makes it malformed. An empty file changes nothing. With the reader of
documents this is the `YamlLibrary` of the program; a configuration is loaded with any.
-/
namespace TextTemplate

/-- A file that is no configuration. -/
structure ConfigFault where
  /-- The file. -/
  path : Path
  /-- What is wrong with its text. -/
  cause : String
deriving DecidableEq

/-- Why a configuration could not be loaded. -/
inductive ConfigError
  /-- The file could not be read. -/
  | unreadable (failure : FileFailure)
  /-- The file is no configuration. -/
  | malformed (fault : ConfigFault)
deriving DecidableEq

namespace ConfigError

/-- What a user is told. -/
def message : ConfigError → String
  | .unreadable failure => failure.message
  | .malformed fault => s!"failed to parse engine config at {fault.path.text}: {fault.cause}"

end ConfigError

namespace Config

/-- The settings that a file can name. -/
inductive Key
  | templateDir
  | outputDir
  | escape
  | loopMetadata
  | maxDepth
deriving DecidableEq

/-- The setting of a name. -/
def Key.ofName? : String → Option Key
  | "template_dir" => some .templateDir
  | "output_dir" => some .outputDir
  | "escape" => some .escape
  | "loop_metadata" => some .loopMetadata
  | "max_depth" => some .maxDepth
  | _ => none

/-- A directory, or none for a null. -/
def directory? : Yaml.Node → Option (Option Path)
  | .scalar text plain => some (if plain && Yaml.isNull text then none else some ⟨text⟩)
  | _ => none

/-- Change a setting to a value, if the value is of the setting's kind. -/
def change (config : Config) (value : Yaml.Node) : Key → Option Config
  | .templateDir => do return { config with templateDir := ← directory? value }
  | .outputDir => do return { config with outputDir := ← directory? value }
  | .escape => do return { config with escape := ← EscapeMode.ofName? (← value.text?) }
  | .loopMetadata => do return { config with loopMetadata := ← Yaml.bool? (← value.plain?) }
  | .maxDepth => do return { config with maxDepth := ← Yaml.unsigned? (← value.plain?) }

/-- The settings that a mapping names, in order, with their values; no result if a key is no
scalar. -/
def named? (pairs : List (Yaml.Node × Yaml.Node)) : Option (List (Key × Yaml.Node)) := do
  let keyed ← pairs.mapM fun (key, value) => do return (Key.ofName? (← key.text?), value)
  return keyed.filterMap fun (setting, value) => setting.map (·, value)

/-- The configuration of a mapping. -/
def ofPairs? (pairs : List (Yaml.Node × Yaml.Node)) : Option Config := do
  let settings ← named? pairs
  if (settings.map (·.1)).Nodup then
    settings.foldlM (fun config (setting, value) => config.change value setting) default
  else none

/-- The configuration of a YAML text. -/
def ofText? (text : String) : Option Config := do
  match ← Yaml.Node.parse? text with
  | none => return default
  | some (.mapping pairs) => ofPairs? pairs
  | some node => if node.plain? = some "" then return default else none

/-- The configuration in a file. -/
def load [YamlLibrary] (files : FileTree) (p : Path) : Except ConfigError Config :=
  match files.readText p with
  | .error cause => .error (.unreadable ⟨p, cause⟩)
  | .ok text =>
    match YamlLibrary.readConfig text with
    | .ok config => .ok config
    | .error cause => .error (.malformed ⟨p, cause⟩)

end Config

instance : YamlLibrary where
  read text :=
    match Yaml.read text with
    | some document => .ok document
    | none => .error "not a YAML document"
  readConfig text :=
    match Config.ofText? text with
    | some config => .ok config
    | none => .error "not a configuration"

end TextTemplate

import TextTemplate.Context

/-!
# Configuration

What a program chooses about rendering. Every setting has a default, so a configuration names only
what it changes.
-/
namespace TextTemplate

/-- The settings of rendering. -/
structure Config where
  /-- The directory from which templates are read; without one, names are paths. -/
  templateDir : Option Path
  /-- The directory that created files go to. -/
  outputDir : Option Path
  /-- What is done to the text of values before it is written. -/
  escape : EscapeMode
  /-- Whether loops bind `forloop`. -/
  loopMetadata : Bool
  /-- How many templates may be rendered inside one another. -/
  maxDepth : Nat
deriving DecidableEq

namespace Config

/-- The depth that suffices for templates written by hand. -/
def defaultDepth : Nat := 64

/-- The configuration that changes nothing. -/
def default : Config := ⟨none, none, .none, false, defaultDepth⟩

instance : Inhabited Config := ⟨default⟩

/-- A context without bindings, with the configured output settings. -/
def context (config : Config) : Context :=
  { Context.empty with outputDir := config.outputDir, escaper := config.escape.escaper }

end Config

end TextTemplate

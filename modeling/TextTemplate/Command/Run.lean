import TextTemplate.Command.Arguments
import TextTemplate.Command.Check
import TextTemplate.Render.Step

/-!
# Running commands

A command is a function from the files, and the time at which it is run, to a report. Rendering goes
through stages, each of which may fail: the configuration, the bindings, the template, the render
and the output. Files that were created before a failure stay.
-/
namespace TextTemplate

namespace RenderOptions

/-- The configuration: what the file says, and what the command line says instead. -/
def applyTo (options : RenderOptions) (config : Config) : Config where
  templateDir := options.templates.orElse fun _ => config.templateDir
  outputDir := options.outputDir.orElse fun _ => config.outputDir
  escape := options.escape.getD config.escape
  loopMetadata := options.loopMetadata || config.loopMetadata
  maxDepth := config.maxDepth

/-- The configuration that the options ask for. -/
def loadConfig [YamlLibrary] (options : RenderOptions) (files : FileTree) :
    Except Trouble Config :=
  match options.config with
  | none => .ok (options.applyTo .default)
  | some p =>
    match Config.load files p with
    | .ok config => .ok (options.applyTo config)
    | .error error => .error (.ofConfigError s!"cannot load config '{p.text}'" error)

/-- What templates see: the time, the fields of the data files, and the assignments, each of which
hides what comes before it. -/
def bindings [JsonLibrary] [YamlLibrary] (options : RenderOptions) (files : FileTree)
    (now : String) (context : Context) : Except DataError Bindings := do
  let start : Bindings := ⟨context.set "generated_at" (.ofText now), ∅⟩
  let filled ← options.data.foldlM (Bindings.setFile files) start
  return options.assignments.foldl (fun bindings a => bindings.setText a.name a.text) filled

/-- Put the output where it belongs. -/
def deliver (options : RenderOptions) (files : FileTree) (output notes : String) : Report :=
  match options.out with
  | none => .success files output notes
  | some p =>
    match files.makeEnclosing p with
    | (made, some failed) =>
      .failure made (.ofFileError s!"cannot create '{failed.path.text}'" failed.cause)
    | (made, none) =>
      match made.write p output.toUTF8 with
      | .ok written => .success written "" notes
      | .error cause => .failure made (.ofFileError s!"cannot write '{p.text}'" cause)

/-- The machine in which a render of the command line starts. -/
def machine (files : FileTree) (library : Library) (bindings : Bindings) : Machine where
  host := ⟨bindings.heap, #[]⟩
  library := library
  files := files
  context := bindings.context
  sink := .unlimited 0
  active := []
  chain := []
  outcomes := #[]

/-- What is reported of a render; no report if it does not end. -/
def report? (options : RenderOptions) (name : String) : Ending Unit → Option Report
  | .done _ m => some (options.deliver m.files m.sink.text (Report.summary m.outcomes.toList))
  | .failed error m =>
    some (.failure m.files (.ofRenderError s!"failed to render '{name}'" error))
  | .outOfFuel => none

/-- Render the template of a name; no report if the fuel does not suffice. -/
def run [JsonLibrary] [YamlLibrary] (options : RenderOptions) (fuel : Nat) (now : String)
    (files : FileTree) (name : String) : Option Report :=
  match options.loadConfig files with
  | .error trouble => some (.failure files trouble)
  | .ok config =>
    match options.bindings files now config.context with
    | .error error => some (.failure files (.ofDataError error))
    | .ok bindings =>
      match Library.load ∅ config files name with
      | .error error =>
        some (.failure files (.ofRenderError s!"cannot load template '{name}'" error))
      | .ok (template, library) =>
        options.report? name
          (template.render ⟨.silent, config⟩ fuel (machine files library bindings))

end RenderOptions

namespace Command

/-- The name and version of the program. -/
def versionText : String := "stencil 0.1.0\n"

/-- How the program is used. -/
def helpText : String :=
  "Render text templates with inheritance, loops and file generation\n\n" ++
  "Usage:\n" ++
  "  stencil render <TEMPLATE> [-t DIR] [-d FILE]... [-s KEY=VALUE]... [-o DIR]\n" ++
  "                 [--escape none|html] [-c FILE] [--out FILE] [--loop-metadata]\n" ++
  "  stencil check <TEMPLATE>... [-t DIR]\n"

/-- Run a command; no report if the fuel does not suffice for a render. -/
def run [JsonLibrary] [YamlLibrary] (fuel : Nat) (now : String) (files : FileTree) :
    Command → Option Report
  | .render template options => options.run fuel now files template
  | .check names templates => some (checkTemplates files names templates)
  | .version => some (.success files versionText "")
  | .help => some (.success files helpText "")

/-- Run the program on its arguments; no report if the fuel does not suffice for a render. -/
def runArguments [JsonLibrary] [YamlLibrary] (fuel : Nat) (now : String) (files : FileTree)
    (args : List String) : Option Report :=
  match read args with
  | .ok command => command.run fuel now files
  | .error error =>
    some ⟨Report.usageStatus, "", s!"error: {error.message}\n\n" ++ helpText, files⟩

end Command

end TextTemplate

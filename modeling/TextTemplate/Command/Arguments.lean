import TextTemplate.Command.Assignment
import TextTemplate.Command.Switch
import TextTemplate.Escaping
import TextTemplate.File.Path

/-!
# Command lines

A command line asks to render one template or to check several, or for the version or help. What is
wrong with it is told by its first wrong item.
-/
namespace TextTemplate

/-- What may be chosen about rendering a template. -/
structure RenderOptions where
  /-- The directory from which templates are read. -/
  templates : Option Path
  /-- The data files, in order. -/
  data : List Path
  /-- The assignments, in order. -/
  assignments : List Assignment
  /-- The directory that created files go to. -/
  outputDir : Option Path
  /-- What is done to the text of values. -/
  escape : Option EscapeMode
  /-- The configuration file. -/
  config : Option Path
  /-- The file for the output. -/
  out : Option Path
  /-- Whether loops bind `forloop`. -/
  loopMetadata : Bool
deriving DecidableEq, Repr

/-- What a command line asks for. -/
inductive Command
  | render (template : String) (options : RenderOptions)
  | check (names : List String) (templates : Option Path)
  | version
  | help
deriving DecidableEq, Repr

namespace RenderOptions

/-- Nothing is chosen. -/
def empty : RenderOptions := ⟨none, [], [], none, none, none, none, false⟩

/-- Give a value that may be given once. -/
def once {α : Type} (switch : Switch) (v : α) : Option α → Except UsageError (Option α)
  | none => .ok (some v)
  | some _ => .error (.repeated switch)

/-- A value that is a path; it cannot be empty. -/
def path (switch : Switch) (text : String) : Except UsageError Path :=
  if text.isEmpty then .error (.badValue switch text) else .ok ⟨text⟩

/-- A value that has to be read. -/
def readable {α : Type} (switch : Switch) (text : String) : Option α → Except UsageError α
  | none => .error (.badValue switch text)
  | some v => .ok v

/-- Take a switch with its value. -/
def set (options : RenderOptions) (switch : Switch) (value : String) :
    Except UsageError RenderOptions :=
  match switch with
  | .templates => do
    return { options with templates := ← once switch (← path switch value) options.templates }
  | .data => do return { options with data := options.data ++ [← path switch value] }
  | .assignment => do
    let assignment ← readable switch value (Assignment.ofText? value)
    return { options with assignments := options.assignments ++ [assignment] }
  | .outputDir => do
    return { options with outputDir := ← once switch (← path switch value) options.outputDir }
  | .escape => do
    let mode ← readable switch value (EscapeMode.read value).toOption
    return { options with escape := ← once switch mode options.escape }
  | .config => do
    return { options with config := ← once switch (← path switch value) options.config }
  | .out => do return { options with out := ← once switch (← path switch value) options.out }
  | .loopMetadata | .verbose | .help | .version => .error (.needlessValue switch)

/-- Take a switch without a value. -/
def turn (options : RenderOptions) (switch : Switch) : Except UsageError RenderOptions :=
  match switch with
  | .loopMetadata =>
    if options.loopMetadata then .error (.repeated switch)
    else .ok { options with loopMetadata := true }
  | _ => .ok options

end RenderOptions

namespace Command

/-- The switches that stand before a command. -/
def generalSwitches : List Switch := [.verbose, .help, .version]

/-- The switches of `render`. -/
def renderSwitches : List Switch :=
  [.templates, .data, .assignment, .outputDir, .escape, .config, .out, .loopMetadata, .verbose,
    .help]

/-- The switches of `check`. -/
def checkSwitches : List Switch := [.templates, .verbose, .help]

/-- The command `render` with the given template and options and with further items. -/
def ofRenderItems (template : Option String) (options : RenderOptions) :
    List Item → Except UsageError Command
  | [] =>
    match template with
    | some template => .ok (.render template options)
    | none => .error .missingOperand
  | .flag .help :: _ => .ok .help
  | .flag switch :: rest => do ofRenderItems template (← options.turn switch) rest
  | .setting switch value :: rest => do
    ofRenderItems template (← options.set switch value) rest
  | .operand text :: rest =>
    match template with
    | none => ofRenderItems (some text) options rest
    | some _ => .error (.extraOperand text)
  | .wrong error :: _ => .error error

/-- The command `check` with the given names and directory and with further items. -/
def ofCheckItems (names : List String) (templates : Option Path) :
    List Item → Except UsageError Command
  | [] => if names.isEmpty then .error .missingOperand else .ok (.check names templates)
  | .flag .help :: _ => .ok .help
  | .flag _ :: rest => ofCheckItems names templates rest
  | .setting switch value :: rest => do
    let dir ← RenderOptions.path switch value
    ofCheckItems names (← RenderOptions.once switch dir templates) rest
  | .operand text :: rest => ofCheckItems (names ++ [text]) templates rest
  | .wrong error :: _ => .error error

/-- What items before a command ask for, if they ask for anything. -/
def ofGeneralItems : List Item → Except UsageError (Option Command)
  | [] => .ok none
  | .flag .help :: _ => .ok (some .help)
  | .flag .version :: _ => .ok (some .version)
  | .flag _ :: rest | .setting _ _ :: rest => ofGeneralItems rest
  | .operand text :: _ => .error (.unknownCommand text)
  | .wrong error :: _ => .error error

/-- What a call for help is about: nothing or one command. -/
def ofHelpTopics : List String → Except UsageError Command
  | [] | ["render"] | ["check"] | ["help"] => .ok .help
  | topic :: _ => .error (.unknownCommand topic)

/-- Read the arguments of the program. -/
def read : List String → Except UsageError Command
  | [] => .error .noCommand
  | "render" :: rest => ofRenderItems none .empty (Item.ofArguments renderSwitches rest)
  | "check" :: rest => ofCheckItems [] none (Item.ofArguments checkSwitches rest)
  | "help" :: topics => ofHelpTopics topics
  | "--" :: _ => .error .noCommand
  | arg :: rest => do
    match ← ofGeneralItems (Item.ofArgument generalSwitches arg).items with
    | some command => return command
    | none => read rest

end Command

end TextTemplate

import TextTemplate.Text.Cut

/-!
# Switches

The arguments of a command are cut into items: switches, with or without a value, and operands. A
value stands in the argument of its switch (`-tDIR`, `-t=DIR`, `--templates=DIR`) or is the argument
after it, unless that looks like a switch itself. After `--` every argument is an operand.
-/
namespace TextTemplate

/-- What can be asked of a command. -/
inductive Switch
  | templates
  | data
  | assignment
  | outputDir
  | escape
  | config
  | out
  | loopMetadata
  | verbose
  | help
  | version
deriving DecidableEq, Repr

namespace Switch

/-- The name of a switch, which is written after two dashes. -/
def name : Switch → String
  | .templates => "templates"
  | .data => "data"
  | .assignment => "set"
  | .outputDir => "output-dir"
  | .escape => "escape"
  | .config => "config"
  | .out => "out"
  | .loopMetadata => "loop-metadata"
  | .verbose => "verbose"
  | .help => "help"
  | .version => "version"

/-- The letter of a switch, which is written after one dash, if it has one. -/
def letter? : Switch → Option Char
  | .templates => some 't'
  | .data => some 'd'
  | .assignment => some 's'
  | .outputDir => some 'o'
  | .config => some 'c'
  | .verbose => some 'v'
  | .help => some 'h'
  | .version => some 'V'
  | .escape | .out | .loopMetadata => none

/-- Whether a switch has a value. -/
def takesValue : Switch → Bool
  | .templates | .data | .assignment | .outputDir | .escape | .config | .out => true
  | .loopMetadata | .verbose | .help | .version => false

end Switch

/-- What is wrong with a command line. -/
inductive UsageError
  | noCommand
  | unknownCommand (text : String)
  | unknownSwitch (text : String)
  /-- A switch without a value was given one. -/
  | needlessValue (switch : Switch)
  | missingValue (switch : Switch)
  | badValue (switch : Switch) (value : String)
  /-- A switch that can be given once was given again. -/
  | repeated (switch : Switch)
  | missingOperand
  | extraOperand (text : String)
deriving DecidableEq, Repr

namespace UsageError

/-- What a user is told. -/
def message : UsageError → String
  | .noCommand => "a command is required: render or check"
  | .unknownCommand text => s!"unrecognized command '{text}'"
  | .unknownSwitch text => s!"unexpected argument '{text}'"
  | .needlessValue switch => s!"'--{switch.name}' takes no value"
  | .missingValue switch => s!"'--{switch.name}' needs a value"
  | .badValue switch value => s!"invalid value '{value}' for '--{switch.name}'"
  | .repeated switch => s!"'--{switch.name}' cannot be used multiple times"
  | .missingOperand => "a template is required"
  | .extraOperand text => s!"unexpected argument '{text}'"

end UsageError

/-- A piece of a command line. -/
inductive Item
  | flag (switch : Switch)
  | setting (switch : Switch) (value : String)
  | operand (text : String)
  /-- An argument that is no other piece; the command line is wrong from here on. -/
  | wrong (error : UsageError)
deriving DecidableEq, Repr

namespace Item

/-- The items of an argument, and the switch whose value must be the next argument. -/
structure Cut where
  /-- The items that the argument gives by itself. -/
  items : List Item
  /-- The switch that waits for its value. -/
  waiting : Option Switch

/-- The items of letters after one dash. All but the last switch must have no value. -/
def ofLetters (known : List Switch) : List Char → Cut
  | [] => ⟨[], none⟩
  | c :: rest =>
    match known.find? (·.letter? == some c) with
    | none => ⟨[.wrong (.unknownSwitch (String.ofList ['-', c]))], none⟩
    | some switch =>
      if switch.takesValue then
        match rest with
        | [] => ⟨[], some switch⟩
        | '=' :: value => ⟨[.setting switch (String.ofList value)], none⟩
        | value => ⟨[.setting switch (String.ofList value)], none⟩
      else
        let after := ofLetters known rest
        ⟨.flag switch :: after.items, after.waiting⟩

/-- The items of a name after two dashes, to which a value may be attached. -/
def ofName (known : List Switch) (name : List Char) (value : Option (List Char)) : Cut :=
  match known.find? (·.name == String.ofList name), value with
  | none, _ => ⟨[.wrong (.unknownSwitch (String.ofList ('-' :: '-' :: name)))], none⟩
  | some switch, some value =>
    if switch.takesValue then ⟨[.setting switch (String.ofList value)], none⟩
    else ⟨[.wrong (.needlessValue switch)], none⟩
  | some switch, none => if switch.takesValue then ⟨[], some switch⟩ else ⟨[.flag switch], none⟩

/-- The items of an argument other than `--`; a dash alone is an operand. -/
def ofArgument (known : List Switch) (arg : String) : Cut :=
  match arg.toList with
  | '-' :: '-' :: long =>
    match Text.cutAt '=' long with
    | some (name, value) => ofName known name (some value)
    | none => ofName known long none
  | '-' :: c :: letters => ofLetters known (c :: letters)
  | _ => ⟨[.operand arg], none⟩

/-- Whether an argument looks like a switch. -/
def looksLikeSwitch (arg : String) : Bool :=
  match arg.toList with
  | '-' :: _ :: _ => true
  | _ => false

/-- The items of arguments, some of which may be known switches. -/
def ofArguments (known : List Switch) : List String → List Item
  | [] => []
  | arg :: rest =>
    if arg = "--" then rest.map .operand
    else
      let cut := ofArgument known arg
      match cut.waiting with
      | none => cut.items ++ ofArguments known rest
      | some switch =>
        match rest with
        | [] => cut.items ++ [.wrong (.missingValue switch)]
        | value :: rest =>
          if looksLikeSwitch value then cut.items ++ [.wrong (.missingValue switch)]
          else cut.items ++ .setting switch value :: ofArguments known rest

end Item

end TextTemplate

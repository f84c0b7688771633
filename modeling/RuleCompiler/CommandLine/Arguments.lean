import RuleCompiler.Text.Piece

/-!
Reading the arguments of the command line. They are read from left to right, and the first one that
asks for help or cannot be used decides. After `--` every argument is an operand.
-/

namespace RuleCompiler.CommandLine

structure CompileArguments where
  files : List String := []
  destinations : List String := []
  config : Option String := none
  root : Option String := none
  deriving DecidableEq, Repr

inductive Command where
  | providers
  | compile (arguments : CompileArguments)
  | check (sdk : String)
  deriving DecidableEq, Repr

inductive Topic where
  | commands
  | providers
  | compile
  | check
  | help
  deriving DecidableEq, Repr

inductive Invocation where
  | run (command : Command)
  | help (topic : Topic)
  | version
  deriving DecidableEq, Repr

inductive UsageError where
  | noCommand
  | unknownCommand (name : String)
  | unexpected (argument : String)
  | missingValue (option : String)
  | emptyValue (argument : String)
  | repeated (option : String)
  | missing (argument : String)
  deriving DecidableEq, Repr

namespace UsageError

def message : UsageError → String
  | .noCommand => "a command is required"
  | .unknownCommand name => "unrecognized subcommand '" ++ name ++ "'"
  | .unexpected argument => "unexpected argument '" ++ argument ++ "' found"
  | .missingValue option => "a value is required for '" ++ option ++ "' but none was supplied"
  | .emptyValue argument => "a value is required for '" ++ argument ++ "' but none was supplied"
  | .repeated option => "the argument '" ++ option ++ "' cannot be used multiple times"
  | .missing argument => "the required argument '" ++ argument ++ "' was not provided"

end UsageError

/-- An option that takes a value. -/
structure OptionName where
  long : String
  short : Option Char := none
  deriving DecidableEq, Repr

namespace OptionName

def destination : OptionName := ⟨"destination", some 'd'⟩

def config : OptionName := ⟨"config", some 'c'⟩

def root : OptionName := ⟨"root", some 'r'⟩

def sdk : OptionName := ⟨"sdk", none⟩

def text (option : OptionName) : String :=
  "--" ++ option.long

end OptionName

inductive Item where
  | help
  | option (name : OptionName) (value : String)
  | operand (text : String)
  deriving DecidableEq, Repr

/-- What an argument that starts with a dash says. -/
inductive Dashed where
  | help
  /-- An option with its value in the same argument. -/
  | attached (name : OptionName) (value : String)
  /-- An option whose value is the next argument. -/
  | pending (name : OptionName)
  deriving DecidableEq, Repr

/-- An argument that starts with two dashes, given without them. -/
def readLong (options : List OptionName) (body : List Char) : Option Dashed :=
  let (name, value) := match Text.cutAt '=' body with
    | some (name, value) => (String.ofList name, some (String.ofList value))
    | none => (String.ofList body, none)
  if name = "help" then
    if value.isNone then some .help else none
  else
    (options.find? fun option => option.long == name).map fun option =>
      match value with
      | some value => .attached option value
      | none => .pending option

/-- An argument that starts with one dash, given without it: a letter, and its value if more
follows, with or without an equals sign. -/
def readShort (options : List OptionName) (letter : Char) (rest : List Char) : Option Dashed :=
  if letter = 'h' then some .help
  else
    (options.find? fun option => option.short == some letter).map fun option =>
      match rest with
      | [] => .pending option
      | '=' :: value => .attached option (String.ofList value)
      | value => .attached option (String.ofList value)

def readDashed (options : List OptionName) : List Char → Option Dashed
  | '-' :: '-' :: body => readLong options body
  | '-' :: letter :: rest => readShort options letter rest
  | _ => none

/-- A single dash is a value like any other. -/
def isDashed (argument : String) : Bool :=
  match argument.toList with
  | '-' :: _ :: _ => true
  | _ => false

/-- The items of a command's arguments. Nothing is read after a question for help. -/
def readItems (options : List OptionName) : (arguments : List String) →
    Except UsageError (List Item)
  | [] => .ok []
  | argument :: rest =>
      if argument = "--" then .ok (rest.map Item.operand)
      else if !isDashed argument then
        (readItems options rest).map (Item.operand argument :: ·)
      else
        match readDashed options argument.toList, rest with
        | none, _ => .error (.unexpected argument)
        | some .help, _ => .ok [.help]
        | some (.attached option value), rest =>
            (readItems options rest).map (Item.option option value :: ·)
        | some (.pending option), [] => .error (.missingValue option.text)
        | some (.pending option), value :: rest =>
            if isDashed value then .error (.missingValue option.text)
            else (readItems options rest).map (Item.option option value :: ·)

def nonEmpty (argument value : String) : Except UsageError String :=
  if value = "" then .error (.emptyValue argument) else .ok value

def once (option : OptionName) (given : Option String) (value : String) :
    Except UsageError (Option String) :=
  match given with
  | some _ => .error (.repeated option.text)
  | none => .ok (some value)

/-- Use items one after the other; none when help is asked for. -/
def useItems {α : Type} (use : α → Item → Except UsageError α) (state : α) :
    (items : List Item) → Except UsageError (Option α)
  | [] => .ok (some state)
  | .help :: _ => .ok none
  | item :: items => do useItems use (← use state item) items

def filesName : String := "<FILES>..."

def useCompileItem (arguments : CompileArguments) : Item → Except UsageError CompileArguments
  | .operand file => do
      return { arguments with files := arguments.files ++ [← nonEmpty filesName file] }
  | .option name value =>
      if name = .destination then
        .ok { arguments with destinations := arguments.destinations ++ [value] }
      else if name = .config then do
        let config ← once name arguments.config (← nonEmpty name.text value)
        return { arguments with config }
      else do
        let root ← once name arguments.root (← nonEmpty name.text value)
        return { arguments with root }
  | .help => .ok arguments

def useCheckItem (sdk : Option String) : Item → Except UsageError (Option String)
  | .operand text => .error (.unexpected text)
  | .option name value => once name sdk value
  | .help => .ok sdk

def useNoItem (_ : Unit) : Item → Except UsageError Unit
  | .operand text => .error (.unexpected text)
  | _ => .ok ()

def readProviders (arguments : List String) : Except UsageError Invocation := do
  match ← useItems useNoItem () (← readItems [] arguments) with
  | none => return .help .providers
  | some () => return .run .providers

def compileOptions : List OptionName :=
  [.destination, .config, .root]

def readCompile (arguments : List String) : Except UsageError Invocation := do
  let items ← readItems compileOptions arguments
  match ← useItems useCompileItem {} items with
  | none => return .help .compile
  | some given =>
      if given.files.isEmpty then throw (.missing filesName)
      return .run (.compile given)

def readCheck (arguments : List String) : Except UsageError Invocation := do
  match ← useItems useCheckItem none (← readItems [.sdk] arguments) with
  | none => return .help .check
  | some none => throw (.missing OptionName.sdk.text)
  | some (some sdk) => return .run (.check sdk)

def readTopic : List String → Except UsageError Invocation
  | [] => .ok (.help .commands)
  | ["providers"] => .ok (.help .providers)
  | ["compile"] => .ok (.help .compile)
  | ["check"] => .ok (.help .check)
  | ["help"] => .ok (.help .help)
  | name :: more =>
      if ["providers", "compile", "check", "help"].contains name then
        .error (.unknownCommand (more.headD ""))
      else .error (.unknownCommand name)

def readLeading (argument : String) : Except UsageError Invocation :=
  match argument.toList with
  | '-' :: 'h' :: _ => .ok (.help .commands)
  | '-' :: 'V' :: _ => .ok .version
  | '-' :: _ :: _ =>
      if argument = "--help" then .ok (.help .commands)
      else if argument = "--version" then .ok .version
      else .error (.unexpected argument)
  | _ => .error (.unknownCommand argument)

def read : List String → Except UsageError Invocation
  | [] => .error .noCommand
  | "providers" :: arguments => readProviders arguments
  | "compile" :: arguments => readCompile arguments
  | "check" :: arguments => readCheck arguments
  | "help" :: topic => readTopic topic
  | argument :: _ => readLeading argument

end RuleCompiler.CommandLine

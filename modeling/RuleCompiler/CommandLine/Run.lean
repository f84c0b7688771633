import RuleCompiler.CommandLine.Help
import RuleCompiler.Compilation.Run
import RuleCompiler.Config.Load
import RuleCompiler.Document.Markdown
import RuleCompiler.Json.Writer

/-!
The program behind the command line. Every command prints JSON; a compilation prints one report for
each file, in the order of the files, and ends with code 2 when one of them is not a success.
-/

namespace RuleCompiler.CommandLine

structure Ending where
  exitCode : Nat
  output : String := ""
  complaint : String := ""
  deriving DecidableEq, Repr

inductive FileReport where
  | unusable (file : Path) (message : String)
  | failed (failure : TotalFailure)
  | compiled (report : Report)

namespace FileReport

def success : FileReport → Bool
  | .compiled _ => true
  | _ => false

def toValue (wording : Wording) : FileReport → Value
  | .unusable file message =>
      .ofFields
        [("success", .bool false), ("sourcePath", .string file.text), ("error", .string message)]
  | .failed failure =>
      .ofFields
        [("success", .bool false),
         ("sourcePath", .string failure.source),
         ("error", .string (failure.message wording)),
         ("results", .array (failure.results.map (DestinationResult.toValue wording)))]
  | .compiled report =>
      .ofFields
        [("success", .bool true),
         ("outcome", report.outcome.toValue),
         ("report", report.toValue wording)]

end FileReport

def printed (value : Value) : String :=
  Json.indented 0 value ++ "\n"

/-! ### Providers -/

def providerValue (provider : Provider) : Value :=
  .ofFields
    [("id", .string provider.id),
     ("name", .string provider.name),
     ("defaultDestination", .string provider.defaultDestination),
     ("handshake", provider.handshake.toValue)]

def providersValue (registry : Registry) : Value :=
  .ofFields
    [("engineVersion", .string engineVersion),
     ("sdkVersion", .string registry.expectedSdk),
     ("providers", .array (registry.active.map providerValue)),
     ("rejected", .array (registry.rejected.map RejectedProvider.toValue))]

/-! ### Check -/

def compatibilityValue (sdk : String) (handshake : Handshake) : Value :=
  let findings := Handshake.incompatibilities sdk handshake
  .ofFields
    [("id", .string handshake.providerId),
     ("sdkVersion", .string handshake.sdkVersion),
     ("compatible", .bool findings.isEmpty),
     ("diagnostics", .array (findings.map Diagnostic.toValue))]

def check (sdk : String) (handshakes : List Handshake) : Ending :=
  let compatible := handshakes.all fun handshake =>
    (Handshake.incompatibilities sdk handshake).isEmpty
  { exitCode := if compatible then 0 else 2
    output := printed (.array (handshakes.map (compatibilityValue sdk))) }

/-! ### Compile -/

def readDocument (wording : Wording) (files : FileTree) (file : Path) : Except String Document :=
  match files.readText file with
  | .error cause => .error (wording.io cause)
  | .ok text =>
      match Document.ofMarkdown file text with
      | .error cause => .error (cause.message wording)
      | .ok document => .ok document

def compileFile (compiler : Compiler) (choice : DestinationChoice) (project : ProjectConfig)
    (file : Path) (run : RunStamp) : StateM Workspace FileReport := do
  match readDocument compiler.wording (← get).files file with
  | .error message => return .unusable file message
  | .ok document =>
      match ← (compiler.compile run document choice project {}).run with
      | .ok report => return .compiled report
      | .error failure => return .failed failure

/-- Compile files with one compiler, so that merged outputs hold all of them. -/
def compileFiles (compiler : Compiler) (choice : DestinationChoice) (project : ProjectConfig) :
    (files : List (Path × RunStamp)) → StateM Workspace (List FileReport)
  | [] => return []
  | (file, run) :: files => do
      let report ← compileFile compiler choice project file run
      return report :: (← compileFiles compiler choice project files)

/-- The configuration that is given, or else the project's own. -/
def projectConfig (arguments : CompileArguments) (root : Path) :
    StateM Workspace (Except ConfigError ProjectConfig) := do
  let files := (← get).files
  match arguments.config with
  | some path => return ProjectConfig.load files ⟨path⟩
  | none =>
      if let some path := ProjectConfig.find? files root then
        Workspace.say .debug ("Loading project config from " ++ path.text)
      return ProjectConfig.discover files root

def reportsEnding (wording : Wording) (reports : List FileReport) : Ending :=
  { exitCode := if reports.all FileReport.success then 0 else 2
    output := printed (.array (reports.map (FileReport.toValue wording))) }

def configEnding (wording : Wording) (cause : ConfigError) : Ending :=
  { exitCode := 1
    output := printed (.ofFields
      [("success", .bool false),
       ("error", .string ("Failed to load config: " ++ cause.message wording))]) }

/-- Compile the files that are given, each with the stamp for its place. -/
def compile (engine : TemplateEngine) (environment : Environment) (wording : Wording)
    (stamp : Nat → RunStamp) (arguments : CompileArguments) : StateM Workspace Ending := do
  let root : Path := ⟨arguments.root.getD "."⟩
  match ← projectConfig arguments root with
  | .error cause => return configEnding wording cause
  | .ok project =>
      let workingDirectory := (← get).files.workingPath
      let compiler :=
        { Compiler.forProject Registry.builtin environment workingDirectory root with
          engine
          wording }
      let choice := match arguments.destinations with
        | [] => DestinationChoice.selected
        | ids => .only ids
      let reports ← compileFiles compiler choice project
        (arguments.files.zipIdx.map fun (file, index) => (⟨file⟩, stamp index))
      return reportsEnding wording reports

/-! ### The program -/

def runCommand (engine : TemplateEngine) (environment : Environment) (wording : Wording)
    (stamp : Nat → RunStamp) : Command → StateM Workspace Ending
  | .providers => return { exitCode := 0, output := printed (providersValue Registry.builtin) }
  | .check sdk => return check sdk (Provider.builtin.map Provider.handshake)
  | .compile arguments => compile engine environment wording stamp arguments

/-- The program over a template engine. -/
def runOver (engine : TemplateEngine) (environment : Environment) (wording : Wording)
    (stamp : Nat → RunStamp) (arguments : List String) : StateM Workspace Ending :=
  match read arguments with
  | .error misuse => return { exitCode := 2, complaint := "error: " ++ misuse.message ++ "\n" }
  | .ok (.help topic) => return { exitCode := 0, output := topic.text }
  | .ok .version => return { exitCode := 0, output := versionText }
  | .ok (.run command) => runCommand engine environment wording stamp command

def run (environment : Environment) (wording : Wording) (stamp : Nat → RunStamp)
    (arguments : List String) : StateM Workspace Ending :=
  runOver .standard environment wording stamp arguments

end RuleCompiler.CommandLine

import RuleCompiler.Artifact.Persist
import RuleCompiler.Config.Destination
import RuleCompiler.Handshake
import RuleCompiler.Template.Engine

/-!
Providers: what makes the files of one destination. A provider says where an output goes and which
capabilities it needs, compiles a document into artifacts, and writes them. It may also prepare a
compilation before the body is rendered.
-/

namespace RuleCompiler

inductive ProviderError where
  | compile (findings : List Diagnostic)
  | write (cause : WriteError)
  | other (message : String)
  deriving Repr

namespace ProviderError

def message (wording : Wording) : ProviderError → String
  | .compile findings => "Compilation failed: " ++ Diagnostic.summarize findings
  | .write cause => cause.message wording
  | .other text => text

def diagnostics : ProviderError → List Diagnostic
  | .compile findings => findings
  | _ => []

end ProviderError

structure WriteRequest where
  document : CompiledDocument
  /-- The base of the output paths. -/
  destination : Path
  config : DestinationConfig
  projectRoot : Path

/-- What a provider is asked to compile: a document for a settled target. -/
structure CompileRequest where
  document : CompiledDocument
  target : Target
  config : DestinationConfig
  projectRoot : Path

/-- What a provider sees before the body is rendered. -/
structure PrepareRequest where
  document : Document
  project : ProjectConfig
  destination : DestinationConfig

structure TemplateOverrides where
  /-- Decides whether the body is rendered at all. -/
  force : Option Bool := none
  helpers : KeyedList Template.HelperFunction := []
  partials : KeyedList String := []
  strict : Option Bool := none
  noEscape : Option Bool := none

namespace TemplateOverrides

def quotedChar (c : Char) : String :=
  match c with
  | '"' => "\\\""
  | '\\' => "\\\\"
  | '\n' => "\\n"
  | '\r' => "\\r"
  | '\t' => "\\t"
  | c => String.singleton c

def quoted (text : String) : String :=
  "\"" ++ String.join (text.toList.map quotedChar) ++ "\""

def nameList (names : List String) : String :=
  "[" ++ ", ".intercalate (names.map quoted) ++ "]"

def choiceText : Option Bool → String
  | none => "None"
  | some flag => "Some(" ++ toString flag ++ ")"

/-- The overrides in words; helpers and partials are told by their names. -/
def description (overrides : TemplateOverrides) : String :=
  "TemplateOverrides \x7b force: " ++ choiceText overrides.force ++
    ", helpers: " ++ nameList overrides.helpers.keys ++
    ", partials: " ++ nameList overrides.partials.keys ++
    ", strict: " ++ choiceText overrides.strict ++
    ", no_escape: " ++ choiceText overrides.noEscape ++ " \x7d"

end TemplateOverrides

structure Preparation where
  /-- Merged over the project configuration, for this destination only. -/
  projectOverrides : Option Value := none
  template : TemplateOverrides := {}

/-- How a provider writes: every artifact it compiles, one after the other, or in a way of its
own. -/
inductive Writing where
  | artifacts (mode : WriteMode)
  | own (write : WriteRequest → Action ProviderError (List WrittenArtifact))

structure Provider where
  handshake : Handshake
  name : String
  /-- The base of the output paths, from the project root. -/
  defaultDestination : String
  outputPath : FileTree → WriteRequest → Path
  /-- The capabilities that a configuration needs. -/
  requestedCapabilities : DestinationConfig → List String
  compile : CompileRequest → Action ProviderError (List Artifact)
  writing : Writing := .artifacts .direct
  preparation : Option (PrepareRequest → Action ProviderError Preparation) := none

/-- Run an action whose failures are causes of other failures. -/
def Action.mapError {ε δ α : Type} (change : ε → δ) (action : Action ε α) : Action δ α :=
  fun workspace =>
    match action workspace with
    | (.ok value, workspace) => (.ok value, workspace)
    | (.error cause, workspace) => (.error (change cause), workspace)

namespace Provider

def id (provider : Provider) : String :=
  provider.handshake.providerId

def say (destination : String) (level : LogLevel) (message : String) : StateM Workspace Unit :=
  Workspace.tell (ProviderLog.record destination level message)

def target (provider : Provider) (files : FileTree) (request : WriteRequest) : Target :=
  { providerId := provider.id
    outputPath := provider.outputPath files request
    capabilities := provider.requestedCapabilities request.config }

/-- Refuse a target that needs a capability which is not declared; the first one is told. -/
def ensureCapabilities (handshake : Handshake) (target : Target) : Except ProviderError Unit :=
  match target.capabilities.find? fun capability => !handshake.supports capability with
  | some missing => .error (.compile [Capability.unsupported handshake.providerId missing])
  | none => .ok ()

def persistText (path : Path) (contents : String) (mode : WriteMode) :
    Action ProviderError WrittenArtifact :=
  (persist path contents mode).mapError ProviderError.write

def persistAll (destination : String) (mode : WriteMode) :
    (artifacts : List Artifact) → Action ProviderError (List WrittenArtifact)
  | [] => return []
  | artifact :: artifacts => do
      for finding in artifact.diagnostics do
        say destination .warn finding.summary
      let written ← persistText artifact.target.outputPath artifact.contents mode
      return written :: (← persistAll destination mode artifacts)

def compileAndPersist (provider : Provider) (mode : WriteMode) (request : WriteRequest) :
    Action ProviderError (List WrittenArtifact) := do
  let target := provider.target (← get).files request
  let artifacts ← provider.compile
    { document := request.document
      target
      config := request.config
      projectRoot := request.projectRoot }
  persistAll provider.id mode artifacts

def write (provider : Provider) (request : WriteRequest) :
    Action ProviderError (List WrittenArtifact) :=
  match provider.writing with
  | .artifacts mode => provider.compileAndPersist mode request
  | .own write => write request

end Provider

end RuleCompiler

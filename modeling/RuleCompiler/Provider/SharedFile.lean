import RuleCompiler.Provider.RuleFile

/-!
Providers that merge all documents into one file. Every write records the document and writes the
merged text of all documents recorded so far.
-/

namespace RuleCompiler.Provider

/-- Record a document in a collection; the merged output as it is then. -/
def collectAndMerge (target : MergedTarget) (style : CollectionStyle) (emit : Bool)
    (document : CompiledDocument) (projectRoot : Path) : StateM Workspace MergedOutput := do
  let collection ← Workspace.collect target projectRoot document.source document.content []
  return collection.merged style emit

/-! ### AGENTS.md -/

namespace AgentsMd

def handshake : Handshake :=
  Handshake.inProcess "agents-md" engineVersion
    [Capability.outputMarkdown, Capability.contentAggregate, Capability.atomicWrite]

def style : CollectionStyle :=
  { heading := some "# AGENTS.md", placeholder := "<!-- AGENTS.md output disabled -->\n" }

def emits (config : DestinationConfig) : Bool :=
  (config.bool? "emit").getD true

def outputPath (files : FileTree) (request : WriteRequest) : Path :=
  outputPathFor request "AGENTS.md" .stat files

def requested (_ : DestinationConfig) : List String :=
  [Capability.outputMarkdown, Capability.contentAggregate]

def compile (request : CompileRequest) : Action ProviderError (List Artifact) := do
  ensureCapabilities handshake request.target
  let merged ← collectAndMerge .agentsMd style (emits request.config) request.document
    request.projectRoot
  return [
    { target := request.target, contents := merged.contents, diagnostics := merged.diagnostics }]

def write (request : WriteRequest) : Action ProviderError (List WrittenArtifact) := do
  let target : Target :=
    { providerId := handshake.providerId
      outputPath := outputPath (← get).files request
      capabilities := requested request.config }
  ensureCapabilities handshake target
  let emit := emits request.config
  let merged ← collectAndMerge .agentsMd style emit request.document request.projectRoot
  say handshake.providerId .debug
    ("persisting " ++ toString merged.documents ++ " aggregated document(s) to " ++
      target.outputPath.text)
  let written ← persistText target.outputPath merged.contents .atomic
  if !emit then
    say handshake.providerId .info "emit disabled, wrote placeholder"
  return [written]

def provider : Provider where
  handshake := handshake
  name := "AGENTS.md"
  defaultDestination := "AGENTS.md"
  outputPath := outputPath
  requestedCapabilities := requested
  compile := compile
  writing := .own write

end AgentsMd

/-! ### Codex -/

namespace Codex

def handshake : Handshake :=
  Handshake.inProcess "codex" engineVersion
    [Capability.outputMarkdown, Capability.sharedFile, Capability.contentAggregate,
     Capability.atomicWrite]

def style : CollectionStyle :=
  { placeholder := "<!-- shared AGENTS.md output disabled -->\n" }

def sharesFile (config : DestinationConfig) : Bool :=
  (config.bool? "sharedAgentsFile").getD true

def outputPath (files : FileTree) (request : WriteRequest) : Path :=
  outputPathFor request (markdownName request.document) .stat files

def requested (config : DestinationConfig) : List String :=
  Capability.outputMarkdown ::
    (if sharesFile config then [Capability.sharedFile] else [])

/-- The path of the shared file: beside the directory of the rule's own file, unless `sharedPath`
gives another. -/
def sharedPath (own projectRoot : Path) (config : DestinationConfig) (files : FileTree) : Path :=
  let directory := own.parent?.getD projectRoot
  pathUnder (directory.parent?.getD directory) (config.string? "sharedPath") "AGENTS.md" .stat
    files

def compile (request : CompileRequest) : Action ProviderError (List Artifact) := do
  ensureCapabilities handshake request.target
  let own : Artifact := { target := request.target, contents := bodyText request.document }
  let shared : Target :=
    { providerId := handshake.providerId
      outputPath :=
        sharedPath request.target.outputPath request.projectRoot request.config (← get).files
      capabilities := [Capability.contentAggregate] }
  let merged ← collectAndMerge .codexShared style (sharesFile request.config) request.document
    request.projectRoot
  return [own, { target := shared, contents := merged.contents }]

def write (request : WriteRequest) : Action ProviderError (List WrittenArtifact) := do
  let target : Target :=
    { providerId := handshake.providerId
      outputPath := outputPath (← get).files request
      capabilities := requested request.config }
  ensureCapabilities handshake target
  let own ← persistText target.outputPath (bodyText request.document) .direct
  let sharedPath :=
    sharedPath target.outputPath request.projectRoot request.config (← get).files
  let shares := sharesFile request.config
  if !shares then
    say handshake.providerId .debug "sharedAgentsFile disabled, writing placeholder"
  let merged ← collectAndMerge .codexShared style shares request.document request.projectRoot
  let shared ← persistText sharedPath merged.contents .atomic
  return [own, shared]

def provider : Provider where
  handshake := handshake
  name := "Codex"
  defaultDestination := ".codex/rules"
  outputPath := outputPath
  requestedCapabilities := requested
  compile := compile
  writing := .own write

end Codex

def builtin : List Provider :=
  [Cursor.provider, Windsurf.provider, ClaudeCode.provider, Copilot.provider, Cline.provider,
   RooCode.provider, AgentsMd.provider, Codex.provider]

end RuleCompiler.Provider

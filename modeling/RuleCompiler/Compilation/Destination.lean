import RuleCompiler.Compilation.Basic

/-!
Compiling one document for one destination. The provider's preparation may override the project
configuration for this destination, ask for rendering, and contribute helpers and partials; then
the body is rendered or kept as it is, and the provider writes its files.
-/

namespace RuleCompiler

/-- What is settled for a destination before the body is rendered. -/
structure DestinationScope where
  provider : Provider
  /-- The project configuration with the overrides for this destination. -/
  project : ProjectConfig
  destination : DestinationConfig
  template : TemplateOverrides
  templating : Templating.Decision

namespace Templating.Authority

def logName : Authority → String
  | .provider => "Provider"
  | .frontmatter => "Frontmatter"
  | .project => "Project"
  | .legacyCompiler => "LegacyCompiler"
  | .standard => "Default"

end Templating.Authority

def DocumentSource.fileName (source : DocumentSource) : String :=
  (source.path.bind Path.fileName?).getD source.id

namespace Compiler

/-- What a preparation decides, over the configuration of the project. -/
def scopeOf (provider : Provider) (document : Document) (project : ProjectConfig)
    (preparation : Preparation) : DestinationScope :=
  let project := match preparation.projectOverrides with
    | some overrides => project.mergedWith overrides
    | none => project
  { provider
    project
    destination := DestinationConfig.resolve provider.id document.frontmatter project
    template := preparation.template
    templating := Templating.decide preparation.template.force document.frontmatter project }

def prepare (provider : Provider) (document : Document) (project : ProjectConfig) :
    RunAction Preparation :=
  match provider.preparation with
  | none => return {}
  | some prepare =>
      RunState.attempt (DestinationError.preparation provider.id)
        (prepare
          { document
            project
            destination := DestinationConfig.resolve provider.id document.frontmatter project })

/-- The partials that the directories hold for a document. They are discovered once in a
compilation, when a destination first needs them. -/
def ambientPartials (compiler : Compiler) (document : Document) :
    StateM RunState (KeyedList String) := do
  match (← get).ambient with
  | some known => return known
  | none =>
      let found ← RunState.act
        (compiler.partialDirectories.discover compiler.wording document.source.path)
      modify fun state => { state with ambient := some found }
      return found

/-- The partials for a destination: those of the caller or else of the directories, and over them
those of the preparation. -/
def partials (compiler : Compiler) (document : Document) (options : CompileOptions)
    (overrides : TemplateOverrides) : StateM RunState (KeyedList String) := do
  let shared ← match options.partials with
    | some given => pure given
    | none => compiler.ambientPartials document
  return overrides.partials.foldl (fun map (name, text) => map.insert name text) shared

def context (compiler : Compiler) (run : RunStamp) (document : Document)
    (scope : DestinationScope) : Value :=
  .ofFields
    [("provider", .ofFields
       [("id", .string scope.provider.id), ("name", .string scope.provider.name)]),
     ("file", .ofFields
       [("name", .string document.source.fileName),
        ("path", .ofString? (document.source.path.map Path.text)),
        ("frontmatter", document.frontmatter),
        ("metadata", document.metadata.toValue)]),
     ("project", scope.project.toValue),
     ("registry", .ofFields [("destinations", .ofStrings compiler.registry.ids)]),
     ("timestamp", .string (run.startedAt ++ "+00:00"))]

def render (compiler : Compiler) (run : RunStamp) (document : Document)
    (options : CompileOptions) (scope : DestinationScope) : RunAction String := do
  let partials ← compiler.partials document options scope.template
  RunState.attempt (DestinationError.rendering document.label scope.provider.id)
    (compiler.engine.render document.source.contents (compiler.context run document scope)
      { helpers := scope.template.helpers
        partials
        strict := scope.template.strict.getD false
        noEscape := scope.template.noEscape.getD true })

/-- The body for a destination: rendered when it is a template, else as the document has it. -/
def content (compiler : Compiler) (run : RunStamp) (document : Document)
    (options : CompileOptions) (scope : DestinationScope) : RunAction String :=
  if scope.templating.enabled then compiler.render run document options scope
  else return document.source.contents

def writeRequest (compiler : Compiler) (workingDirectory : Path) (document : Document)
    (scope : DestinationScope) (content : String) : WriteRequest :=
  { document :=
      { source := document.source
        metadata := document.metadata
        outline := document.outline
        content
        destinationId := scope.provider.id
        mergedConfig := scope.project.toValue }
    destination :=
      (compiler.projectRoot.join scope.provider.defaultDestination).absolutize workingDirectory
    config := scope.destination
    projectRoot := compiler.projectRoot }

def tellTemplating (destination : String) (decision : Templating.Decision) :
    StateM Workspace Unit :=
  Provider.say destination .debug
    ("templating " ++ (if decision.enabled then "on" else "off") ++ " (" ++
      decision.authority.logName ++ ")")

def deliver (compiler : Compiler) (run : RunStamp) (document : Document) (project : ProjectConfig)
    (options : CompileOptions) (provider : Provider) : RunAction Delivery := do
  let scope := scopeOf provider document project (← prepare provider document project)
  ExceptT.lift (RunState.act (tellTemplating provider.id scope.templating))
  let content ← compiler.content run document options scope
  let workingDirectory := (← get).workspace.files.workingPath
  let written ← RunState.attempt DestinationError.provider
    (provider.write (compiler.writeRequest workingDirectory document scope content))
  return { written, templating := scope.templating }

def compileFor (compiler : Compiler) (run : RunStamp) (document : Document)
    (project : ProjectConfig) (options : CompileOptions) (destination : String) :
    RunAction Delivery :=
  match compiler.registry.get? destination with
  | none => throw (.unknownProvider destination)
  | some provider => compiler.deliver run document project options provider

end Compiler

end RuleCompiler

import RuleCompiler.Provider.Format

/-!
Providers that write a file for each rule: as a body alone, or with a frontmatter of their own that
tells when the rule applies.
-/

namespace RuleCompiler.Provider

/-! ### Cursor -/

namespace Cursor

def handshake : Handshake :=
  Handshake.inProcess "cursor" engineVersion
    [Capability.outputMdc, Capability.outputMarkdown, Capability.frontmatterTranslate,
     Capability.ruleGlobs, Capability.templateHelpers]

/-- The extension of a file: `mdc` unless another format is asked for. -/
def extension (format : Option String) : String :=
  match format with
  | none | some "mdc" => "mdc"
  | some "markdown" | some "md" => "md"
  | some other => other

def requested (config : DestinationConfig) : List String :=
  let output := match config.format? with
    | some "xml" => Capability.outputXml
    | some "markdown" | some "md" => Capability.outputMarkdown
    | _ => Capability.outputMdc
  output :: (if (config.get? "globs").isSome then [Capability.ruleGlobs] else [])

/-- A rule without patterns always applies unless it is said otherwise. -/
def entries (config : DestinationConfig) (document : CompiledDocument) :
    List (String × Yaml.Entry) :=
  let globs := textList (setting? config document "globs")
  let always := ((setting? config document "alwaysApply").bind Value.asBool?).getD globs.isEmpty
  let description := (setting? config document "description").bind Value.asString?
  (description.map fun text => ("description", Yaml.Entry.text text)).toList ++
    (if globs.isEmpty then [] else [("globs", .text (",".intercalate globs))]) ++
    [("alwaysApply", .flag always)]

/-- The helper that writes patterns: all texts in its arguments, one after the other. -/
def globs : Template.HelperFunction := fun arguments =>
  .ok (.string (", ".intercalate (arguments.flatMap fun value => textList (some value))))

def prepare (_ : PrepareRequest) : Action ProviderError Preparation := do
  say handshake.providerId .debug "registering globs helper"
  return { template := { helpers := [("globs", globs)] } }

def provider : Provider where
  handshake := handshake
  name := "Cursor"
  defaultDestination := ".cursor/rules"
  outputPath files request :=
    outputPathFor request (ruleName request.document ++ "." ++ extension request.config.format?)
      .lexical files
  requestedCapabilities := requested
  compile request :=
    single handshake request
      (withFrontmatter (entries request.config request.document) request.document.content)
  preparation := some prepare

end Cursor

/-! ### Windsurf -/

namespace Windsurf

def handshake : Handshake :=
  Handshake.inProcess "windsurf" engineVersion
    [Capability.outputMarkdown, Capability.outputXml, Capability.frontmatterTranslate,
     Capability.ruleGlobs]

def isXml (config : DestinationConfig) : Bool :=
  config.format? = some "xml"

/-- The characters of an attribute that would end it or start markup become entities. The ampersand
comes first, since every entity brings one of its own. -/
def attributeText (text : String) : String :=
  let text := Text.replaced '&' "&amp;" text
  let text := Text.replaced '"' "&quot;" text
  let text := Text.replaced '<' "&lt;" text
  Text.replaced '>' "&gt;" text

/-- When a rule applies: as it is said, else by its patterns. -/
def trigger (config : DestinationConfig) (document : CompiledDocument) (globs : List String) :
    String :=
  match (setting? config document "trigger").bind Value.asString? with
  | some said => said
  | none => if globs.isEmpty then "always_on" else "glob"

def markdownText (trigger : String) (globs : List String) (body : String) : String :=
  withFrontmatter
    (("trigger", .text trigger) ::
      (if globs.isEmpty then [] else [("globs", .text (",".intercalate globs))]))
    body

def xmlText (trigger : String) (globs : List String) (body : String) : String :=
  let patterns :=
    if globs.isEmpty then ""
    else " globs=\"" ++ attributeText (",".intercalate globs) ++ "\""
  "<rule trigger=\"" ++ attributeText trigger ++ "\"" ++ patterns ++ ">\n" ++
    Text.trimmedEnd body ++ "\n</rule>\n"

def contents (config : DestinationConfig) (document : CompiledDocument) : String :=
  let globs := textList (setting? config document "globs")
  let trigger := trigger config document globs
  if isXml config then xmlText trigger globs document.content
  else markdownText trigger globs document.content

/-- Rendered values are escaped where the output is markup. -/
def prepare (request : PrepareRequest) : Action ProviderError Preparation := do
  if isXml request.destination then
    say handshake.providerId .debug "xml output, enabling template escaping"
    return { template := { noEscape := some false } }
  return {}

def provider : Provider where
  handshake := handshake
  name := "Windsurf"
  defaultDestination := ".windsurf/rules"
  outputPath files request :=
    outputPathFor request
      (ruleName request.document ++ (if isXml request.config then ".xml" else ".md")) .stat files
  requestedCapabilities config := [formatCapability config.format?]
  compile request := single handshake request (contents request.config request.document)
  preparation := some prepare

end Windsurf

/-! ### GitHub Copilot -/

namespace Copilot

def handshake : Handshake :=
  Handshake.inProcess "copilot" engineVersion
    [Capability.outputMarkdown, Capability.frontmatterTranslate, Capability.ruleGlobs]

/-- The files that a rule applies to: as it is said, else its patterns, else all. -/
def appliesTo (config : DestinationConfig) (document : CompiledDocument) : String :=
  match (setting? config document "applyTo").bind Value.asString? with
  | some said => said
  | none =>
      match textList (setting? config document "globs") with
      | [] => "**"
      | globs => ",".intercalate globs

def provider : Provider where
  handshake := handshake
  name := "GitHub Copilot"
  defaultDestination := ".github/instructions"
  outputPath files request :=
    outputPathFor request (ruleName request.document ++ ".instructions.md") .lexical files
  requestedCapabilities config := [formatCapability config.format?]
  compile request :=
    single handshake request
      (withFrontmatter [("applyTo", .text (appliesTo request.config request.document))]
        request.document.content)

end Copilot

/-! ### Bodies alone -/

def bodyText (document : CompiledDocument) : String :=
  withFrontmatter [] document.content

def markdownName (document : CompiledDocument) : String :=
  ruleName document ++ ".md"

namespace ClaudeCode

def handshake : Handshake :=
  Handshake.inProcess "claude-code" engineVersion
    [Capability.outputMarkdown, Capability.atomicWrite]

def provider : Provider where
  handshake := handshake
  name := "Claude Code"
  defaultDestination := "CLAUDE.md"
  outputPath files request := outputPathFor request (markdownName request.document) .stat files
  requestedCapabilities _ := [Capability.outputMarkdown]
  compile request := single handshake request (bodyText request.document)
  writing := .artifacts .atomic

end ClaudeCode

namespace Cline

def handshake : Handshake :=
  Handshake.inProcess "cline" engineVersion [Capability.outputMarkdown]

def provider : Provider where
  handshake := handshake
  name := "Cline"
  defaultDestination := ".clinerules"
  outputPath files request := outputPathFor request (markdownName request.document) .lexical files
  requestedCapabilities config := [formatCapability config.format?]
  compile request := single handshake request (bodyText request.document)

end Cline

namespace RooCode

def handshake : Handshake :=
  Handshake.inProcess "roo-code" engineVersion [Capability.outputMarkdown]

/-- The base of the rules of a mode, which lies beside the base of the others. -/
def modeBase (base : Path) (mode : Option String) : Path :=
  match (mode.map Text.trimmed).filter (· ≠ "") with
  | some mode => (base.parent?.getD ⟨""⟩).join ("rules-" ++ mode)
  | none => base

def provider : Provider where
  handshake := handshake
  name := "Roo Code"
  defaultDestination := ".roo/rules"
  outputPath files request :=
    let mode := (setting? request.config request.document "mode").bind Value.asString?
    pathUnder (modeBase request.destination mode) request.config.outputOverride?
      (markdownName request.document) .lexical files
  requestedCapabilities config := [formatCapability config.format?]
  compile request := single handshake request (bodyText request.document)

end RooCode

end RuleCompiler.Provider

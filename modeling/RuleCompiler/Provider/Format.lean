import RuleCompiler.Path.Output
import RuleCompiler.Provider.Basic
import RuleCompiler.Yaml.Writer

/-!
What the built-in providers have in common: their settings, their output paths, and bodies with a
frontmatter.
-/

namespace RuleCompiler.Provider

def setting? (config : DestinationConfig) (document : CompiledDocument) (key : String) :
    Option Value :=
  match config.get? key with
  | some value => some value
  | none => document.metadata.frontmatter.get? key

/-- A list of texts: the strings of an array, or the parts of a text between commas that are not
blank. -/
def textList (value : Option Value) : List String :=
  match value with
  | some (.string text) => ((Text.pieces ',' text).map Text.trimmed).filter (· ≠ "")
  | some (.array items) => Value.strings items
  | _ => []

def ruleName (document : CompiledDocument) : String :=
  RuleName.stem document.source.path document.source.id

/-- A body under a frontmatter that the codec writes, which is left out when it has no entries.
Blanks at the end of the body become one line end. -/
def withFrontmatterBy (yaml : Yaml.Codec) (entries : List (String × Yaml.Entry)) (body : String) :
    String :=
  let body := Text.trimmedEnd body
  if entries.isEmpty then body ++ "\n"
  else "---\n" ++ yaml.write entries ++ "---\n\n" ++ body ++ "\n"

def withFrontmatter (entries : List (String × Yaml.Entry)) (body : String) : String :=
  withFrontmatterBy .standard entries body

/-- The path of an output under a base, as a configuration gives it. -/
def pathUnder (base : Path) (configured : Option String) (fallback : String)
    (check : DirectoryCheck) (files : FileTree) : Path :=
  OutputPath.resolve files.workingPath files.isDirectory base configured fallback check

/-- The output path of a request, with this file name where a directory is given. -/
def outputPathFor (request : WriteRequest) (fallback : String) (check : DirectoryCheck)
    (files : FileTree) : Path :=
  pathUnder request.destination request.config.outputOverride? fallback check files

/-- The capability of a format. Markdown is meant where none is given. -/
def formatCapability (format : Option String) : String :=
  match format with
  | none | some "markdown" | some "md" => Capability.outputMarkdown
  | some "xml" => Capability.outputXml
  | some "mdc" => Capability.outputMdc
  | some other => "output." ++ other

/-- One artifact with this text, once the target's capabilities are known to be there. -/
def single (handshake : Handshake) (request : CompileRequest) (contents : String) :
    Action ProviderError (List Artifact) := do
  ensureCapabilities handshake request.target
  return [{ target := request.target, contents }]

end RuleCompiler.Provider

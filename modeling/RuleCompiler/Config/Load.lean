import RuleCompiler.Config.Project
import RuleCompiler.FileTree.Action
import RuleCompiler.Json.Reader
import RuleCompiler.Wording
import RuleCompiler.Yaml.Datum

/-!
Loading the project configuration. A file whose name ends in `.yaml` or `.yml` is YAML and any other
is JSON; a file that holds null is an empty configuration. The file is found under `.rulesets`.
-/

namespace RuleCompiler

inductive ConfigError where
  | io (path : Path) (cause : IoError)
  | json (path : Path) (cause : Json.ReadError)
  | yaml (path : Path) (cause : Yaml.ReadError)
  | notAMapping (path : Path)
  deriving Repr

def ConfigError.message (wording : Wording) : ConfigError → String
  | .io path cause => "Failed to read config " ++ path.text ++ ": " ++ wording.io cause
  | .json path _ => "Invalid JSON config " ++ path.text ++ ": " ++ wording.json
  | .yaml path _ => "Invalid YAML config " ++ path.text ++ ": " ++ wording.yaml
  | .notAMapping path => "Config " ++ path.text ++ " must be a mapping at the top level"

namespace ProjectConfig

def isYaml (path : Path) : Bool :=
  path.extension? = some "yaml" || path.extension? = some "yml"

def parse (path : Path) (text : String) : Except ConfigError Value :=
  if isYaml path then
    match Yaml.read text with
    | .error cause => .error (.yaml path cause)
    | .ok datum =>
        match datum.toValue? with
        | some value => .ok value
        | none => .error (.notAMapping path)
  else
    match Json.read text with
    | .error cause => .error (.json path cause)
    | .ok value => .ok value

def load (files : FileTree) (path : Path) : Except ConfigError ProjectConfig :=
  match files.readText path with
  | .error cause => .error (.io path cause)
  | .ok text => do
      match ← parse path text with
      | .object fields => return { fields }
      | .null => return {}
      | _ => throw (.notAMapping path)

/-- The names that a configuration may have, the preferred one first. -/
def fileNames : List String :=
  ["config.json", "config.yaml", "config.yml"]

def find? (files : FileTree) (root : Path) : Option Path :=
  (fileNames.map fun name => (root.join ".rulesets").join name).find? files.isFile

def discover (files : FileTree) (root : Path) : Except ConfigError ProjectConfig :=
  match find? files root with
  | some path => load files path
  | none => .ok {}

end ProjectConfig

end RuleCompiler

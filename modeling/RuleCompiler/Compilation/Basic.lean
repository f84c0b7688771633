import RuleCompiler.Compilation.Report
import RuleCompiler.Partial.Discovery
import RuleCompiler.Registry
import RuleCompiler.Selection

/-!
What compiles documents: a registry of providers, a template engine, a project and the directories
of its partials. Also what a caller can ask of one compilation, and the state that one compilation
carries from destination to destination.
-/

namespace RuleCompiler

structure Compiler where
  registry : Registry
  engine : TemplateEngine := .standard
  /-- An absolute path. -/
  projectRoot : Path
  partialDirectories : PartialDirectories
  wording : Wording := .plain

inductive DestinationChoice where
  /-- Those that the document and the project configuration choose. -/
  | selected
  | only (ids : List String)
  deriving DecidableEq, Repr

structure CompileOptions where
  /-- Partials in the place of those that the directories hold. -/
  partials : Option (KeyedList String) := none
  deriving Repr

/-- The workspace, and the partials of the directories once a destination has needed them. -/
structure RunState where
  workspace : Workspace
  ambient : Option (KeyedList String) := none

/-- A part of one compilation, for one destination. -/
abbrev RunAction := ExceptT DestinationError (StateM RunState)

namespace Compiler

def forProject (registry : Registry) (environment : Environment) (workingDirectory root : Path) :
    Compiler :=
  let projectRoot := root.absolutize workingDirectory
  { registry
    projectRoot
    partialDirectories := PartialDirectories.forProject environment projectRoot }

def select (compiler : Compiler) (document : Document) (config : ProjectConfig) : List String :=
  Selection.select document.frontmatter config compiler.registry.ids

def destinations (compiler : Compiler) (document : Document) (config : ProjectConfig) :
    DestinationChoice → List String
  | .selected => compiler.select document config
  | .only ids => ids.foldl (fun kept id => if kept.contains id then kept else kept ++ [id]) []

end Compiler

namespace RunState

def act {α : Type} (action : StateM Workspace α) : StateM RunState α := fun state =>
  let (result, workspace) := action state.workspace
  (result, { state with workspace })

/-- Act on the workspace; a failure is a cause of the destination's failure. -/
def attempt {ε α : Type} (change : ε → DestinationError) (action : Action ε α) : RunAction α :=
  act (action.mapError change)

end RunState

end RuleCompiler

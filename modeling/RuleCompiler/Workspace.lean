import RuleCompiler.Collection
import RuleCompiler.FileTree.Action
import RuleCompiler.Log

/-!
The workspace of a compilation: the files, the documents collected so far, and the log. An action
changes the workspace and may fail; what it did before it failed stays done.
-/

namespace RuleCompiler

inductive MergedTarget where
  | agentsMd
  | codexShared
  deriving DecidableEq, Repr

structure Workspace where
  files : FileTree := {}
  collected : MergedTarget → Collection := fun _ => {}
  log : List LogRecord := []

/-- The variables of the environment that name directories of the user. -/
structure Environment where
  rulesetsHome : Option String := none
  home : Option String := none
  deriving Repr

abbrev Action (ε : Type) := ExceptT ε (StateM Workspace)

namespace Workspace

def tell (record : LogRecord) : StateM Workspace Unit :=
  modify fun workspace => { workspace with log := workspace.log ++ [record] }

def say (level : LogLevel) (message : String) : StateM Workspace Unit :=
  tell { level, message }

/-- Record a document in a collection; the collection as it is then. -/
def collect (target : MergedTarget) (root : Path) (source : DocumentSource) (contents : String)
    (diagnostics : List Diagnostic) : StateM Workspace Collection := fun workspace =>
  let updated :=
    (workspace.collected target).record workspace.files.workingPath root source contents diagnostics
  (updated,
    { workspace with
      collected := fun other => if other = target then updated else workspace.collected other })

end Workspace

end RuleCompiler

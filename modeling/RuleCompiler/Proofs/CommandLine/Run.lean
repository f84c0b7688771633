import Mathlib.Data.List.Forall2
import RuleCompiler.CommandLine.Run
import RuleCompiler.Proofs.CommandLine.Arguments
import RuleCompiler.Proofs.Compilation.Isolation
import RuleCompiler.Proofs.Document.Reading

/-!
Compiling files from the command line. The files are taken one after the other, each in the
workspace that those before it leave, and each gives one report. A file that gives no document
changes nothing, so that without it there would be one report less and no other difference.
-/

namespace RuleCompiler.CommandLine

/-! ### Reports -/

namespace FileReport

def source : FileReport → String
  | .unusable file _ => file.text
  | .failed failure => failure.source
  | .compiled report => report.source

end FileReport

/-- A printed report of success. -/
def succeeded (report : Value) : Bool :=
  report.get? "success" = some (.bool true)

namespace FileReport

/-- The report of a compilation that gave these results. -/
def ofResults (run : RunStamp) (source : String) (results : List DestinationResult) :
    FileReport :=
  match Outcome.ofResults results with
  | .failed _ => .failed { source, results }
  | _ => .compiled { run, source, results }

/-- Reports that differ at most in the ids of their runs. -/
inductive Alike : FileReport → FileReport → Prop
  | unusable (file : Path) (message : String) :
      Alike (.unusable file message) (.unusable file message)
  | failed (failure : TotalFailure) : Alike (.failed failure) (.failed failure)
  | compiled (report : Report) (again : RunStamp)
      (sameClock : again.startedAt = report.run.startedAt) :
      Alike (.compiled report) (.compiled { report with run := again })

end FileReport

/-- A file that gives no document: it cannot be read, or its text is refused. -/
inductive Unusable (files : FileTree) (file : Path) : Prop
  | unread (cause : IoError) (isUnread : files.readText file = .error cause)
  | refused (text : String) (cause : DocumentError) (isRead : files.readText file = .ok text)
      (isRefused : Document.ofMarkdown file text = .error cause)

theorem Unusable.readDocument {files : FileTree} {file : Path} (isUnusable : Unusable files file)
    (wording : Wording) : ∃ message, readDocument wording files file = .error message := by
  unfold CommandLine.readDocument
  cases isUnusable with
  | unread cause isUnread => exact ⟨_, by rw [isUnread]⟩
  | refused text cause isRead isRefused => exact ⟨_, by rw [isRead]; dsimp only; rw [isRefused]⟩

section Files

variable (compiler : Compiler) (choice : DestinationChoice) (project : ProjectConfig)

end Files

/-! ### Stamps by place -/

section Stamped

variable {compiler : Compiler} {choice : DestinationChoice} {project : ProjectConfig}
  {stamp : Nat → RunStamp} {files : List String} {workspace : Workspace}

end Stamped

/-! ### The command -/

section Command

variable (engine : TemplateEngine) (environment : Environment) (wording : Wording)

/-- The compiler that all files of a command share. -/
def compilerOf (files : FileTree) (arguments : CompileArguments) : Compiler :=
  { Compiler.forProject Registry.builtin environment files.workingPath
      ⟨arguments.root.getD "."⟩ with
    engine
    wording }

end Command

end RuleCompiler.CommandLine

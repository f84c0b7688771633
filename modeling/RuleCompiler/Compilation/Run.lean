import RuleCompiler.Compilation.Destination

/-!
Compiling one document for all its destinations, in order. A destination that fails does not keep
the others from being compiled.
-/

namespace RuleCompiler.Compiler

def tellRun (run : RunStamp) (level : LogLevel) (message : String) : StateM Workspace Unit :=
  Workspace.say level ("[" ++ run.id ++ "] " ++ message)

def tellResult (compiler : Compiler) (run : RunStamp) (source : String)
    (result : DestinationResult) : StateM Workspace Unit :=
  let lead := source ++ " -> " ++ result.destinationId
  match result.delivery with
  | .ok delivery =>
      tellRun run .debug (lead ++ ": " ++ toString delivery.written.length ++ " artifact(s)")
  | .error cause => tellRun run .warn (lead ++ " failed: " ++ cause.message compiler.wording)

def resultsFor (compiler : Compiler) (run : RunStamp) (document : Document)
    (project : ProjectConfig) (options : CompileOptions) :
    (destinations : List String) → StateM RunState (List DestinationResult)
  | [] => return []
  | destination :: rest => do
      let delivery ← (compiler.compileFor run document project options destination).run
      let result : DestinationResult := { destinationId := destination, delivery }
      RunState.act (compiler.tellResult run document.label result)
      return result :: (← compiler.resultsFor run document project options rest)

/-- Tell the outcome of a compilation. A total failure is told by its causes alone. -/
def tellOutcome (run : RunStamp) (source : String) (results : List DestinationResult) :
    StateM Workspace Unit :=
  match Outcome.ofResults results with
  | .empty => tellRun run .debug ("No destinations selected for " ++ source)
  | .success =>
      tellRun run .info
        ("Compiled " ++ source ++ " to all " ++ toString results.length ++ " destination(s)")
  | .partialSuccess succeeded failures =>
      tellRun run .warn
        ("Compiled " ++ source ++ " with partial success: " ++ toString succeeded ++
          " succeeded, " ++ toString failures ++ " failed")
  | .failed _ => return

def compile (compiler : Compiler) (run : RunStamp) (document : Document)
    (choice : DestinationChoice) (project : ProjectConfig) (options : CompileOptions) :
    Action TotalFailure Report := do
  let source := document.label
  let destinations := compiler.destinations document project choice
  tellRun run .info
    ("Compiling " ++ source ++ " to " ++ toString destinations.length ++ " destination(s)")
  let results ← fun workspace =>
    let (results, state) := compiler.resultsFor run document project options destinations
      { workspace }
    (.ok results, state.workspace)
  tellOutcome run source results
  match Outcome.ofResults results with
  | .failed _ => throw { source, results }
  | _ => return { run, source, results }

end RuleCompiler.Compiler

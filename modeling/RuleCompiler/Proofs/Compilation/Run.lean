import Mathlib.Data.List.Nodup
import RuleCompiler.Compilation.Run
import RuleCompiler.Proofs.FirstOccurrence
import RuleCompiler.Proofs.Workspace

/-!
A compilation as the run of its destinations. Around that run it only logs, so its results, files
and collections are those of the run. Each destination is met once, and gives one result.
-/

namespace RuleCompiler

/-- The results of a compilation, also of one that failed as a whole. -/
def resultsOf : Except TotalFailure Report → List DestinationResult
  | .ok report => report.results
  | .error failure => failure.results

namespace Compiler

theorem onlyLogs_tellRun (run : RunStamp) (level : LogLevel) (message : String) :
    Workspace.OnlyLogs (tellRun run level message) :=
  Workspace.onlyLogs_tell _

theorem onlyLogs_tellResult (compiler : Compiler) (run : RunStamp) (source : String)
    (result : DestinationResult) : Workspace.OnlyLogs (compiler.tellResult run source result) := by
  unfold tellResult
  cases result.delivery with
  | ok delivery => exact onlyLogs_tellRun _ _ _
  | error cause => exact onlyLogs_tellRun _ _ _

theorem onlyLogs_tellOutcome (run : RunStamp) (source : String)
    (results : List DestinationResult) : Workspace.OnlyLogs (tellOutcome run source results) := by
  unfold tellOutcome
  split
  · exact onlyLogs_tellRun _ _ _
  · exact onlyLogs_tellRun _ _ _
  · exact onlyLogs_tellRun _ _ _
  · exact Workspace.OnlyLogs.pure _

variable (compiler : Compiler) (run : RunStamp) (document : Document) (project : ProjectConfig)
  (options : CompileOptions)

theorem resultsFor_cons (destination : String) (rest : List String) (state : RunState) :
    compiler.resultsFor run document project options (destination :: rest) state =
      let delivered := (compiler.compileFor run document project options destination).run state
      let result : DestinationResult :=
        { destinationId := destination, delivery := delivered.1 }
      let onward := compiler.resultsFor run document project options rest
        { delivered.2 with
          workspace := (compiler.tellResult run document.label result delivered.2.workspace).2 }
      (result :: onward.1, onward.2) :=
  rfl

theorem destinationId_resultsFor (destinations : List String) (state : RunState) :
    (compiler.resultsFor run document project options destinations state).1.map
      DestinationResult.destinationId = destinations := by
  induction destinations generalizing state with
  | nil => rfl
  | cons destination rest ih =>
      rw [resultsFor_cons]
      dsimp only
      rw [List.map_cons, ih]

/-- The state in which a compilation meets its first destination. -/
def opening (compiler : Compiler) (run : RunStamp) (document : Document) (project : ProjectConfig)
    (choice : DestinationChoice) (workspace : Workspace) : RunState :=
  { workspace :=
      (tellRun run .info ("Compiling " ++ document.label ++ " to " ++
        toString (compiler.destinations document project choice).length ++ " destination(s)")
          workspace).2 }

private theorem compile_opened (choice : DestinationChoice) (workspace : Workspace)
    {ran : List DestinationResult × RunState}
    (ranEq : compiler.resultsFor run document project options
      (compiler.destinations document project choice)
      (compiler.opening run document project choice workspace) = ran) :
    (compiler.compile run document choice project options).run workspace =
      (do
        tellOutcome run document.label ran.1
        match Outcome.ofResults ran.1 with
        | .failed _ => throw { source := document.label, results := ran.1 }
        | _ => return { run, source := document.label, results := ran.1 } :
          Action TotalFailure Report).run ran.2.workspace := by
  rw [← ranEq]
  rfl

/-- Before and after its destinations a compilation does no more than log. -/
theorem compile_run_opening (choice : DestinationChoice) (workspace : Workspace)
    {ran : List DestinationResult × RunState}
    (ranEq : compiler.resultsFor run document project options
      (compiler.destinations document project choice)
      (compiler.opening run document project choice workspace) = ran) :
    resultsOf ((compiler.compile run document choice project options).run workspace).1 = ran.1 ∧
      ((compiler.compile run document choice project options).run workspace).2.Alike
        ran.2.workspace := by
  rw [compile_opened compiler run document project options choice workspace ranEq,
    run_bind_ok (run_ofState _ _)]
  have logged := onlyLogs_tellOutcome run document.label ran.1 ran.2.workspace
  cases Outcome.ofResults ran.1 with
  | failed failures => exact ⟨rfl, logged⟩
  | empty => exact ⟨rfl, logged⟩
  | success => exact ⟨rfl, logged⟩
  | partialSuccess succeeded failures => exact ⟨rfl, logged⟩

theorem compile_run (choice : DestinationChoice) (workspace : Workspace) :
    ∃ log, ∀ ran, compiler.resultsFor run document project options
        (compiler.destinations document project choice)
        { workspace := { workspace with log } } = ran →
      resultsOf ((compiler.compile run document choice project options).run workspace).1 = ran.1 ∧
      ((compiler.compile run document choice project options).run workspace).2.Alike
        ran.2.workspace :=
  ⟨(compiler.opening run document project choice workspace).workspace.log, fun _ ranEq =>
    compile_run_opening compiler run document project options choice workspace ranEq⟩

/-- A compilation fails as a whole if its results do, and otherwise reports them. -/
theorem compile_answer (choice : DestinationChoice) (workspace : Workspace) :
    ∃ state results, (compiler.resultsFor run document project options
        (compiler.destinations document project choice) state).1 = results ∧
      ((compiler.compile run document choice project options).run workspace).1 =
        match Outcome.ofResults results with
        | .failed _ => .error { source := document.label, results }
        | _ => .ok { run, source := document.label, results } := by
  refine ⟨compiler.opening run document project choice workspace, _, rfl, ?_⟩
  rw [compile_opened compiler run document project options choice workspace rfl,
    run_bind_ok (run_ofState _ _)]
  cases Outcome.ofResults _ with
  | failed failures => rfl
  | empty => rfl
  | success => rfl
  | partialSuccess succeeded failures => rfl

/-- The results of a compilation decide its whole answer. -/
theorem compile_answer_of_results {choice : DestinationChoice} {workspace : Workspace}
    {results : List DestinationResult}
    (gave : resultsOf ((compiler.compile run document choice project options).run workspace).1 =
      results) :
    ((compiler.compile run document choice project options).run workspace).1 =
      match Outcome.ofResults results with
      | .failed _ => .error { source := document.label, results }
      | _ => .ok { run, source := document.label, results } := by
  obtain ⟨state, others, _, answered⟩ :=
    compile_answer compiler run document project options choice workspace
  have same : others = results := by
    rw [← gave, answered]
    split <;> rfl
  rw [answered, same]

theorem not_failed_of_compile_ok {choice : DestinationChoice} {workspace after : Workspace}
    {report : Report}
    (ran : (compiler.compile run document choice project options).run workspace =
      (.ok report, after)) (failures : Nat) :
    Outcome.ofResults report.results ≠ .failed failures := by
  obtain ⟨state, results, _, answer⟩ :=
    compile_answer compiler run document project options choice workspace
  rw [ran] at answer
  intro failed
  split at answer
  · cases answer
  · next others =>
      cases answer
      exact others failures failed

/-! ### Requested destinations -/

theorem destinations_only (ids : List String) :
    compiler.destinations document project (.only ids) = ids.eraseDups := by
  unfold destinations
  dsimp only
  induction ids using List.reverseRecOn with
  | nil => rfl
  | append_singleton ids id ih =>
      rw [List.foldl_concat, ih]
      by_cases member : id ∈ ids
      · rw [eraseDups_concat_of_mem member]
        apply if_pos
        exact List.contains_iff_mem.mpr (List.mem_eraseDups.mpr member)
      · rw [eraseDups_concat_of_not_mem member]
        apply if_neg
        exact fun known => member (List.mem_eraseDups.mp (List.contains_iff_mem.mp known))

end Compiler

end RuleCompiler

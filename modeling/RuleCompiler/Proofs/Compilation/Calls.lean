import RuleCompiler.Proofs.Compilation.Delivery
import RuleCompiler.Proofs.Compilation.Run
import RuleCompiler.Proofs.Provider.Calls

/-!
The texts that a compilation persists, destination by destination. With the built-in providers each
of them has a normalized path, whatever texts the paths were made of, so none is refused for being
relative.
-/

namespace RuleCompiler

namespace Persist

variable {files after : FileTree} {path : Path} {contents : String} {mode : WriteMode}
  {failure : WriteError}

theorem existing?_ne_relativePath (failed : existing? files path = .error failure) :
    failure.cause ≠ .relativePath := by
  unfold existing? at failed
  split at failed
  · cases failed
  · cases failed
  · cases failed
    exact nofun
  · cases failed
  · cases failed
    exact nofun

theorem ofChange_ne_relativePath (cause : ChangeError) :
    WriteCause.ofChange cause ≠ .relativePath := by
  cases cause <;> exact nofun

theorem toldAs_ne_relativePath {operation : FileOperation} {ended : Except ChangeError Unit × FileTree}
    (failed : (toldAs operation path ended).1 = .error failure) :
    failure.cause ≠ .relativePath := by
  obtain ⟨answer, tree⟩ := ended
  cases answer with
  | ok _ => cases failed
  | error cause =>
      rw [← Except.error.inj failed]
      exact ofChange_ne_relativePath cause

theorem fillTemporary_ne_relativePath (failed : fillTemporary files path = .error failure) :
    failure.cause ≠ .relativePath := by
  unfold fillTemporary at failed
  dsimp only at failed
  split at failed
  · cases failed
    exact nofun
  · split at failed
    · cases failed
      exact nofun
    · cases failed
      exact nofun
    · cases failed

theorem placed_ne_relativePath (failed : (placed mode files path contents).1 = .error failure) :
    failure.cause ≠ .relativePath := by
  unfold placed at failed
  cases mode with
  | direct => exact toldAs_ne_relativePath failed
  | atomic =>
      dsimp only at failed
      split at failed
      · next filled =>
          cases failed
          exact fillTemporary_ne_relativePath filled
      · exact toldAs_ne_relativePath failed

/-- Only a relative path is refused for being one. -/
theorem cause_ne_relativePath (absolute : path.isAbsolute = true)
    (persisted : outcome files path contents mode = (.error failure, after)) :
    failure.cause ≠ .relativePath := by
  unfold outcome at persisted
  rw [if_pos absolute] at persisted
  split at persisted
  · next found =>
      cases persisted
      exact existing?_ne_relativePath found
  · split at persisted
    · cases persisted
    · split at persisted
      · cases persisted
        exact ofChange_ne_relativePath _
      · split at persisted
        · next put =>
            cases persisted
            exact placed_ne_relativePath (congrArg Prod.fst put)
        · cases persisted

end Persist

/-- Every call did what persisting does to some files. -/
theorem Persists.outcome_of_mem {before after : Workspace} {calls : List PersistCall}
    (persists : Persists before calls after) {call : PersistCall} (member : call ∈ calls) :
    ∃ files later, Persist.outcome files call.path call.contents call.mode =
      (call.answer, later) := by
  induction persists with
  | quiet _ => cases member
  | call _ ran _ ih =>
      rcases List.mem_cons.mp member with here | later
      · rw [here]
        exact ⟨_, _, Persist.outcome_of_run ran⟩
      · exact ih later

/-- The result is what came of the texts persisted for it. -/
def DestinationResult.Tells (result : DestinationResult) (calls : List PersistCall) : Prop :=
  match result.delivery with
  | .ok delivery => Provider.Answers calls (.ok delivery.written)
  | .error (.provider cause) => Provider.Answers calls (.error cause)
  | .error _ => calls = []

namespace Compiler

variable {compiler : Compiler} {run : RunStamp} {document : Document} {project : ProjectConfig}
  {options : CompileOptions}

theorem compileFor_persists (isBuiltin : compiler.IsBuiltin) {destination : String}
    {state after : RunState} {delivery : Except DestinationError Delivery}
    (ran : (compiler.compileFor run document project options destination).run state =
      (delivery, after)) :
    ∃ calls, Persists state.workspace calls after.workspace ∧
      DestinationResult.Tells { destinationId := destination, delivery } calls ∧
      ∀ call ∈ calls, call.path.IsNormal := by
  rcases compileFor_cases isBuiltin.serves ran with
    ⟨rfl, id, rfl⟩ |
    ⟨provider, log, found, ⟨rfl, cause, rfl⟩ | ⟨content, answer, workspace, _, wrote, rfl, rfl⟩⟩
  · exact ⟨[], .quiet rfl, rfl, fun _ member => absurd member List.not_mem_nil⟩
  · exact ⟨[], .quiet rfl, rfl, fun _ member => absurd member List.not_mem_nil⟩
  · obtain ⟨calls, persists, answers, normal⟩ :=
      Provider.write_persists (mem_builtin isBuiltin.registry found) wrote
    refine ⟨calls, persists.congr rfl rfl, ?_, normal⟩
    cases answer with
    | ok written => exact answers
    | error cause => exact answers

theorem resultsFor_persists (isBuiltin : compiler.IsBuiltin) (destinations : List String)
    (state : RunState) :
    ∃ told : List (DestinationResult × List PersistCall),
      told.map Prod.fst =
        (compiler.resultsFor run document project options destinations state).1 ∧
      (∀ entry ∈ told, entry.1.Tells entry.2 ∧ ∀ call ∈ entry.2, call.path.IsNormal) ∧
      Persists state.workspace (told.flatMap Prod.snd)
        (compiler.resultsFor run document project options destinations state).2.workspace := by
  induction destinations generalizing state with
  | nil => exact ⟨[], rfl, fun _ member => absurd member List.not_mem_nil, .quiet rfl⟩
  | cons destination rest ih =>
      rw [resultsFor_cons]
      dsimp only
      rcases ran : (compiler.compileFor run document project options destination).run state with
        ⟨delivery, after⟩
      dsimp only
      obtain ⟨calls, persists, tells, normal⟩ := compileFor_persists isBuiltin ran
      have logged := onlyLogs_tellResult compiler run document.label
        { destinationId := destination, delivery } after.workspace
      generalize (compiler.tellResult run document.label
        { destinationId := destination, delivery } after.workspace).2 = workspace at logged ⊢
      obtain ⟨told, results, each, onward⟩ := ih { after with workspace }
      refine ⟨({ destinationId := destination, delivery }, calls) :: told, ?_, ?_, ?_⟩
      · rw [List.map_cons, results]
      · intro entry member
        rcases List.mem_cons.mp member with first | later
        · rw [first]
          exact ⟨tells, normal⟩
        · exact each entry later
      · rw [List.flatMap_cons]
        exact (persists.congr rfl logged.files).append onward

/-- What a compilation does to the files is to persist texts at absolute paths without `.` and `..`,
and its results tell what came of them: nothing fails for a relative path. -/
theorem compile_persists_normalized (compiler : Compiler) (isBuiltin : compiler.IsBuiltin)
    (run : RunStamp) (document : Document) (choice : DestinationChoice) (project : ProjectConfig)
    (options : CompileOptions) (workspace : Workspace) :
    let ended := (compiler.compile run document choice project options).run workspace
    ∃ told : List (DestinationResult × List PersistCall),
      told.map Prod.fst = resultsOf ended.1 ∧
      Persists workspace (told.flatMap Prod.snd) ended.2 ∧
      (∀ entry ∈ told, entry.1.Tells entry.2 ∧
        ∀ call ∈ entry.2, call.path.isAbsolute = true ∧
          ∀ segment ∈ call.path.segments, segment ≠ "." ∧ segment ≠ "..") ∧
      ∀ result ∈ resultsOf ended.1, ∀ failure,
        result.delivery = .error (.provider (.write failure)) → failure.cause ≠ .relativePath := by
  intro ended
  obtain ⟨log, ran⟩ := compile_run compiler run document project options choice workspace
  obtain ⟨sameResults, alike⟩ := ran _ rfl
  obtain ⟨told, results, each, persists⟩ := resultsFor_persists isBuiltin
    (compiler.destinations document project choice) { workspace := { workspace with log } }
  have whole : Persists workspace (told.flatMap Prod.snd) ended.2 := persists.congr rfl alike.files
  refine ⟨told, results.trans sameResults.symm, whole, ?_, ?_⟩
  · intro entry member
    obtain ⟨tells, normal⟩ := each entry member
    refine ⟨tells, ?_⟩
    intro call inside
    exact ⟨(normal call inside).isAbsolute, (normal call inside).segments⟩
  · intro result member failure failed
    rw [sameResults, ← results] at member
    obtain ⟨⟨_, calls⟩, inside, rfl⟩ := List.mem_map.mp member
    obtain ⟨tells, normal⟩ := each _ inside
    have answered : Answered calls (.error failure) := by
      unfold DestinationResult.Tells at tells
      rw [failed] at tells
      exact tells
    obtain ⟨call, called, answer⟩ := answered.mem_of_error
    have ofAll : call ∈ told.flatMap Prod.snd := List.mem_flatMap.mpr ⟨_, inside, called⟩
    obtain ⟨files, later, persisted⟩ := whole.outcome_of_mem ofAll
    rw [answer] at persisted
    exact Persist.cause_ne_relativePath (normal call called).isAbsolute persisted

/-- A rule whose texts lead up and down on their way to its files. -/
def wanderingRule : Document :=
  { source := { id := "a.md", contents := "Body" }
    metadata :=
      { frontmatter := .object
          [("codex", .object [("sharedPath", .string "./../up/.././SHARED.md")]),
           ("roo-code", .object [("mode", .string "x/../../y")])] } }

def plainProject : Compiler :=
  forProject Registry.builtin {} ⟨"/p"⟩ ⟨"/p"⟩

def wanderingRun : Except TotalFailure Report × Workspace :=
  (plainProject.compile ⟨"1", "2024-05-01T10:00:00"⟩ wanderingRule (.only ["roo-code", "codex"]) {}
    {}).run { files := { workingDirectory := ["p"] } }

theorem wanderingRun_persists_normalized :
    plainProject.IsBuiltin ∧
    ((resultsOf wanderingRun.1).flatMap DestinationResult.written).map (·.path.text) =
      ["/p/y/a.md", "/p/.codex/rules/a.md", "/p/SHARED.md"] ∧
    ∃ told : List (DestinationResult × List PersistCall),
      told.map Prod.fst = resultsOf wanderingRun.1 ∧
      Persists { files := { workingDirectory := ["p"] } } (told.flatMap Prod.snd) wanderingRun.2 ∧
      ∀ entry ∈ told, entry.1.Tells entry.2 ∧
        ∀ call ∈ entry.2, call.path.isAbsolute = true ∧
          ∀ segment ∈ call.path.segments, segment ≠ "." ∧ segment ≠ ".." := by
  have isBuiltin : plainProject.IsBuiltin := isBuiltin_forProject {} ⟨"/p"⟩ ⟨"/p"⟩
  refine ⟨isBuiltin, by decide +kernel, ?_⟩
  obtain ⟨told, results, persists, each, _⟩ := compile_persists_normalized plainProject isBuiltin
    ⟨"1", "2024-05-01T10:00:00"⟩ wanderingRule (.only ["roo-code", "codex"]) {} {}
    { files := { workingDirectory := ["p"] } }
  exact ⟨told, results, persists, each⟩

end Compiler

end RuleCompiler

import RuleCompiler.Proofs.Compilation.Delivery
import RuleCompiler.Proofs.Compilation.Run
import RuleCompiler.Proofs.Provider.Accounting

/-!
What the results of a compilation tell about the files. In a tree without links every file that
differs afterwards was changed at the turn of one destination, whose result tells of it as written.
The exceptions are results that failed, which tell of nothing: the system may have broken off a
write in place, and Codex fails at the shared file when the rule's own file is there already.
-/

namespace RuleCompiler.Compiler

section Turn

variable (compiler : Compiler) (run : RunStamp) (document : Document) (project : ProjectConfig)
  (options : CompileOptions)

/-- The state once so many destinations are done. -/
def stateAt (destinations : List String) (opening : RunState) (turn : Nat) : RunState :=
  (compiler.resultsFor run document project options (destinations.take turn) opening).2

/-- At its turn Codex wrote the own file of the rule, and then failed at the shared file. -/
def LeftByCodex (before : RunState) (after : FileTree) (result : DestinationResult)
    (names : List String) : Prop :=
  let scope := scopeOf Provider.Codex.provider document project {}
  result.destinationId = "codex" ∧
    ∃ content failure,
      ((compiler.content run document options scope).run before).1 = .ok content ∧
      result.delivery = .error (.provider (.write failure)) ∧
      Provider.Codex.LeavesOwnFile
        (compiler.writeRequest before.workspace.files.workingPath document scope content)
        before.workspace.files after failure names

/-- A write in place of the destination broke off. -/
def BrokeOff (before : RunState) (result : DestinationResult) (names : List String) : Prop :=
  ∃ failure, result.delivery = .error (.provider (.write failure)) ∧
    Provider.BreaksOff before.workspace.files failure names

/-- The result of a turn accounts for a file that changed at this turn. -/
def AccountsFor (before : RunState) (after : FileTree) (result : DestinationResult)
    (names : List String) : Prop :=
  (∃ artifact ∈ result.written,
      artifact.path = Path.ofNames true names ∧ artifact.status = .written) ∨
    BrokeOff before result names ∨
    compiler.LeftByCodex run document project options before after result names

/-- The run of the destinations, cut after the first. -/
theorem resultsFor_cons_stateAt (destination : String) (rest : List String) (state : RunState) :
    compiler.resultsFor run document project options (destination :: rest) state =
      let next := compiler.stateAt run document project options [destination] state 1
      let onward := compiler.resultsFor run document project options rest next
      ({ destinationId := destination
         delivery :=
           ((compiler.compileFor run document project options destination).run state).1 } ::
         onward.1, onward.2) :=
  rfl

theorem stateAt_succ (destination : String) (rest : List String) (state : RunState) (turn : Nat) :
    compiler.stateAt run document project options (destination :: rest) state (turn + 1) =
      compiler.stateAt run document project options rest
        (compiler.stateAt run document project options [destination] state 1) turn :=
  rfl

theorem files_stateAt_one (destination : String) (state : RunState) :
    (compiler.stateAt run document project options [destination] state 1).workspace.files =
      ((compiler.compileFor run document project options destination).run
        state).2.workspace.files :=
  (onlyLogs_tellResult compiler run document.label _ _).files

end Turn

variable {compiler : Compiler} {run : RunStamp} {document : Document} {project : ProjectConfig}
  {options : CompileOptions}

theorem settled_codex :
    settled Provider.Codex.provider document project =
      scopeOf Provider.Codex.provider document project {} :=
  rfl

theorem compileFor_accounts (isBuiltin : compiler.IsBuiltin) {destination : String}
    {state after : RunState} {delivery : Except DestinationError Delivery}
    (linkFree : state.workspace.files.LinkFree)
    (ran : (compiler.compileFor run document project options destination).run state =
      (delivery, after)) :
    after.workspace.files.LinkFree ∧
      ∀ names, after.workspace.files.fileAt? names ≠ state.workspace.files.fileAt? names →
        compiler.AccountsFor run document project options state after.workspace.files
          { destinationId := destination, delivery } names := by
  rcases compileFor_cases isBuiltin.serves ran with
    ⟨rfl, _⟩ | ⟨provider, log, found, ⟨rfl, _⟩ | ⟨content, answer, workspace, rendered, wrote, rfl,
      rfl⟩⟩
  · exact ⟨linkFree, fun names differs => absurd rfl differs⟩
  · exact ⟨linkFree, fun names differs => absurd rfl differs⟩
  · have startsLinkFree : ({ state.workspace with log } : Workspace).files.LinkFree := linkFree
    obtain ⟨stillLinkFree, _, accounts⟩ :=
      Provider.write_accounts (mem_builtin isBuiltin.registry found) _ startsLinkFree wrote
    refine ⟨stillLinkFree, ?_⟩
    intro names differs
    cases accounts names differs with
    | told told => exact Or.inl told
    | brokenOff breaks => exact Or.inr (Or.inl ⟨_, rfl, breaks⟩)
    | leftByCodex isCodex leaves =>
        have named : provider.id = destination := Registry.id_of_get? found
        subst isCodex
        rw [settled_codex] at rendered leaves
        obtain ⟨contentLog, gave⟩ := content_run run document options
          (scopeOf Provider.Codex.provider document project {}) (fun _ => isBuiltin.engine) state
        refine Or.inr (Or.inr ⟨named.symm, content, _, ?_, rfl, leaves⟩)
        rw [gave]
        exact rendered

theorem resultsFor_accounts (isBuiltin : compiler.IsBuiltin) (destinations : List String)
    {state : RunState} (linkFree : state.workspace.files.LinkFree) (names : List String)
    (differs :
      (compiler.resultsFor run document project options destinations
        state).2.workspace.files.fileAt? names ≠ state.workspace.files.fileAt? names) :
    ∃ turn result,
      (compiler.resultsFor run document project options destinations state).1[turn]? =
        some result ∧
      compiler.AccountsFor run document project options
        (compiler.stateAt run document project options destinations state turn)
        (compiler.stateAt run document project options destinations state
          (turn + 1)).workspace.files
        result names := by
  induction destinations generalizing state with
  | nil => exact absurd rfl differs
  | cons destination rest ih =>
      rw [resultsFor_cons_stateAt] at differs ⊢
      have sameFiles :=
        files_stateAt_one compiler run document project options destination state
      rcases ran : (compiler.compileFor run document project options destination).run state with
        ⟨delivery, after⟩
      rw [ran] at sameFiles
      obtain ⟨stillLinkFree, accounts⟩ := compileFor_accounts isBuiltin linkFree ran
      rw [← sameFiles] at stillLinkFree accounts
      by_cases first :
          (compiler.stateAt run document project options [destination] state
            1).workspace.files.fileAt? names = state.workspace.files.fileAt? names
      · rw [← first] at differs
        obtain ⟨turn, result, inside, accountsFor⟩ := ih stillLinkFree differs
        refine ⟨turn + 1, result, inside, ?_⟩
        rw [stateAt_succ, stateAt_succ]
        exact accountsFor
      · exact ⟨0, _, rfl, accounts names first⟩

/-- Every file that a compilation changed was changed at the turn of a destination, and its result
tells of the file as written; or else this result failed with a write that broke off, or after
Codex had written the own file of the rule. -/
theorem compile_accounts_for_changes (compiler : Compiler) (isBuiltin : compiler.IsBuiltin)
    (run : RunStamp) (document : Document) (choice : DestinationChoice) (project : ProjectConfig)
    (options : CompileOptions) (workspace : Workspace) (linkFree : workspace.files.LinkFree)
    (names : List String)
    (differs :
      ((compiler.compile run document choice project options).run workspace).2.files.fileAt? names ≠
        workspace.files.fileAt? names) :
    ∃ turn result,
      (resultsOf
        ((compiler.compile run document choice project options).run workspace).1)[turn]? =
          some result ∧
      let stateAt := compiler.stateAt run document project options
        (compiler.destinations document project choice)
        (compiler.opening run document project choice workspace)
      (∃ artifact ∈ result.written,
          artifact.path = Path.ofNames true names ∧ artifact.status = .written) ∨
        BrokeOff (stateAt turn) result names ∨
        compiler.LeftByCodex run document project options (stateAt turn)
          (stateAt (turn + 1)).workspace.files result names := by
  obtain ⟨sameResults, sameEffects⟩ :=
    compile_run_opening compiler run document project options choice workspace rfl
  rw [sameResults]
  rw [sameEffects.files] at differs
  have startsLinkFree :
      (compiler.opening run document project choice workspace).workspace.files.LinkFree := linkFree
  exact resultsFor_accounts isBuiltin _ startsLinkFree names differs

/-- A project in which a directory has the place of the shared file of Codex. The proofs below
evaluate it in the kernel only. -/
@[irreducible]
def blockedFiles : FileTree :=
  (({ workingDirectory := ["p"] } : FileTree).createDirectories ⟨"/p/.codex/AGENTS.md"⟩).2

def blockedProject : Compiler :=
  Compiler.forProject Registry.builtin {} ⟨"/p"⟩ ⟨"/p"⟩

def blockedRule : Document :=
  { source := { id := "a.md", path := some ⟨"/p/a.md"⟩, contents := "Body\n" }, metadata := {} }

def blockedStamp : RunStamp :=
  { id := "1", startedAt := "2024-05-01T10:00:00" }

def blockedRun (ids : List String) : Except TotalFailure Report × Workspace :=
  (blockedProject.compile blockedStamp blockedRule (.only ids) {} {}).run
    { files := blockedFiles }

theorem linkFree_blockedFiles : blockedFiles.LinkFree := by
  unfold blockedFiles
  exact FileTree.linkFree_createDirectories_empty ["p"] ⟨"/p/.codex/AGENTS.md"⟩

theorem isBuiltin_blockedProject : blockedProject.IsBuiltin := by
  unfold blockedProject
  exact isBuiltin_forProject {} ⟨"/p"⟩ ⟨"/p"⟩

theorem blocked_run_accounts_for_rule_of_cline :
    (blockedRun ["codex", "cline"]).2.files.fileAt? ["p", ".clinerules", "a.md"] ≠
        blockedFiles.fileAt? ["p", ".clinerules", "a.md"] ∧
      ∃ turn result, (resultsOf (blockedRun ["codex", "cline"]).1)[turn]? = some result ∧
        let stateAt := blockedProject.stateAt blockedStamp blockedRule {} {}
          (blockedProject.destinations blockedRule {} (.only ["codex", "cline"]))
          (blockedProject.opening blockedStamp blockedRule {} (.only ["codex", "cline"])
            { files := blockedFiles })
        (∃ artifact ∈ result.written,
            artifact.path = Path.ofNames true ["p", ".clinerules", "a.md"] ∧
              artifact.status = .written) ∨
          BrokeOff (stateAt turn) result ["p", ".clinerules", "a.md"] ∨
          blockedProject.LeftByCodex blockedStamp blockedRule {} {} (stateAt turn)
            (stateAt (turn + 1)).workspace.files result ["p", ".clinerules", "a.md"] := by
  have differs : (blockedRun ["codex", "cline"]).2.files.fileAt? ["p", ".clinerules", "a.md"] ≠
      blockedFiles.fileAt? ["p", ".clinerules", "a.md"] := by
    decide +kernel
  refine ⟨differs, ?_⟩
  unfold blockedRun at differs ⊢
  exact compile_accounts_for_changes blockedProject isBuiltin_blockedProject blockedStamp
    blockedRule (.only ["codex", "cline"]) {} {} { files := blockedFiles } linkFree_blockedFiles
    ["p", ".clinerules", "a.md"] differs

theorem blocked_run_leaves_rule_of_codex_untold :
    blockedProject.IsBuiltin ∧ blockedFiles.LinkFree ∧
      (blockedRun ["codex"]).2.files.fileAt? ["p", ".codex", "rules", "a.md"] ≠
        blockedFiles.fileAt? ["p", ".codex", "rules", "a.md"] ∧
      ¬ ∃ result ∈ resultsOf (blockedRun ["codex"]).1, ∃ artifact ∈ result.written,
        artifact.path = Path.ofNames true ["p", ".codex", "rules", "a.md"] ∧
          artifact.status = .written := by
  have differs : (blockedRun ["codex"]).2.files.fileAt? ["p", ".codex", "rules", "a.md"] ≠
      blockedFiles.fileAt? ["p", ".codex", "rules", "a.md"] := by
    decide +kernel
  have silent : (resultsOf (blockedRun ["codex"]).1).all
      (fun result => result.written.isEmpty) = true := by
    decide +kernel
  refine ⟨isBuiltin_blockedProject, linkFree_blockedFiles, differs, ?_⟩
  rintro ⟨result, inside, artifact, told, _⟩
  have nothing := List.isEmpty_iff.mp (List.all_eq_true.mp silent result inside)
  rw [nothing] at told
  cases told

end RuleCompiler.Compiler

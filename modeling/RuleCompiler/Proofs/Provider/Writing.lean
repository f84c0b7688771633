import RuleCompiler.Proofs.Artifact.Persist
import RuleCompiler.Registry

/-!
How the built-in providers write. Each of them settles its target, refuses it when a capability is
missing, and only then touches the workspace; no failure after that is a refusal. What a write does
to the files and the collections, and what it answers, is not decided by the log.
-/

namespace RuleCompiler

theorem Action.mapError_run {ε δ α : Type} (change : ε → δ) (action : Action ε α)
    (workspace : Workspace) :
    (action.mapError change).run workspace =
      ((action.run workspace).1.mapError change, (action.run workspace).2) := by
  simp only [Action.mapError, ExceptT.run]
  rcases action workspace with ⟨_ | _, _⟩ <;> rfl

theorem Action.ignoresLog_mapError {ε δ α : Type} (change : ε → δ) {action : Action ε α}
    (ignores : Workspace.IgnoresLog action.run) :
    Workspace.IgnoresLog (action.mapError change).run := by
  intro first second alike
  obtain ⟨sameAnswer, stillAlike⟩ := ignores first second alike
  rw [Action.mapError_run, Action.mapError_run, sameAnswer]
  exact ⟨rfl, stillAlike⟩

namespace Provider

theorem ensureCapabilities_cases (handshake : Handshake) (target : Target) :
    (∃ findings, ensureCapabilities handshake target = .error (.compile findings)) ∨
      ensureCapabilities handshake target = .ok () := by
  unfold ensureCapabilities
  split
  · exact Or.inl ⟨_, rfl⟩
  · exact Or.inr rfl

theorem persistText_run {path : Path} {contents : String} {mode : WriteMode}
    (workspace : Workspace) {answer : Except WriteError WrittenArtifact} {files : FileTree}
    (persisted : Persist.outcome workspace.files path contents mode = (answer, files)) :
    ∃ log, (persistText path contents mode).run workspace =
      (answer.mapError ProviderError.write, { workspace with files, log }) := by
  obtain ⟨log, ran⟩ := persist_run path contents mode workspace
  rw [persisted] at ran
  refine ⟨log, ?_⟩
  rw [persistText, Action.mapError_run, ran]

theorem ignoresLog_persistText (path : Path) (contents : String) (mode : WriteMode) :
    Workspace.IgnoresLog (persistText path contents mode).run :=
  Action.ignoresLog_mapError _ (ignoresLog_persist path contents mode)

/-! ### Rule files -/

/-- A provider that compiles a document to one artifact, without looking at the workspace. -/
structure IsRuleFile (provider : Provider) (mode : WriteMode)
    (contents : DestinationConfig → CompiledDocument → String) : Prop where
  writing : provider.writing = .artifacts mode
  compile : ∀ request, provider.compile request =
    single provider.handshake request (contents request.config request.document)

theorem persistAll_single (destination : String) (mode : WriteMode) (target : Target)
    (contents : String) :
    persistAll destination mode [{ target, contents }] = do
      let written ← persistText target.outputPath contents mode
      return [written] := by
  rw [persistAll, persistAll]
  simp only [List.forIn_nil, pure_bind]

namespace IsRuleFile

variable {provider : Provider} {mode : WriteMode}
  {contents : DestinationConfig → CompiledDocument → String}

theorem write_eq (ruleFile : IsRuleFile provider mode contents) (request : WriteRequest) :
    provider.write request = do
      let target := provider.target (← get).files request
      ensureCapabilities provider.handshake target
      let written ← persistText target.outputPath (contents request.config request.document) mode
      return [written] := by
  simp only [Provider.write, ruleFile.writing, compileAndPersist, ruleFile.compile, single,
    bind_assoc, pure_bind, persistAll_single]

theorem write_run_of_granted (ruleFile : IsRuleFile provider mode contents)
    (request : WriteRequest) (workspace : Workspace)
    (granted : ensureCapabilities provider.handshake (provider.target workspace.files request) =
      .ok ()) {answer : Except WriteError WrittenArtifact} {files : FileTree}
    (persisted : Persist.outcome workspace.files (provider.outputPath workspace.files request)
      (contents request.config request.document) mode = (answer, files)) :
    ∃ log, (provider.write request).run workspace =
      ((answer.mapError ProviderError.write).map fun written => [written],
        { workspace with files, log }) := by
  obtain ⟨log, ran⟩ := persistText_run workspace persisted
  refine ⟨log, ?_⟩
  rw [ruleFile.write_eq, run_bind_ok (run_get workspace)]
  dsimp only
  rw [granted, run_bind_ok (run_ofExcept _ _), run_bind_pure]
  dsimp only [target]
  rw [ran]

theorem write_run_of_refused (ruleFile : IsRuleFile provider mode contents)
    (request : WriteRequest) (workspace : Workspace) {cause : ProviderError}
    (refused : ensureCapabilities provider.handshake (provider.target workspace.files request) =
      .error cause) :
    (provider.write request).run workspace = (.error cause, workspace) := by
  rw [ruleFile.write_eq, run_bind_ok (run_get workspace)]
  dsimp only
  rw [refused, run_bind_error (run_ofExcept _ _)]

theorem write_run (ruleFile : IsRuleFile provider mode contents) (request : WriteRequest)
    (workspace : Workspace) {answer : Except WriteError WrittenArtifact} {files : FileTree}
    (persisted : Persist.outcome workspace.files (provider.outputPath workspace.files request)
      (contents request.config request.document) mode = (answer, files)) :
    (∃ findings, (provider.write request).run workspace = (.error (.compile findings), workspace)) ∨
      ∃ log, (provider.write request).run workspace =
        ((answer.mapError ProviderError.write).map fun written => [written],
          { workspace with files, log }) := by
  rcases ensureCapabilities_cases provider.handshake (provider.target workspace.files request) with
    ⟨findings, refused⟩ | granted
  · exact Or.inl ⟨findings, ruleFile.write_run_of_refused request workspace refused⟩
  · exact Or.inr (ruleFile.write_run_of_granted request workspace granted persisted)

theorem ignoresLog_write (ruleFile : IsRuleFile provider mode contents) (request : WriteRequest) :
    Workspace.IgnoresLog (provider.write request).run := by
  rw [ruleFile.write_eq]
  apply Workspace.ignoresLog_get
  · intro first second alike
    rw [alike.files]
  · intro seen
    apply Respects.bindExcept (Workspace.ignoresLog_ofExcept _)
    intro _
    apply Respects.bindExcept (ignoresLog_persistText _ _ _)
    intro _
    exact Respects.pure _

end IsRuleFile

/-! ### Shared files -/

theorem say_run (destination : String) (level : LogLevel) (message : String)
    (workspace : Workspace) :
    say destination level message workspace =
      ((), { workspace with
        log := workspace.log ++ [ProviderLog.record destination level message] }) :=
  rfl

theorem ignoresLog_collectAndMerge (target : MergedTarget) (style : CollectionStyle) (emit : Bool)
    (document : CompiledDocument) (projectRoot : Path) :
    Workspace.IgnoresLog (collectAndMerge target style emit document projectRoot) := by
  apply Respects.bind (Workspace.ignoresLog_collect _ _ _ _ _)
  intro _
  exact Respects.pure _

def collectedWith (target : MergedTarget) (document : CompiledDocument) (projectRoot : Path)
    (workspace : Workspace) : MergedTarget → Collection :=
  (Workspace.collect target projectRoot document.source document.content [] workspace).2.collected

theorem collectedWith_self (target : MergedTarget) (document : CompiledDocument)
    (projectRoot : Path) (workspace : Workspace) :
    collectedWith target document projectRoot workspace target =
      (workspace.collected target).record workspace.files.workingPath projectRoot document.source
        document.content [] :=
  if_pos rfl

theorem collectAndMerge_run (target : MergedTarget) (style : CollectionStyle) (emit : Bool)
    (document : CompiledDocument) (projectRoot : Path) (workspace : Workspace) :
    collectAndMerge target style emit document projectRoot workspace =
      ((collectedWith target document projectRoot workspace target).merged style emit,
        { workspace with collected := collectedWith target document projectRoot workspace }) := by
  rw [collectedWith_self]
  rfl

namespace AgentsMd

theorem granted (path : Path) (config : DestinationConfig) :
    ensureCapabilities handshake
      { providerId := handshake.providerId, outputPath := path, capabilities := requested config } =
        .ok () :=
  rfl

theorem write_run (request : WriteRequest) (workspace : Workspace)
    {answer : Except WriteError WrittenArtifact} {files : FileTree}
    (persisted : Persist.outcome workspace.files (outputPath workspace.files request)
      ((collectedWith .agentsMd request.document request.projectRoot workspace .agentsMd).merged
        style (emits request.config)).contents .atomic = (answer, files)) :
    ∃ log, (write request).run workspace =
      ((answer.mapError ProviderError.write).map fun written => [written],
        { files
          collected := collectedWith .agentsMd request.document request.projectRoot workspace
          log }) := by
  unfold write
  rw [run_bind_ok (run_get workspace)]
  dsimp only
  rw [granted, run_bind_ok (run_ofExcept _ _), run_bind_ok (run_ofState _ _), collectAndMerge_run,
    run_bind_ok (run_ofState _ _), say_run]
  dsimp only
  generalize workspace.log ++ [_] = told
  let recorded : Workspace :=
    { workspace with
      collected := collectedWith .agentsMd request.document request.projectRoot workspace
      log := told }
  obtain ⟨log, ran⟩ := persistText_run recorded persisted
  cases answer with
  | error cause => exact ⟨log, run_bind_error ran _⟩
  | ok written =>
      rw [run_bind_ok ran]
      cases emits request.config with
      | true => exact ⟨log, rfl⟩
      | false => exact ⟨_, rfl⟩

theorem write_inv {request : WriteRequest} {workspace after : Workspace}
    {answer : Except ProviderError (List WrittenArtifact)}
    (ran : (write request).run workspace = (answer, after)) :
    ∃ persistAnswer,
      Persist.outcome workspace.files (outputPath workspace.files request)
        ((collectedWith .agentsMd request.document request.projectRoot workspace .agentsMd).merged
          style (emits request.config)).contents .atomic = (persistAnswer, after.files) ∧
      answer = (persistAnswer.mapError ProviderError.write).map (fun told => [told]) ∧
      after.collected = collectedWith .agentsMd request.document request.projectRoot workspace := by
  rcases persisted : Persist.outcome workspace.files (outputPath workspace.files request)
    ((collectedWith .agentsMd request.document request.projectRoot workspace .agentsMd).merged
      style (emits request.config)).contents .atomic with ⟨persistAnswer, files⟩
  obtain ⟨log, wrote⟩ := write_run request workspace persisted
  rw [wrote] at ran
  cases ran
  exact ⟨persistAnswer, rfl, rfl, rfl⟩

theorem ignoresLog_write (request : WriteRequest) :
    Workspace.IgnoresLog (write request).run := by
  unfold write
  apply Workspace.ignoresLog_get
  · intro first second alike
    rw [alike.files]
  · intro seen
    apply Respects.bindExcept (Workspace.ignoresLog_ofExcept _)
    intro _
    apply Respects.bindExcept (Workspace.ignoresLog_ofState (ignoresLog_collectAndMerge _ _ _ _ _))
    intro merged
    apply Respects.bindExcept (Workspace.ignoresLog_ofState (Workspace.ignoresLog_tell _))
    intro _
    apply Respects.bindExcept (ignoresLog_persistText _ _ _)
    intro written
    split
    · apply Respects.bindExcept (Workspace.ignoresLog_ofState (Workspace.ignoresLog_tell _))
      intro _
      exact Respects.pure _
    · exact Respects.pure _

end AgentsMd

namespace Codex

theorem granted (path : Path) (config : DestinationConfig) :
    ensureCapabilities handshake
      { providerId := handshake.providerId, outputPath := path, capabilities := requested config } =
        .ok () := by
  unfold requested
  cases sharesFile config with
  | true => rfl
  | false => rfl

theorem write_run_of_error (request : WriteRequest) (workspace : Workspace) {cause : WriteError}
    {files : FileTree}
    (own : Persist.outcome workspace.files (outputPath workspace.files request)
      (bodyText request.document) .direct = (.error cause, files)) :
    ∃ log, (write request).run workspace =
      (.error (.write cause), { workspace with files, log }) := by
  obtain ⟨log, ran⟩ := persistText_run workspace own
  refine ⟨log, ?_⟩
  unfold write
  rw [run_bind_ok (run_get workspace)]
  dsimp only
  rw [granted, run_bind_ok (run_ofExcept _ _), run_bind_error ran]

/-- What is left to do once the rule's own file is there. -/
def share (request : WriteRequest) (own : WrittenArtifact) (path : Path) :
    Action ProviderError (List WrittenArtifact) := do
  let merged ← collectAndMerge .codexShared style (sharesFile request.config) request.document
    request.projectRoot
  let shared ← persistText path merged.contents .atomic
  return [own, shared]

theorem share_run (request : WriteRequest) (own : WrittenArtifact) (path : Path)
    (workspace : Workspace) {answer : Except WriteError WrittenArtifact} {files : FileTree}
    (persisted : Persist.outcome workspace.files path
      ((collectedWith .codexShared request.document request.projectRoot workspace
        .codexShared).merged style (sharesFile request.config)).contents .atomic =
          (answer, files)) :
    ∃ log, (share request own path).run workspace =
      ((answer.mapError ProviderError.write).map fun shared => [own, shared],
        { files
          collected := collectedWith .codexShared request.document request.projectRoot workspace
          log }) := by
  let recorded : Workspace :=
    { workspace with
      collected := collectedWith .codexShared request.document request.projectRoot workspace }
  obtain ⟨log, ran⟩ := persistText_run recorded persisted
  refine ⟨log, ?_⟩
  unfold share
  rw [run_bind_ok (run_ofState _ _), collectAndMerge_run, run_bind_pure]
  dsimp only
  rw [ran]

theorem ignoresLog_share (request : WriteRequest) (own : WrittenArtifact) (path : Path) :
    Workspace.IgnoresLog (share request own path).run := by
  apply Respects.bindExcept (Workspace.ignoresLog_ofState (ignoresLog_collectAndMerge _ _ _ _ _))
  intro merged
  apply Respects.bindExcept (ignoresLog_persistText _ _ _)
  intro shared
  exact Respects.pure _

theorem write_run_of_ok (request : WriteRequest) (workspace : Workspace)
    {written : WrittenArtifact} {answer : Except WriteError WrittenArtifact}
    {made files : FileTree}
    (own : Persist.outcome workspace.files (outputPath workspace.files request)
      (bodyText request.document) .direct = (.ok written, made))
    (shared : Persist.outcome made
      (sharedPath (outputPath workspace.files request) request.projectRoot request.config made)
      ((collectedWith .codexShared request.document request.projectRoot
        { workspace with files := made } .codexShared).merged style
          (sharesFile request.config)).contents .atomic = (answer, files)) :
    ∃ log, (write request).run workspace =
      ((answer.mapError ProviderError.write).map fun shared => [written, shared],
        { files
          collected := collectedWith .codexShared request.document request.projectRoot
            { workspace with files := made }
          log }) := by
  obtain ⟨told, ran⟩ := persistText_run workspace own
  unfold write
  rw [run_bind_ok (run_get workspace)]
  dsimp only
  rw [granted, run_bind_ok (run_ofExcept _ _), run_bind_ok ran, run_bind_ok (run_get _)]
  dsimp only
  split
  · rw [run_bind_ok (run_ofState _ _), say_run]
    exact share_run request written _ { workspace with files := made, log := _ } shared
  · exact share_run request written _ { workspace with files := made, log := told } shared

/-- Codex fails with its own file, or what comes of the shared one decides. -/
theorem write_inv {request : WriteRequest} {workspace after : Workspace}
    {answer : Except ProviderError (List WrittenArtifact)}
    (ran : (write request).run workspace = (answer, after)) :
    (∃ cause,
      Persist.outcome workspace.files (outputPath workspace.files request)
        (bodyText request.document) .direct = (.error cause, after.files) ∧
      answer = .error (.write cause) ∧ after.collected = workspace.collected) ∨
    ∃ own made sharedAnswer,
      Persist.outcome workspace.files (outputPath workspace.files request)
        (bodyText request.document) .direct = (.ok own, made) ∧
      Persist.outcome made
        (sharedPath (outputPath workspace.files request) request.projectRoot request.config made)
        ((collectedWith .codexShared request.document request.projectRoot
          { workspace with files := made } .codexShared).merged style
            (sharesFile request.config)).contents .atomic = (sharedAnswer, after.files) ∧
      answer = (sharedAnswer.mapError ProviderError.write).map (fun shared => [own, shared]) ∧
      after.collected = collectedWith .codexShared request.document request.projectRoot
        { workspace with files := made } := by
  rcases own : Persist.outcome workspace.files (outputPath workspace.files request)
    (bodyText request.document) .direct with ⟨cause | written, made⟩
  · obtain ⟨log, wrote⟩ := write_run_of_error request workspace own
    rw [wrote] at ran
    cases ran
    exact Or.inl ⟨cause, rfl, rfl, rfl⟩
  · rcases shared : Persist.outcome made
      (sharedPath (outputPath workspace.files request) request.projectRoot request.config made)
      ((collectedWith .codexShared request.document request.projectRoot
        { workspace with files := made } .codexShared).merged style
          (sharesFile request.config)).contents .atomic with ⟨sharedAnswer, files⟩
    obtain ⟨log, wrote⟩ := write_run_of_ok request workspace own shared
    rw [wrote] at ran
    cases ran
    exact Or.inr ⟨written, made, sharedAnswer, rfl, shared, rfl, rfl⟩

theorem ignoresLog_write (request : WriteRequest) :
    Workspace.IgnoresLog (write request).run := by
  unfold write
  apply Workspace.ignoresLog_get
  · intro first second alike
    rw [alike.files]
  · intro seen
    apply Respects.bindExcept (Workspace.ignoresLog_ofExcept _)
    intro _
    apply Respects.bindExcept (ignoresLog_persistText _ _ _)
    intro own
    apply Workspace.ignoresLog_get
    · intro first second alike
      rw [alike.files]
    · intro later
      dsimp only
      split
      · apply Respects.bindExcept (Workspace.ignoresLog_ofState (Workspace.ignoresLog_tell _))
        intro _
        exact ignoresLog_share request own _
      · exact ignoresLog_share request own _

end Codex

/-! ### All built-in providers -/

theorem Cursor.isRuleFile : IsRuleFile Cursor.provider .direct fun config document =>
    withFrontmatter (Cursor.entries config document) document.content where
  writing := rfl
  compile _ := rfl

theorem Windsurf.isRuleFile : IsRuleFile Windsurf.provider .direct Windsurf.contents where
  writing := rfl
  compile _ := rfl

theorem ClaudeCode.isRuleFile : IsRuleFile ClaudeCode.provider .atomic fun _ => bodyText where
  writing := rfl
  compile _ := rfl

theorem Copilot.isRuleFile : IsRuleFile Copilot.provider .direct fun config document =>
    withFrontmatter [("applyTo", .text (Copilot.appliesTo config document))] document.content where
  writing := rfl
  compile _ := rfl

theorem Cline.isRuleFile : IsRuleFile Cline.provider .direct fun _ => bodyText where
  writing := rfl
  compile _ := rfl

theorem RooCode.isRuleFile : IsRuleFile RooCode.provider .direct fun _ => bodyText where
  writing := rfl
  compile _ := rfl

theorem builtin_cases {provider : Provider} (member : provider ∈ builtin) :
    (∃ mode contents, IsRuleFile provider mode contents) ∨ provider = AgentsMd.provider ∨
      provider = Codex.provider := by
  simp only [builtin, List.mem_cons, List.not_mem_nil, or_false] at member
  rcases member with rfl | rfl | rfl | rfl | rfl | rfl | shared
  · exact Or.inl ⟨_, _, Cursor.isRuleFile⟩
  · exact Or.inl ⟨_, _, Windsurf.isRuleFile⟩
  · exact Or.inl ⟨_, _, ClaudeCode.isRuleFile⟩
  · exact Or.inl ⟨_, _, Copilot.isRuleFile⟩
  · exact Or.inl ⟨_, _, Cline.isRuleFile⟩
  · exact Or.inl ⟨_, _, RooCode.isRuleFile⟩
  · exact Or.inr shared

theorem ignoresLog_write {provider : Provider} (member : provider ∈ builtin)
    (request : WriteRequest) : Workspace.IgnoresLog (provider.write request).run := by
  rcases builtin_cases member with ⟨mode, contents, ruleFile⟩ | rfl | rfl
  · exact ruleFile.ignoresLog_write request
  · exact AgentsMd.ignoresLog_write request
  · exact Codex.ignoresLog_write request

theorem persisted_ne_refusal {α : Type} (answer : Except WriteError WrittenArtifact)
    (change : WrittenArtifact → α) (findings : List Diagnostic) :
    (answer.mapError ProviderError.write).map change ≠ .error (.compile findings) := by
  intro same
  cases answer with
  | error cause => cases same
  | ok written => cases same

/-- The ways in which a write of a built-in provider can go: it is refused before anything is done;
or one text is persisted, and its outcome is the answer; or two texts are, the second one after the
rule's own file of Codex is there. -/
theorem write_cases {provider : Provider} (member : provider ∈ builtin) (request : WriteRequest)
    (workspace : Workspace) :
    (∃ findings, (provider.write request).run workspace = (.error (.compile findings), workspace)) ∨
    (∃ contents mode answer files collected log,
      Persist.outcome workspace.files (provider.outputPath workspace.files request) contents mode =
        (answer, files) ∧
      (provider.write request).run workspace =
        ((answer.mapError ProviderError.write).map fun written => [written],
          { files, collected, log })) ∨
    (provider = Codex.provider ∧ ∃ own made path contents answer files collected log,
      Persist.outcome workspace.files (provider.outputPath workspace.files request)
        (bodyText request.document) .direct = (.ok own, made) ∧
      path = Codex.sharedPath (provider.outputPath workspace.files request) request.projectRoot
        request.config made ∧
      Persist.outcome made path contents .atomic = (answer, files) ∧
      (provider.write request).run workspace =
        ((answer.mapError ProviderError.write).map fun shared => [own, shared],
          { files, collected, log })) := by
  rcases builtin_cases member with ⟨mode, contents, ruleFile⟩ | rfl | rfl
  · rcases persisted : Persist.outcome workspace.files (provider.outputPath workspace.files request)
      (contents request.config request.document) mode with ⟨answer, files⟩
    rcases ruleFile.write_run request workspace persisted with refused | ⟨log, ran⟩
    · exact Or.inl refused
    · exact Or.inr (Or.inl ⟨_, _, answer, files, _, log, persisted, ran⟩)
  · rcases ran : (AgentsMd.provider.write request).run workspace with ⟨answer, after⟩
    obtain ⟨persistAnswer, persisted, rfl, _⟩ := AgentsMd.write_inv ran
    exact Or.inr (Or.inl
      ⟨_, _, persistAnswer, after.files, after.collected, after.log, persisted, rfl⟩)
  · rcases ran : (Codex.provider.write request).run workspace with ⟨answer, after⟩
    rcases Codex.write_inv ran with
      ⟨cause, own, rfl, _⟩ | ⟨own, made, sharedAnswer, ownPersisted, sharedPersisted, rfl, _⟩
    · exact Or.inr (Or.inl
        ⟨_, _, .error cause, after.files, after.collected, after.log, own, rfl⟩)
    · exact Or.inr (Or.inr ⟨rfl, own, made, _, _, sharedAnswer, after.files, after.collected,
        after.log, ownPersisted, rfl, sharedPersisted, rfl⟩)

/-- What a preparation asks of the rendering, as it answers in an empty workspace. -/
def templateFor (provider : Provider) (request : PrepareRequest) : TemplateOverrides :=
  match provider.preparation with
  | none => {}
  | some prepare =>
      match ((prepare request).run {}).1 with
      | .ok preparation => preparation.template
      | .error _ => {}

/-- A preparation leaves the project and the decision about rendering as they are; it answers the
same in every workspace, and it does no more than log. -/
structure PreparesQuietly (provider : Provider) : Prop where
  force : ∀ request, (provider.templateFor request).force = none
  answer : ∀ prepare, provider.preparation = some prepare → ∀ request workspace, ∃ log,
    (prepare request).run workspace =
      (.ok { template := provider.templateFor request }, { workspace with log })

theorem preparesQuietly_cursor : PreparesQuietly Cursor.provider where
  force _ := rfl
  answer prepare hook request workspace := by
    cases hook
    exact ⟨_, rfl⟩

theorem preparesQuietly_windsurf : PreparesQuietly Windsurf.provider where
  force request := by
    simp only [templateFor, Windsurf.provider, Windsurf.prepare]
    cases Windsurf.isXml request.destination with
    | true => rfl
    | false => rfl
  answer prepare hook request workspace := by
    cases hook
    simp only [templateFor, Windsurf.provider, Windsurf.prepare]
    cases Windsurf.isXml request.destination with
    | true => exact ⟨_, rfl⟩
    | false => exact ⟨workspace.log, rfl⟩

theorem preparesQuietly_of_none {provider : Provider} (none : provider.preparation = none) :
    PreparesQuietly provider where
  force request := by
    unfold templateFor
    rw [none]
  answer prepare hook := by
    rw [none] at hook
    cases hook

theorem preparesQuietly {provider : Provider} (member : provider ∈ builtin) :
    PreparesQuietly provider := by
  simp only [builtin, List.mem_cons, List.not_mem_nil, or_false] at member
  rcases member with rfl | rfl | rfl | rfl | rfl | rfl | rfl | rfl
  · exact preparesQuietly_cursor
  · exact preparesQuietly_windsurf
  all_goals exact preparesQuietly_of_none rfl

end Provider

end RuleCompiler

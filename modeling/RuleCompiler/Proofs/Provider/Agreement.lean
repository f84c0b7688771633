import RuleCompiler.Proofs.Provider.Calls
import RuleCompiler.Proofs.Provider.Formats

/-!
What the providers compile of what they are to write. A provider with a file for each rule gives its
text. Those with a shared file give the same texts and record the same documents both ways. But
Codex settles the path of the shared file only once the rule's own file is there, and it is another
one exactly where the path given for it is then judged otherwise.
-/

namespace RuleCompiler.Provider

/-- The request to compile what would be written. -/
def compileRequest (provider : Provider) (files : FileTree) (request : WriteRequest) :
    CompileRequest :=
  { document := request.document
    target := provider.target files request
    config := request.config
    projectRoot := request.projectRoot }

/-- One artifact, unless a capability of the target is missing. -/
theorem IsRuleFile.compile_run {provider : Provider} {mode : WriteMode}
    {contents : DestinationConfig → CompiledDocument → String}
    (ruleFile : IsRuleFile provider mode contents) (request : WriteRequest) (workspace : Workspace) :
    (provider.compile (provider.compileRequest workspace.files request)).run workspace =
      let target := provider.target workspace.files request
      ((ensureCapabilities provider.handshake target).map fun _ =>
          [{ target, contents := contents request.config request.document }],
        workspace) := by
  rw [ruleFile.compile]
  unfold single compileRequest
  dsimp only
  cases granted : ensureCapabilities provider.handshake (provider.target workspace.files request) with
  | error refused => rfl
  | ok => rfl

theorem collectedWith_congr (target : MergedTarget) (document : CompiledDocument)
    (projectRoot : Path) {before after : Workspace}
    (sameDirectory : after.files.workingPath = before.files.workingPath)
    (sameCollections : after.collected = before.collected) :
    collectedWith target document projectRoot after =
      collectedWith target document projectRoot before := by
  unfold collectedWith Workspace.collect
  dsimp only
  rw [sameDirectory, sameCollections]

theorem AgentsMd.compile_run (request : WriteRequest) (workspace : Workspace) :
    (AgentsMd.compile (AgentsMd.provider.compileRequest workspace.files request)).run workspace =
      let collected := collectedWith .agentsMd request.document request.projectRoot workspace
      let merged := (collected .agentsMd).merged AgentsMd.style (AgentsMd.emits request.config)
      (.ok
        [{ target := AgentsMd.provider.target workspace.files request
           contents := merged.contents
           diagnostics := merged.diagnostics }],
        { workspace with collected }) := by
  have granted : ensureCapabilities AgentsMd.handshake
      (AgentsMd.provider.target workspace.files request) = .ok () :=
    AgentsMd.granted _ request.config
  unfold AgentsMd.compile compileRequest
  rw [granted, run_bind_ok (run_ofExcept _ _), run_bind_ok (run_ofState _ _), collectAndMerge_run]
  rfl

theorem Codex.compile_run (request : WriteRequest) (workspace : Workspace) :
    (Codex.compile (Codex.provider.compileRequest workspace.files request)).run workspace =
      let collected := collectedWith .codexShared request.document request.projectRoot workspace
      let merged := (collected .codexShared).merged Codex.style (Codex.sharesFile request.config)
      (.ok
        [{ target := Codex.provider.target workspace.files request
           contents := bodyText request.document },
         { target :=
             { providerId := Codex.handshake.providerId
               outputPath := Codex.sharedPath (Codex.outputPath workspace.files request)
                 request.projectRoot request.config workspace.files
               capabilities := [Capability.contentAggregate] }
           contents := merged.contents }],
        { workspace with collected }) := by
  have granted : ensureCapabilities Codex.handshake
      (Codex.provider.target workspace.files request) = .ok () :=
    Codex.granted _ request.config
  unfold Codex.compile compileRequest
  rw [granted, run_bind_ok (run_ofExcept _ _), run_bind_ok (run_get _),
    run_bind_ok (run_ofState _ _), collectAndMerge_run]
  rfl

/-! ### The path of the shared file -/

/-- An output path that files are asked for is the same later if they give the same answer, or are
not needed. -/
theorem pathUnder_stat_eq_iff {before after : FileTree}
    (sameDirectory : after.workingPath = before.workingPath) (base : Path)
    (configured : Option String) {fallback : String} (isName : Path.IsName fallback) :
    pathUnder base configured fallback .stat after =
        pathUnder base configured fallback .stat before ↔
      OutputPath.looksLikeDirectory (OutputPath.candidate base configured).2 = true ∨
        after.isDirectory (OutputPath.candidate base configured).1 =
          before.isDirectory (OutputPath.candidate base configured).1 := by
  have absolute : before.workingPath.isAbsolute = true := Path.isAbsolute_ofNames _
  unfold pathUnder OutputPath.resolve
  rw [sameDirectory]
  generalize OutputPath.candidate base configured = candidate
  obtain ⟨path, text⟩ := candidate
  have longer := Path.absolutize_join_ne path absolute isName
  dsimp only
  cases looks : OutputPath.looksLikeDirectory text with
  | true => exact iff_of_true rfl (Or.inl rfl)
  | false =>
      cases after.isDirectory path with
      | true =>
          cases before.isDirectory path with
          | true => exact iff_of_true rfl (Or.inr rfl)
          | false => exact iff_of_false longer nofun
      | false =>
          cases before.isDirectory path with
          | true => exact iff_of_false longer.symm nofun
          | false => exact iff_of_true rfl (Or.inr rfl)

namespace Codex

theorem isName_sharedFile : Path.IsName "AGENTS.md" := ⟨rfl, by decide, by decide⟩

/-- The files once the rule's own file is there. -/
def withOwnFile (files : FileTree) (request : WriteRequest) : FileTree :=
  (Persist.outcome files (outputPath files request) (bodyText request.document) .direct).2

/-- The path given for the shared file, with the text by which it is judged. -/
def sharedCandidate (files : FileTree) (request : WriteRequest) : Path × String :=
  let directory := (outputPath files request).parent?.getD request.projectRoot
  OutputPath.candidate (directory.parent?.getD directory) (request.config.string? "sharedPath")

/-- The rule's own file does not decide where the shared file goes. -/
def SharesSteadily (files : FileTree) (request : WriteRequest) : Prop :=
  OutputPath.looksLikeDirectory (sharedCandidate files request).2 = true ∨
    (withOwnFile files request).isDirectory (sharedCandidate files request).1 =
      files.isDirectory (sharedCandidate files request).1

theorem sharedPath_eq_iff {files made : FileTree} {request : WriteRequest} {own : WrittenArtifact}
    (persisted : Persist.outcome files (outputPath files request) (bodyText request.document)
      .direct = (.ok own, made)) :
    sharedPath (outputPath files request) request.projectRoot request.config made =
        sharedPath (outputPath files request) request.projectRoot request.config files ↔
      SharesSteadily files request := by
  have isMade : withOwnFile files request = made := congrArg Prod.snd persisted
  have sameDirectory : made.workingPath = files.workingPath :=
    congrArg (Path.ofNames true) (Persist.workingDirectory_outcome persisted)
  unfold SharesSteadily
  rw [isMade]
  exact pathUnder_stat_eq_iff sameDirectory _ _ isName_sharedFile

end Codex

/-- A write that succeeds persists what is compiled from the same workspace, and the same documents
are recorded; except that Codex can write the shared file elsewhere, which it does exactly when the
rule's own file decides where. -/
theorem write_agrees_with_compile {provider : Provider}
    (merges : provider = AgentsMd.provider ∨ provider = Codex.provider) {request : WriteRequest}
    {workspace after : Workspace} {written : List WrittenArtifact}
    (ran : (provider.write request).run workspace = (.ok written, after)) :
    ∃ calls artifacts compiled,
      Persists workspace calls after ∧ Answered calls (.ok written) ∧
      (provider.compile (provider.compileRequest workspace.files request)).run workspace =
        (.ok artifacts, compiled) ∧
      compiled.collected = after.collected ∧
      (calls.map (fun call => (call.path, call.contents)) =
          artifacts.map (fun artifact => (artifact.target.outputPath, artifact.contents)) ↔
        (provider = Codex.provider → Codex.SharesSteadily workspace.files request)) := by
  rcases merges with rfl | rfl
  · have compiled := AgentsMd.compile_run request workspace
    obtain ⟨persistAnswer, persisted, answer, collected⟩ := AgentsMd.write_inv ran
    cases persistAnswer with
    | error failure => cases answer
    | ok told =>
        cases answer
        refine ⟨_, _, _, .single persisted, rfl, compiled, collected.symm, iff_of_true rfl ?_⟩
        intro isCodex
        exact absurd (congrArg Provider.id isCodex) (by decide)
  · have compiled := Codex.compile_run request workspace
    rcases Codex.write_inv ran with
      ⟨_, _, impossible, _⟩ |
      ⟨own, made, sharedAnswer, ownPersisted, sharedPersisted, answer, collected⟩
    · cases impossible
    · let between : Workspace := { workspace with files := made }
      have sameDirectory : between.files.workingPath = workspace.files.workingPath :=
        congrArg (Path.ofNames true) (Persist.workingDirectory_outcome ownPersisted)
      have sameCollected := collectedWith_congr .codexShared request.document request.projectRoot
        sameDirectory (rfl : between.collected = workspace.collected)
      cases sharedAnswer with
      | error failure => cases answer
      | ok shared =>
          cases answer
          have first : Persists workspace [_] between := .single ownPersisted
          refine ⟨_, _, _, first.append (.single sharedPersisted), rfl, compiled,
            sameCollected.symm.trans collected.symm, ?_⟩
          have samePath := Codex.sharedPath_eq_iff ownPersisted
          rw [sameCollected]
          constructor
          · intro same _
            have last := congrArg List.getLast? same
            exact samePath.mp (congrArg Prod.fst (Option.some.inj last))
          · intro steady
            change [_, (Codex.sharedPath _ _ _ made, _)] = [_, (Codex.sharedPath _ _ _ _, _)]
            rw [samePath.mpr (steady rfl)]
            rfl

/-- The shared file of a plain note lies above the directory of its own file. -/
theorem note_written_as_compiled :
    ∃ written after,
      (Codex.provider.write (noteRequest {})).run {} = (.ok written, after) ∧
      ∃ calls artifacts compiled,
        Persists {} calls after ∧ Answered calls (.ok written) ∧
        (Codex.provider.compile (Codex.provider.compileRequest {} (noteRequest {}))).run {} =
          (.ok artifacts, compiled) ∧
        compiled.collected = after.collected ∧
        calls.map (fun call => (call.path, call.contents)) =
          artifacts.map (fun artifact => (artifact.target.outputPath, artifact.contents)) := by
  have succeeds : ((Codex.provider.write (noteRequest {})).run {}).1.isOk = true := by
    decide +kernel
  have steady : Codex.SharesSteadily {} (noteRequest {}) := Or.inl (by decide +kernel)
  rcases ran : (Codex.provider.write (noteRequest {})).run {} with ⟨failure | written, after⟩
  · rw [ran] at succeeds
    cases succeeds
  · obtain ⟨calls, artifacts, compiled, persists, answered, compiles, collected, agree⟩ :=
      write_agrees_with_compile (Or.inr rfl) ran
    exact ⟨written, after, rfl, calls, artifacts, compiled, persists, answered, compiles, collected,
      agree.mpr fun _ => steady⟩

/-- The path given for the shared file is that of the directory that the note's own file needs. -/
def nestedConfig : DestinationConfig :=
  { fields := [("outputPath", .string "notes.d/x.md"), ("sharedPath", .string "notes.d")] }

theorem nested_note_shared_elsewhere :
    ((Codex.provider.write (noteRequest nestedConfig)).run {}).1.toOption.map
        (·.map (·.path.text)) =
      some ["/p/rules/notes.d/x.md", "/p/rules/notes.d/AGENTS.md"] ∧
    ((Codex.provider.compile (Codex.provider.compileRequest {}
        (noteRequest nestedConfig))).run {}).1.toOption.map
        (·.map (·.target.outputPath.text)) =
      some ["/p/rules/notes.d/x.md", "/p/rules/notes.d"] :=
  ⟨by decide +kernel, by decide +kernel⟩

end RuleCompiler.Provider

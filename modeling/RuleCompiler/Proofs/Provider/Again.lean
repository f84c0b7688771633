import RuleCompiler.Proofs.Artifact.Onward
import RuleCompiler.Proofs.Provider.OutputPath

/-!
Writing a document once more. The first write settled where its files go and what they hold; as long
as these can be read, the same write settles the same, finds every text in its place, and changes
neither files nor collections.
-/

namespace RuleCompiler

theorem Persist.outcome_again {files made later : FileTree} {path : Path} {contents : String}
    {mode : WriteMode} {told : WrittenArtifact} (normal : path.IsNormal)
    (persisted : outcome files path contents mode = (.ok told, made)) (holds : Holds later told) :
    outcome later path contents mode = (.ok told.unchanged, later) := by
  have shape := told_of_outcome persisted
  rw [shape] at holds ⊢
  exact outcome_of_holds normal.isAbsolute holds mode

namespace Provider

/-- What a write records, where it records anything. -/
def noteOf (request : WriteRequest) : Note :=
  { root := request.projectRoot
    source := request.document.source
    contents := request.document.content }

/-- A write that told of these artifacts, and that finds everything done later on. -/
structure Settles (note : Note) (write : Action ProviderError (List WrittenArtifact))
    (before after : Workspace) (written : List WrittenArtifact) : Prop where
  leaves : Leaves note before after written
  again : ∀ later, Workspace.Onward note after later →
    (∀ told ∈ written, Persist.Holds later.files told) →
    ∃ log, write.run later =
      (.ok (written.map WrittenArtifact.unchanged), { later with log })

variable {provider : Provider} {request : WriteRequest} {workspace after later : Workspace}
  {written : List WrittenArtifact}

theorem outputPath_later (member : provider ∈ builtin) (linkFree : workspace.files.LinkFree)
    (grows : FileTree.Grows workspace.files later.files)
    (normal : request.destination.IsNormal) {told : WrittenArtifact}
    (isPath : told.path = provider.outputPath workspace.files request)
    (holds : Persist.Holds later.files told) :
    provider.outputPath later.files request = provider.outputPath workspace.files request := by
  have absolute : told.path.isAbsolute = true := by
    rw [isPath]
    exact (isNormal_outputPath member workspace.files request).isAbsolute
  have notDirectory := holds.not_directory (grows.linkFree linkFree) absolute
  rw [isPath] at notDirectory
  exact outputPath_grown member linkFree grows normal notDirectory

theorem IsRuleFile.settles {mode : WriteMode}
    {contents : DestinationConfig → CompiledDocument → String}
    (ruleFile : IsRuleFile provider mode contents) (member : provider ∈ builtin)
    (linkFree : workspace.files.LinkFree) (rooted : workspace.files.Rooted)
    (normal : request.destination.IsNormal)
    (ran : (provider.write request).run workspace = (.ok written, after)) :
    Settles (noteOf request) (provider.write request) workspace after written := by
  have pathNormal := isNormal_outputPath member workspace.files request
  rcases ensureCapabilities_cases provider.handshake (provider.target workspace.files request) with
    ⟨findings, refused⟩ | granted
  · rw [ruleFile.write_run_of_refused request workspace refused] at ran
    cases ran
  · rcases persisted : Persist.outcome workspace.files
      (provider.outputPath workspace.files request) (contents request.config request.document)
        mode with ⟨answer, files⟩
    obtain ⟨log, wrote⟩ := ruleFile.write_run_of_granted request workspace granted persisted
    rw [wrote] at ran
    cases answer with
    | error cause => cases ran
    | ok told =>
        cases ran
        constructor
        · exact Leaves.ofOutcome linkFree rooted pathNormal persisted fun _ => Or.inl rfl
        · intro later onward holds
          have holdsTold := holds told List.mem_cons_self
          have grows := (Persist.outcome_grows persisted).trans onward.files
          have samePath := outputPath_later member linkFree grows normal
            (Persist.path_of_outcome persisted) holdsTold
          have again := Persist.outcome_again pathNormal persisted holdsTold
          rw [← samePath] at again
          exact ruleFile.write_run_of_granted request later granted again

theorem collectedWith_cases (target : MergedTarget) (request : WriteRequest)
    (workspace : Workspace) (other : MergedTarget) :
    collectedWith target request.document request.projectRoot workspace other =
        workspace.collected other ∨
      collectedWith target request.document request.projectRoot workspace other =
        (noteOf request).recordIn workspace.files.workingPath (workspace.collected other) := by
  by_cases same : other = target
  · rw [same]
    exact Or.inr (collectedWith_self target request.document request.projectRoot workspace)
  · exact Or.inl (if_neg same)

/-- Once a document is recorded, recording it again leaves all collections as they are. -/
theorem collectedWith_later (target : MergedTarget) (workspace : Workspace)
    (onward : Workspace.Onward (noteOf request) after later)
    (named : request.document.source.IsNamed)
    (samePath : after.files.workingPath = workspace.files.workingPath)
    (recorded : after.collected target =
      collectedWith target request.document request.projectRoot workspace target) :
    collectedWith target request.document request.projectRoot later = later.collected ∧
      collectedWith target request.document request.projectRoot later target =
        collectedWith target request.document request.projectRoot workspace target := by
  rw [collectedWith_self] at recorded
  have once : (noteOf request).recordIn after.files.workingPath (after.collected target) =
      after.collected target := by
    rw [recorded, samePath]
    exact Collection.record_record _ _ _ named _ _
  have kept := onward.collected_of_recorded once
  have unchanged : collectedWith target request.document request.projectRoot later =
      later.collected := by
    funext other
    by_cases same : other = target
    · rw [same, collectedWith_self]
      change (noteOf request).recordIn later.files.workingPath (later.collected target) = _
      rw [onward.workingPath, kept]
      exact once
    · exact if_neg same
  refine ⟨unchanged, ?_⟩
  rw [unchanged, kept, recorded, collectedWith_self]

theorem AgentsMd.settles (member : provider ∈ builtin) (isAgentsMd : provider = AgentsMd.provider)
    (named : request.document.source.IsNamed) (linkFree : workspace.files.LinkFree)
    (rooted : workspace.files.Rooted) (normal : request.destination.IsNormal)
    (ran : (provider.write request).run workspace = (.ok written, after)) :
    Settles (noteOf request) (provider.write request) workspace after written := by
  subst isAgentsMd
  have pathNormal := isNormal_outputPath member workspace.files request
  rcases persisted : Persist.outcome workspace.files (AgentsMd.outputPath workspace.files request)
    ((collectedWith .agentsMd request.document request.projectRoot workspace .agentsMd).merged
      AgentsMd.style (AgentsMd.emits request.config)).contents .atomic with ⟨answer, files⟩
  obtain ⟨log, wrote⟩ := AgentsMd.write_run request workspace persisted
  have sameRun := wrote.symm.trans ran
  cases answer with
  | error cause => cases sameRun
  | ok told =>
      cases sameRun
      have firstGrows := Persist.outcome_grows persisted
      constructor
      · exact Leaves.ofOutcome linkFree rooted pathNormal persisted
          (collectedWith_cases .agentsMd request workspace)
      · intro later onward holds
        have holdsTold := holds told List.mem_cons_self
        have samePath := outputPath_later member linkFree (firstGrows.trans onward.files) normal
          (Persist.path_of_outcome persisted) holdsTold
        have again := Persist.outcome_again pathNormal persisted holdsTold
        obtain ⟨unchanged, sameText⟩ := collectedWith_later .agentsMd workspace onward named
          (workingPath_grown firstGrows) rfl
        rw [← sameText, ← samePath] at again
        obtain ⟨laterLog, ranAgain⟩ := AgentsMd.write_run request later again
        refine ⟨laterLog, ?_⟩
        rw [unchanged] at ranAgain
        exact ranAgain

theorem Codex.sharedPath_later {made : FileTree} {ownPath projectRoot : Path}
    {config : DestinationConfig} (normal : ownPath.IsNormal) (linkFree : made.LinkFree)
    (rooted : made.Rooted) (grows : FileTree.Grows made later.files) {own shared : WrittenArtifact}
    (isOwnPath : own.path = ownPath) (holdsOwn : Persist.Holds later.files own)
    (isSharedPath : shared.path = Codex.sharedPath ownPath projectRoot config made)
    (holdsShared : Persist.Holds later.files shared) :
    Codex.sharedPath ownPath projectRoot config later.files =
      Codex.sharedPath ownPath projectRoot config made := by
  have laterLinkFree := grows.linkFree linkFree
  -- A file is read at the document's own path, so this is not the root.
  have notRoot : ownPath.names ≠ [] := by
    intro atRoot
    have noDirectory := holdsOwn.not_directory laterLinkFree (isOwnPath ▸ normal.isAbsolute)
    rw [isOwnPath, atRoot] at noDirectory
    exact noDirectory (grows.rooted rooted)
  have sharedNormal : (Codex.sharedPath ownPath projectRoot config made).IsNormal :=
    isNormal_pathUnder _ _ _ _ _
  have noDirectory := holdsShared.not_directory laterLinkFree
    (isSharedPath ▸ sharedNormal.isAbsolute)
  rw [isSharedPath] at noDirectory
  exact Codex.sharedPath_grown config normal notRoot linkFree grows noDirectory

theorem Codex.settles (member : provider ∈ builtin) (isCodex : provider = Codex.provider)
    (named : request.document.source.IsNamed) (linkFree : workspace.files.LinkFree)
    (rooted : workspace.files.Rooted) (normal : request.destination.IsNormal)
    (ran : (provider.write request).run workspace = (.ok written, after)) :
    Settles (noteOf request) (provider.write request) workspace after written := by
  subst isCodex
  have ownNormal : (Codex.outputPath workspace.files request).IsNormal :=
    isNormal_outputPath member workspace.files request
  rcases ownPersisted : Persist.outcome workspace.files (Codex.outputPath workspace.files request)
    (bodyText request.document) .direct with ⟨cause | own, made⟩
  · obtain ⟨log, failed⟩ := Codex.write_run_of_error request workspace ownPersisted
    cases failed.symm.trans ran
  · let midway : Workspace := { workspace with files := made }
    have ownGrows := Persist.outcome_grows ownPersisted
    have sharedNormal : (Codex.sharedPath (Codex.outputPath workspace.files request)
        request.projectRoot request.config made).IsNormal :=
      isNormal_pathUnder _ _ _ _ _
    rcases sharedPersisted : Persist.outcome made
      (Codex.sharedPath (Codex.outputPath workspace.files request) request.projectRoot
        request.config made)
      ((collectedWith .codexShared request.document request.projectRoot midway
        .codexShared).merged Codex.style (Codex.sharesFile request.config)).contents .atomic with
      ⟨answer, files⟩
    obtain ⟨log, wrote⟩ := Codex.write_run_of_ok request workspace ownPersisted sharedPersisted
    have sameRun := wrote.symm.trans ran
    cases answer with
    | error cause => cases sameRun
    | ok shared =>
        cases sameRun
        have sharedGrows := Persist.outcome_grows sharedPersisted
        constructor
        · have left : Leaves (noteOf request) workspace midway [own] :=
            Leaves.ofOutcome linkFree rooted ownNormal ownPersisted fun _ => Or.inl rfl
          have right : Leaves (noteOf request) midway
              { files
                collected := collectedWith .codexShared request.document request.projectRoot midway
                log } [shared] :=
            Leaves.ofOutcome (ownGrows.linkFree linkFree) (ownGrows.rooted rooted) sharedNormal
              sharedPersisted (collectedWith_cases .codexShared request midway)
          exact Leaves.append named linkFree left right
        · intro later onward holds
          have holdsOwn := holds own List.mem_cons_self
          have holdsShared := holds shared (List.mem_cons_of_mem own List.mem_cons_self)
          have laterGrows := sharedGrows.trans onward.files
          have samePath : Codex.outputPath later.files request =
              Codex.outputPath workspace.files request :=
            outputPath_later member linkFree (ownGrows.trans laterGrows) normal
              (Persist.path_of_outcome ownPersisted) holdsOwn
          have sameShared := Codex.sharedPath_later ownNormal (ownGrows.linkFree linkFree)
            (ownGrows.rooted rooted) laterGrows (Persist.path_of_outcome ownPersisted) holdsOwn
            (Persist.path_of_outcome sharedPersisted) holdsShared
          have ownAgain := Persist.outcome_again ownNormal ownPersisted holdsOwn
          have sharedAgain := Persist.outcome_again sharedNormal sharedPersisted holdsShared
          obtain ⟨unchanged, sameText⟩ := collectedWith_later .codexShared midway onward named
            (workingPath_grown sharedGrows) rfl
          rw [← sameText, ← sameShared, ← samePath] at sharedAgain
          rw [← samePath] at ownAgain
          obtain ⟨laterLog, ranAgain⟩ := Codex.write_run_of_ok request later ownAgain sharedAgain
          refine ⟨laterLog, ?_⟩
          rw [unchanged] at ranAgain
          exact ranAgain

/-- A write of a built-in provider that succeeded finds everything done later on. -/
theorem settles (member : provider ∈ builtin) (named : request.document.source.IsNamed)
    (linkFree : workspace.files.LinkFree) (rooted : workspace.files.Rooted)
    (normal : request.destination.IsNormal)
    (ran : (provider.write request).run workspace = (.ok written, after)) :
    Settles (noteOf request) (provider.write request) workspace after written := by
  rcases builtin_cases member with ⟨mode, contents, ruleFile⟩ | isAgentsMd | isCodex
  · exact ruleFile.settles member linkFree rooted normal ran
  · exact AgentsMd.settles member isAgentsMd named linkFree rooted normal ran
  · exact Codex.settles member isCodex named linkFree rooted normal ran

end Provider

end RuleCompiler

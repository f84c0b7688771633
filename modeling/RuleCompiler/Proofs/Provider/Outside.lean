import RuleCompiler.Proofs.Artifact.Persist
import RuleCompiler.Proofs.FileTree.Abreast
import RuleCompiler.Proofs.Provider.Accounting

/-!
Writing in two workspaces whose files agree outside some places. A built-in provider whose paths
avoid these places answers the same in both, and the files still agree outside afterwards. What a
provider looks at besides its output paths is whether a directory exists where one is configured.
-/

namespace RuleCompiler

open FileTree

variable {places : List (List String)} {origin : FileTree}

/-! ### Persisting -/

namespace Persist

variable {first second : FileTree} {path : Path}

theorem existing?_abreast (abreast : FileTree.Abreast origin places first second)
    (avoids : origin.Avoids places path) : existing? first path = existing? second path := by
  have same := locate_abreast abreast avoids true
  unfold existing? stat
  generalize first.locate true path = walked, second.locate true path = again at same
  cases same with
  | failed cause => rfl
  | free slash outside => rfl
  | file contents outside => rfl
  | link target outside => rfl
  | directory entries others outside => rfl

theorem avoids_directoryOf (normal : path.IsNormal) (avoids : origin.Avoids places path) :
    (directoryOf path).IsNormal ∧ origin.Avoids places (directoryOf path) := by
  obtain ⟨names, areNames, rfl⟩ := normal
  unfold directoryOf
  rcases List.eq_nil_or_concat names with empty | ⟨above, name, split⟩
  · subst empty
    exact ⟨⟨[], areNames, rfl⟩, avoids⟩
  · rw [List.concat_eq_append] at split
    subst split
    rw [Path.parent?_ofNames areNames, Option.getD_some]
    exact ⟨⟨above, areNames.ofAppend.1, rfl⟩,
      avoids.above areNames (List.prefix_append above [name])⟩

/-- Putting a text does the same in both trees, also where it fails halfway. -/
theorem placed_abreast (abreast : FileTree.Abreast origin places first second)
    (avoids : origin.Avoids places path) (contents : String) (mode : WriteMode) :
    (placed mode first path contents).1 = (placed mode second path contents).1 ∧
      FileTree.Abreast origin places (placed mode first path contents).2
        (placed mode second path contents).2 := by
  unfold placed
  cases mode with
  | direct =>
      obtain ⟨sameAnswer, stillAbreast⟩ := overwrite_abreast abreast avoids (.text contents)
      unfold toldAs
      rw [sameAnswer]
      exact ⟨rfl, stillAbreast⟩
  | atomic =>
      have sameTemporary : fillTemporary first path = fillTemporary second path := by
        unfold fillTemporary fitsTemporary temporaryPath
        rw [abreast.alike.host]
      dsimp only
      rw [sameTemporary]
      cases fillTemporary second path with
      | error failure => exact ⟨rfl, abreast⟩
      | ok _ =>
          obtain ⟨sameAnswer, stillAbreast⟩ := replace_abreast abreast avoids (.text contents)
          unfold toldAs
          rw [sameAnswer]
          exact ⟨rfl, stillAbreast⟩

theorem outcome_abreast (abreast : FileTree.Abreast origin places first second)
    (normal : path.IsNormal) (avoids : origin.Avoids places path) (contents : String)
    (mode : WriteMode) :
    (outcome first path contents mode).1 = (outcome second path contents mode).1 ∧
      FileTree.Abreast origin places (outcome first path contents mode).2
        (outcome second path contents mode).2 := by
  obtain ⟨aboveNormal, aboveAvoids⟩ := avoids_directoryOf normal avoids
  unfold outcome
  rw [existing?_abreast abreast avoids]
  split
  · split
    · exact ⟨rfl, abreast⟩
    · split
      · exact ⟨rfl, abreast⟩
      · obtain ⟨sameAnswer, stillAbreast⟩ :=
          createDirectories_abreast abreast aboveNormal aboveAvoids
        generalize first.createDirectories (directoryOf path) = made,
          second.createDirectories (directoryOf path) = again at sameAnswer stillAbreast ⊢
        obtain ⟨answer, one⟩ := made
        obtain ⟨otherAnswer, other⟩ := again
        obtain rfl : answer = otherAnswer := sameAnswer
        cases answer with
        | error cause => exact ⟨rfl, stillAbreast⟩
        | ok made =>
            dsimp only
            obtain ⟨samePut, finallyAbreast⟩ := placed_abreast stillAbreast avoids contents mode
            generalize placed mode one path contents = put,
              placed mode other path contents = putAgain at samePut finallyAbreast ⊢
            obtain ⟨putAnswer, left⟩ := put
            obtain ⟨putAgainAnswer, leftAgain⟩ := putAgain
            obtain rfl : putAnswer = putAgainAnswer := samePut
            cases putAnswer with
            | error failure => exact ⟨rfl, finallyAbreast⟩
            | ok _ => exact ⟨rfl, finallyAbreast⟩
  · exact ⟨rfl, abreast⟩

end Persist

/-! ### Workspaces -/

namespace Workspace

/-- Workspaces with the same collections, whose files agree outside. -/
structure Abreast (origin : FileTree) (places : List (List String)) (first second : Workspace) :
    Prop where
  files : FileTree.Abreast origin places first.files second.files
  collected : first.collected = second.collected

theorem Abreast.ofAlike {first second one other : Workspace}
    (abreast : Abreast origin places first second) (oneAlike : one.Alike first)
    (otherAlike : other.Alike second) : Abreast origin places one other where
  files := by
    rw [oneAlike.files, otherAlike.files]
    exact abreast.files
  collected := by
    rw [oneAlike.collected, otherAlike.collected]
    exact abreast.collected

theorem respects_tell (record : LogRecord) : Respects (Abreast origin places) (tell record) :=
  fun _ _ abreast => ⟨rfl, abreast.files, abreast.collected⟩

theorem respects_collect (target : MergedTarget) (root : Path) (source : DocumentSource)
    (contents : String) (diagnostics : List Diagnostic) :
    Respects (Abreast origin places) (collect target root source contents diagnostics) := by
  intro first second abreast
  unfold collect
  rw [abreast.collected, abreast.files.alike.workingPath]
  exact ⟨rfl, abreast.files, rfl⟩

end Workspace

namespace Provider

open Workspace (respects_tell respects_collect)

theorem respects_persistText {path : Path} (normal : path.IsNormal)
    (avoids : origin.Avoids places path) (contents : String) (mode : WriteMode) :
    Respects (Workspace.Abreast origin places) (persistText path contents mode).run := by
  intro first second abreast
  have same := Persist.outcome_abreast abreast.files normal avoids contents mode
  rcases inFirst : Persist.outcome first.files path contents mode with ⟨answer, made⟩
  rcases inSecond : Persist.outcome second.files path contents mode with ⟨otherAnswer, otherMade⟩
  rw [inFirst, inSecond] at same
  obtain ⟨rfl, stillAbreast⟩ := same
  obtain ⟨firstLog, firstRan⟩ := persistText_run first inFirst
  obtain ⟨secondLog, secondRan⟩ := persistText_run second inSecond
  rw [firstRan, secondRan]
  exact ⟨rfl, stillAbreast, abreast.collected⟩

/-! ### Paths -/

theorem pathUnder_abreast {first second : FileTree}
    (abreast : FileTree.Abreast origin places first second) (base : Path)
    (configured : Option String) (fallback : String) (check : DirectoryCheck)
    (looks : check = .stat → origin.Avoids places (OutputPath.candidate base configured).1) :
    pathUnder base configured fallback check first =
      pathUnder base configured fallback check second := by
  unfold pathUnder OutputPath.resolve
  rw [abreast.alike.workingPath]
  cases check with
  | lexical => rfl
  | stat =>
      generalize OutputPath.candidate base configured = candidate at looks ⊢
      obtain ⟨path, text⟩ := candidate
      dsimp only
      rw [isDirectory_abreast abreast (looks rfl)]

/-- A path avoids some places in every tree if it does with and without a directory there. -/
theorem avoids_pathUnder {base : Path} {configured : Option String} {fallback : String}
    {check : DirectoryCheck}
    (either : ∀ isDirectory : Bool, origin.Avoids places
      (OutputPath.resolve origin.workingPath (fun _ => isDirectory) base configured fallback check))
    (files : FileTree) (here : files.workingDirectory = origin.workingDirectory) :
    origin.Avoids places (pathUnder base configured fallback check files) := by
  have samePath : files.workingPath = origin.workingPath := congrArg (Path.ofNames true) here
  unfold pathUnder
  rw [samePath]
  exact either (files.isDirectory (OutputPath.candidate base configured).1)

/-- The providers that look whether a directory exists where their output is configured. -/
def lookingIds : List String :=
  [Windsurf.handshake.providerId, ClaudeCode.handshake.providerId, AgentsMd.handshake.providerId,
    Codex.handshake.providerId]

namespace Codex

/-- The directory that the path of the shared file starts from. -/
def sharedBase (own projectRoot : Path) : Path :=
  let directory := own.parent?.getD projectRoot
  directory.parent?.getD directory

theorem sharedPath_eq (own projectRoot : Path) (config : DestinationConfig) (files : FileTree) :
    sharedPath own projectRoot config files =
      pathUnder (sharedBase own projectRoot) (config.string? "sharedPath") "AGENTS.md" .stat
        files :=
  rfl

/-- Wherever directories exist, the shared file and the path configured for it avoid some places. -/
structure SharesOutside (origin : FileTree) (places : List (List String)) (request : WriteRequest) :
    Prop where
  shared : ∀ files later : FileTree, files.workingDirectory = origin.workingDirectory →
    later.workingDirectory = origin.workingDirectory →
    origin.Avoids places
      (sharedPath (outputPath files request) request.projectRoot request.config later)
  candidate : ∀ files : FileTree, files.workingDirectory = origin.workingDirectory →
    origin.Avoids places
      (OutputPath.candidate (sharedBase (outputPath files request) request.projectRoot)
        (request.config.string? "sharedPath")).1

end Codex

/-- Through none of some places leads the way to an output path that the destination can have, nor
to a path where its provider looks for a directory. -/
structure StaysOutside (origin : FileTree) (places : List (List String)) (provider : Provider)
    (request : WriteRequest) : Prop where
  output : ∀ files : FileTree, files.workingDirectory = origin.workingDirectory →
    origin.Avoids places (provider.outputPath files request)
  candidate : provider.id ∈ lookingIds →
    origin.Avoids places
      (OutputPath.candidate request.destination request.config.outputOverride?).1
  shared : provider.id = Codex.handshake.providerId →
    Codex.SharesOutside origin places request

/-- A provider that shares no file stays outside if it does with and without a directory where it
may look for one. -/
theorem StaysOutside.ofEither {provider : Provider} {request : WriteRequest} {base : Path}
    {fallback : String} {check : DirectoryCheck}
    (path : ∀ files, provider.outputPath files request =
      pathUnder base request.config.outputOverride? fallback check files)
    (either : ∀ isDirectory : Bool, origin.Avoids places
      (OutputPath.resolve origin.workingPath (fun _ => isDirectory) base
        request.config.outputOverride? fallback check))
    (candidate : provider.id ∈ lookingIds → origin.Avoids places
      (OutputPath.candidate request.destination request.config.outputOverride?).1)
    (unshared : provider.id ≠ Codex.handshake.providerId) :
    StaysOutside origin places provider request where
  output files here := by
    rw [path]
    exact avoids_pathUnder either files here
  candidate := candidate
  shared isCodex := absurd isCodex unshared

section Write

variable {provider : Provider} {request : WriteRequest}

theorem lexical_ne_stat : DirectoryCheck.lexical ≠ .stat := by decide

theorem outputPath_abreast (member : provider ∈ builtin)
    (stays : StaysOutside origin places provider request) {first second : FileTree}
    (abreast : FileTree.Abreast origin places first second) :
    provider.outputPath first request = provider.outputPath second request := by
  have candidate := stays.candidate
  simp only [builtin, List.mem_cons, List.not_mem_nil, or_false] at member
  rcases member with rfl | rfl | rfl | rfl | rfl | rfl | rfl | rfl
  · exact pathUnder_abreast abreast _ _ _ _ fun isStat => absurd isStat lexical_ne_stat
  · exact pathUnder_abreast abreast _ _ _ _ fun _ => candidate (by decide)
  · exact pathUnder_abreast abreast _ _ _ _ fun _ => candidate (by decide)
  · exact pathUnder_abreast abreast _ _ _ _ fun isStat => absurd isStat lexical_ne_stat
  · exact pathUnder_abreast abreast _ _ _ _ fun isStat => absurd isStat lexical_ne_stat
  · exact pathUnder_abreast abreast _ _ _ _ fun isStat => absurd isStat lexical_ne_stat
  · exact pathUnder_abreast abreast _ _ _ _ fun _ => candidate (by decide)
  · exact pathUnder_abreast abreast _ _ _ _ fun _ => candidate (by decide)

theorem workingDirectory_abreast {first second : FileTree}
    (abreast : FileTree.Abreast origin places first second) :
    second.workingDirectory = origin.workingDirectory :=
  abreast.alike.workingDirectory.symm.trans abreast.links.workingDirectory

theorem respects_collectAndMerge (target : MergedTarget) (style : CollectionStyle) (emit : Bool)
    (document : CompiledDocument) (projectRoot : Path) :
    Respects (Workspace.Abreast origin places)
      (collectAndMerge target style emit document projectRoot) := by
  apply Respects.bind (respects_collect _ _ _ _ _)
  intro _
  exact Respects.pure _

theorem IsRuleFile.respects_write {mode : WriteMode}
    {contents : DestinationConfig → CompiledDocument → String}
    (ruleFile : IsRuleFile provider mode contents) (member : provider ∈ builtin)
    (stays : StaysOutside origin places provider request) :
    Respects (Workspace.Abreast origin places) (provider.write request).run := by
  rw [ruleFile.write_eq]
  apply Respects.get
  · intro first second abreast
    unfold target
    rw [outputPath_abreast member stays abreast.files]
  · intro first second abreast
    apply Respects.bindExcept (Respects.ofExcept _)
    intro _
    apply Respects.bindExcept
    · exact respects_persistText (isNormal_outputPath member _ _)
        (stays.output _ (workingDirectory_abreast abreast.files)) _ _
    · intro _
      exact Respects.pure _

theorem AgentsMd.respects_write (stays : StaysOutside origin places AgentsMd.provider request) :
    Respects (Workspace.Abreast origin places) (AgentsMd.write request).run := by
  have member : AgentsMd.provider ∈ builtin := by simp [builtin]
  unfold AgentsMd.write
  apply Respects.get
  · intro first second abreast
    have same := outputPath_abreast member stays abreast.files
    change AgentsMd.outputPath first.files request = AgentsMd.outputPath second.files request
      at same
    rw [same]
  · intro first second abreast
    apply Respects.bindExcept (Respects.ofExcept _)
    intro _
    apply Respects.bindExcept (Respects.ofState (respects_collectAndMerge _ _ _ _ _))
    intro merged
    apply Respects.bindExcept (Respects.ofState (respects_tell _))
    intro _
    apply Respects.bindExcept
    · exact respects_persistText (isNormal_outputPath member _ _)
        (stays.output _ (workingDirectory_abreast abreast.files)) _ _
    · intro written
      split
      · apply Respects.bindExcept (Respects.ofState (respects_tell _))
        intro _
        exact Respects.pure _
      · exact Respects.pure _

namespace Codex

theorem respects_share (own : WrittenArtifact) {path : Path} (normal : path.IsNormal)
    (avoids : origin.Avoids places path) :
    Respects (Workspace.Abreast origin places) (share request own path).run := by
  apply Respects.bindExcept (Respects.ofState (respects_collectAndMerge _ _ _ _ _))
  intro merged
  apply Respects.bindExcept (respects_persistText normal avoids _ _)
  intro shared
  exact Respects.pure _

theorem respects_write (stays : StaysOutside origin places Codex.provider request) :
    Respects (Workspace.Abreast origin places) (Codex.write request).run := by
  have member : Codex.provider ∈ builtin := by simp [builtin]
  have shares := stays.shared rfl
  unfold Codex.write
  apply Respects.get
  · intro first second abreast
    have same := outputPath_abreast member stays abreast.files
    change Codex.outputPath first.files request = Codex.outputPath second.files request at same
    rw [same]
  · intro first second abreast
    have here := workingDirectory_abreast abreast.files
    apply Respects.bindExcept (Respects.ofExcept _)
    intro _
    apply Respects.bindExcept
    · exact respects_persistText (isNormal_outputPath member _ _) (stays.output _ here) _ _
    · intro own
      apply Respects.get
      · intro one other laterAbreast
        rw [sharedPath_eq, sharedPath_eq,
          pathUnder_abreast laterAbreast.files _ _ _ _ fun _ => shares.candidate _ here]
      · intro one other laterAbreast
        have avoids := shares.shared _ _ here (workingDirectory_abreast laterAbreast.files)
        have normal : (sharedPath (outputPath second.files request) request.projectRoot
            request.config other.files).IsNormal := isNormal_pathUnder _ _ _ _ _
        dsimp only
        split
        · apply Respects.bindExcept (Respects.ofState (respects_tell _))
          intro _
          exact respects_share own normal avoids
        · exact respects_share own normal avoids

end Codex

/-- A built-in provider that stays outside writes the same in both workspaces. -/
theorem respects_write (member : provider ∈ builtin)
    (stays : StaysOutside origin places provider request) :
    Respects (Workspace.Abreast origin places) (provider.write request).run := by
  rcases builtin_cases member with ⟨mode, contents, ruleFile⟩ | rfl | rfl
  · exact ruleFile.respects_write member stays
  · exact AgentsMd.respects_write stays
  · exact Codex.respects_write stays

end Write

end Provider

end RuleCompiler

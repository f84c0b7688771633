import RuleCompiler.Proofs.FileTree.Links
import RuleCompiler.Proofs.Provider.Agreement
import RuleCompiler.Proofs.Provider.OutputPath
import RuleCompiler.Proofs.Provider.Placement

/-!
Where Codex puts the shared file. It lies beside the directory of the rule's own file, since what
holds that directory is one itself by then, whatever its name. A path that is configured for the
shared file starts there only if that name has no extension; otherwise it starts one directory
higher, for then the text alone is judged.
-/

namespace RuleCompiler

namespace Persist

variable {files after : FileTree} {told : WrittenArtifact} {contents : String}

/-- Once a text is persisted in place, there is a directory two names above it. -/
theorem isDirectory_above {above : List String} {directory name : String}
    (areNames : Path.AreNames (above ++ [directory] ++ [name]))
    (persisted : outcome files (Path.ofNames true (above ++ [directory] ++ [name])) contents
      .direct = (.ok told, after)) :
    after.isDirectory (Path.ofNames true above) = true := by
  have absolute := Path.isAbsolute_ofNames (above ++ [directory] ++ [name])
  have long : 2 ≤ (above ++ [directory] ++ [name]).length := by
    rw [List.length_append, List.length_append, List.length_singleton, List.length_singleton]
    omega
  cases outcome_ends persisted with
  | unchanged same isText _ =>
      subst same
      obtain ⟨names, located⟩ := FileTree.stat_file_iff.mp (existing?_eq_some isText)
      have rooted := FileTree.rooted_of_locate areNames long located
      exact FileTree.isDirectory_above areNames rooted located
  | written _ located takes put =>
      -- Written in place, the file lies behind all links on its way, so it hides none of them.
      subst put
      rw [decide_eq_true rfl] at located
      have rooted := FileTree.rooted_of_locate areNames long located
      have offLinks := FileTree.locate_offLinks rooted absolute located
      have kept := FileTree.keepsWays_put_file (FileTree.locate_sound located) takes offLinks
        (.text contents)
      exact FileTree.isDirectory_kept kept (Path.isAbsolute_ofNames above)
        (FileTree.isDirectory_above areNames rooted located)

end Persist

namespace OutputPath

/-- Where a path starts that is configured under a normalized base. -/
theorem baseDirectory_of_isNormal {base : Path} (normal : base.IsNormal) :
    baseDirectory base = if base.extension?.isNone then base else base.parent?.getD base := by
  unfold baseDirectory
  rw [looksLikeDirectory_of_isNormal normal]
  split
  · rfl
  · next extended =>
      have notRoot : base.names ≠ [] := by
        obtain ⟨names, areNames, rfl⟩ := normal
        rw [Path.names_ofNames areNames]
        rintro rfl
        exact extended rfl
      obtain ⟨parent, isParent, _⟩ := normal.parent?_isNormal notRoot
      rw [isParent, Option.getD_some, Option.getD_some]

theorem override?_of_trimmed {configured : Option String} {text : String}
    (isSet : configured.map Text.trimmed = some text) (some : text ≠ "") :
    override? configured = .some text := by
  obtain ⟨given, rfl, trimmed⟩ := Option.map_eq_some_iff.mp isSet
  unfold override?
  rw [Option.bind_some]
  dsimp only
  rw [trimmed, if_neg some]

end OutputPath

namespace Provider

theorem pathUnder_of_file {base : Path} {configured : Option String} {text : String}
    (isSet : configured.map Text.trimmed = some text)
    (extended : (Path.mk text).extension?.isSome = true)
    (noSlash : text.toList.getLast? ≠ some '/') {files : FileTree}
    (notDirectory : files.isDirectory ((OutputPath.baseDirectory base).join text) = false)
    (fallback : String) :
    pathUnder base configured fallback .stat files =
      ((OutputPath.baseDirectory base).join text).absolutize files.workingPath := by
  have some : text ≠ "" := by
    rintro rfl
    cases extended
  have looks : OutputPath.looksLikeDirectory text = false := by
    unfold OutputPath.looksLikeDirectory
    rw [beq_eq_false_iff_ne.mpr noSlash, Bool.false_or, ← Option.not_isSome, extended]
    rfl
  unfold pathUnder OutputPath.resolve OutputPath.candidate
  rw [OutputPath.override?_of_trimmed isSet some]
  dsimp only
  rw [looks, notDirectory]
  rfl

namespace Codex

/-- The shared file of a rule at `above/directory/name` is settled from `above`. -/
theorem sharedPath_of_own {above : Path} (normal : above.IsNormal) {directory name : String}
    (isDirectory : Path.IsName directory) (isName : Path.IsName name) (projectRoot : Path)
    (config : DestinationConfig) (files : FileTree) :
    sharedPath ((above.join directory).join name) projectRoot config files =
      pathUnder above (config.string? "sharedPath") "AGENTS.md" .stat files := by
  obtain ⟨names, areNames, rfl⟩ := normal
  have inAbove := areNames.concat isDirectory
  have inDirectory := inAbove.concat isName
  unfold sharedPath
  rw [Path.join_ofNames names inAbove, Path.join_ofNames _ inDirectory,
    Path.parent?_ofNames inDirectory, Option.getD_some]
  dsimp only
  rw [Path.parent?_ofNames inAbove, Option.getD_some]

theorem isDirectory_above {above : Path} (normal : above.IsNormal) {directory name : String}
    (isDirectory : Path.IsName directory) (isName : Path.IsName name) {files made : FileTree}
    {contents : String} {told : WrittenArtifact}
    (persisted : Persist.outcome files ((above.join directory).join name) contents .direct =
      (.ok told, made)) :
    made.isDirectory above = true := by
  obtain ⟨names, areNames, rfl⟩ := normal
  have inAbove := areNames.concat isDirectory
  have inDirectory := inAbove.concat isName
  rw [Path.join_ofNames names inAbove, Path.join_ofNames _ inDirectory] at persisted
  exact Persist.isDirectory_above inDirectory persisted

/-- The shared file lies beside the directory of the rule's own file. A file that is configured for
it starts there, or one directory higher where the name of what holds that directory has an
extension. -/
theorem shared_beside_directory {request : WriteRequest} {workspace after : Workspace}
    {written : List WrittenArtifact}
    (ran : (provider.write request).run workspace = (.ok written, after)) {above : Path}
    (normal : above.IsNormal) {directory name : String} (isDirectory : Path.IsName directory)
    (isName : Path.IsName name)
    (ownPath : written.head?.map WrittenArtifact.path = some ((above.join directory).join name)) :
    let configured := request.config.string? "sharedPath"
    let start := if above.extension?.isNone then above else above.parent?.getD above
    ∃ own shared, written = [own, shared] ∧
      ((∀ text, configured = some text → Text.trimmed text = "") →
        shared.path = above.join "AGENTS.md") ∧
      ∀ text, configured.map Text.trimmed = some text →
        (Path.mk text).extension?.isSome = true → text.toList.getLast? ≠ some '/' →
        (withOwnFile workspace.files request).isDirectory (start.join text) = false →
          shared.path = (start.join text).normalize := by
  intro configured start
  rcases write_inv ran with
    ⟨_, _, impossible, _⟩ | ⟨own, made, sharedAnswer, ownPersisted, sharedPersisted, answer, _⟩
  · cases impossible
  · cases sharedAnswer with
    | error failure => cases answer
    | ok shared =>
        cases answer
        have isMade : withOwnFile workspace.files request = made := congrArg Prod.snd ownPersisted
        have outputEq : outputPath workspace.files request = (above.join directory).join name :=
          (Persist.path_of_outcome ownPersisted).symm.trans (Option.some.inj ownPath)
        have sharedEq := Persist.path_of_outcome sharedPersisted
        rw [outputEq, sharedPath_of_own normal isDirectory isName] at sharedEq
        rw [outputEq] at ownPersisted
        have startEq : OutputPath.baseDirectory above = start :=
          OutputPath.baseDirectory_of_isNormal normal
        have startAbsolute : start.isAbsolute = true := by
          rw [← startEq]
          exact OutputPath.isAbsolute_baseDirectory normal.isAbsolute
        refine ⟨own, shared, rfl, ?_, ?_⟩
        · intro blank
          have isThere := isDirectory_above normal isDirectory isName ownPersisted
          have beside := normal.join isName_sharedFile
          rw [sharedEq, pathUnder_of_blank blank (Or.inr ⟨rfl, isThere⟩),
            Path.absolutize_eq_normalize beside.isAbsolute, beside.normalize_eq]
        · intro text isSet extended noSlash notDirectory
          rw [isMade, ← startEq] at notDirectory
          rw [sharedEq, pathUnder_of_file isSet extended noSlash notDirectory, startEq]
          exact Path.absolutize_eq_normalize (Path.isAbsolute_join startAbsolute text) _

/-- A plain note, with a path for the shared file. -/
def sharingRequest (sharedPath : String) : WriteRequest :=
  noteRequest { fields := [("sharedPath", .string sharedPath)] }

theorem note_shared_beside_directory :
    ∃ written after,
      (provider.write (sharingRequest " docs/SHARED.md")).run {} = (.ok written, after) ∧
      (Path.mk "/p").IsNormal ∧ Path.IsName "rules" ∧ Path.IsName "a.md" ∧
      written.head?.map WrittenArtifact.path = some (((Path.mk "/p").join "rules").join "a.md") ∧
      written.map WrittenArtifact.path = [⟨"/p/rules/a.md"⟩, ⟨"/p/docs/SHARED.md"⟩] := by
  have normal : (Path.mk "/p").IsNormal := by
    refine ⟨["p"], ?_, rfl⟩
    intro name member
    rw [List.mem_singleton.mp member]
    exact ⟨rfl, by decide, by decide⟩
  have rules : Path.IsName "rules" := ⟨rfl, by decide, by decide⟩
  have note : Path.IsName "a.md" := ⟨rfl, by decide, by decide⟩
  have first : (((provider.write (sharingRequest " docs/SHARED.md")).run {}).1.toOption.bind
      List.head?).map WrittenArtifact.path = some ⟨"/p/rules/a.md"⟩ := by
    decide +kernel
  have notDirectory : (withOwnFile {} (sharingRequest " docs/SHARED.md")).isDirectory
      ((Path.mk "/p").join "docs/SHARED.md") = false := by
    decide +kernel
  rcases ran : (provider.write (sharingRequest " docs/SHARED.md")).run {} with
    ⟨failure | written, after⟩
  · rw [ran] at first
    cases first
  · rw [ran] at first
    obtain ⟨own, shared, rfl, _, configured⟩ :=
      shared_beside_directory ran normal rules note first
    have sharedEq := configured "docs/SHARED.md" (by decide) (by decide +kernel) (by decide)
      notDirectory
    have ownEq : own.path = ⟨"/p/rules/a.md"⟩ := Option.some.inj first
    refine ⟨_, after, rfl, normal, rules, note, first, ?_⟩
    rw [List.map_cons, List.map_singleton, ownEq, sharedEq]
    decide +kernel

/-- In a project whose name has an extension, a path for the shared file leads out of it. -/
theorem shared_beside_versioned_project :
    let request : WriteRequest :=
      { noteRequest
          { fields :=
              [("outputPath", .string "../a.md"), ("sharedPath", .string "SHARED.md")] } with
        destination := ⟨"/proj.v2/.codex/rules"⟩
        projectRoot := ⟨"/proj.v2"⟩ }
    ((provider.write request).run {}).1.toOption.map (·.map WrittenArtifact.path) =
        some [((Path.mk "/proj.v2").join ".codex").join "a.md", ⟨"/SHARED.md"⟩] ∧
      (withOwnFile {} request).isDirectory ((Path.mk "/proj.v2").join "SHARED.md") = false ∧
      ((Path.mk "/proj.v2").join "SHARED.md").normalize = ⟨"/proj.v2/SHARED.md"⟩ := by
  decide +kernel

end Codex

end Provider

end RuleCompiler

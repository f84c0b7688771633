import RuleCompiler.Proofs.Artifact.Again
import RuleCompiler.Proofs.Provider.Writing

/-!
Which files a provider changes, and what it tells about them. Every output path is normalized, so in
a tree without links it names the one file that persisting can change. A write that succeeds tells
of every file that it changed. One that fails has changed none, with two exceptions: the system may
have broken off a write in place, and Codex may have written the rule's own file before the shared
file failed.
-/

namespace RuleCompiler

def Told (artifacts : List WrittenArtifact) (names : List String) : Prop :=
  ∃ artifact ∈ artifacts, artifact.path = Path.ofNames true names ∧ artifact.status = .written

namespace Provider

theorem isNormal_pathUnder (base : Path) (configured : Option String) (fallback : String)
    (check : DirectoryCheck) (files : FileTree) :
    (pathUnder base configured fallback check files).IsNormal :=
  Path.isNormal_absolutize _ (Path.isAbsolute_ofNames files.workingDirectory)

theorem isNormal_outputPath {provider : Provider} (member : provider ∈ builtin) (files : FileTree)
    (request : WriteRequest) : (provider.outputPath files request).IsNormal := by
  simp only [builtin, List.mem_cons, List.not_mem_nil, or_false] at member
  rcases member with rfl | rfl | rfl | rfl | rfl | rfl | rfl | rfl
  all_goals exact isNormal_pathUnder _ _ _ _ _

/-- Codex wrote the own file of a rule, where the files were such, and failed at the shared file
after it. -/
def Codex.LeavesOwnFile (request : WriteRequest) (before after : FileTree) (failure : WriteError)
    (names : List String) : Prop :=
  outputPath before request = Path.ofNames true names ∧
    after.fileAt? names = some (.text (bodyText request.document)) ∧
    ∃ made sharedText,
      Persist.outcome before (Path.ofNames true names) (bodyText request.document) .direct =
        (.ok (Persist.artifact (Path.ofNames true names) (bodyText request.document) .written),
          made) ∧
      Persist.outcome made
        (sharedPath (Path.ofNames true names) request.projectRoot request.config made) sharedText
        .atomic = (.error failure, after)

/-- A write in place that the system broke off leaves a file that no artifact tells of. -/
def BreaksOff (files : FileTree) (failure : WriteError) (names : List String) : Prop :=
  ∃ count refusal, files.host.breakOff? (Path.ofNames true names) = some (count, refusal) ∧
    failure = Persist.brokenOff (Path.ofNames true names) refusal

/-- What accounts for a file that a write changed. -/
inductive AccountsFor (provider : Provider) (request : WriteRequest) (before after : FileTree)
    (names : List String) : Except ProviderError (List WrittenArtifact) → Prop
  | told {written : List WrittenArtifact} (told : Told written names) :
      AccountsFor provider request before after names (.ok written)
  | brokenOff {failure : WriteError} (breaks : BreaksOff before failure names) :
      AccountsFor provider request before after names (.error (.write failure))
  | leftByCodex {failure : WriteError} (isCodex : provider = Codex.provider)
      (leaves : Codex.LeavesOwnFile request before after failure names) :
      AccountsFor provider request before after names (.error (.write failure))

/-- A file that differs once its text is written holds the text. -/
theorem fileAt?_of_written {files after : FileTree} {names : List String} {contents : String}
    {mode : WriteMode} (linkFree : files.LinkFree) (areNames : Path.AreNames names)
    (persisted : Persist.outcome files (Path.ofNames true names) contents mode =
      (.ok (Persist.artifact (Path.ofNames true names) contents .written), after))
    (differs : after.fileAt? names ≠ files.fileAt? names) :
    after.fileAt? names = some (.text contents) := by
  have kept := Persist.keepsFiles_withDirectories files (Path.ofNames true names)
  cases Persist.outcome_ends persisted with
  | written notThere located takes put =>
      have named := FileTree.locate_ofNames (kept.linkFree linkFree) areNames located
      rw [named] at put
      rw [put] at differs ⊢
      unfold FileTree.fileAt? at differs ⊢
      rcases FileTree.surfaceAt?_put_self
        (Persist.withDirectories files (Path.ofNames true names)) names (.file (.text contents)) with
        reached | unseen
      · rw [reached]
        rfl
      · rw [unseen] at differs
        exact absurd (kept.files names) differs

/-- Every file that a write changed is accounted for. -/
theorem write_accounts {provider : Provider} (member : provider ∈ builtin) (request : WriteRequest)
    {workspace after : Workspace} {answer : Except ProviderError (List WrittenArtifact)}
    (linkFree : workspace.files.LinkFree)
    (ran : (provider.write request).run workspace = (answer, after)) :
    after.files.LinkFree ∧ after.files.workingDirectory = workspace.files.workingDirectory ∧
      ∀ names, after.files.fileAt? names ≠ workspace.files.fileAt? names →
        AccountsFor provider request workspace.files after.files names answer := by
  have ownNormal := isNormal_outputPath member workspace.files request
  rcases write_cases member request workspace with
    ⟨findings, refused⟩ | ⟨contents, mode, persistAnswer, files, collected, log, persisted, one⟩ |
    ⟨isCodex, own, made, path, contents, persistAnswer, files, collected, log, ownPersisted, shares,
      sharedPersisted, two⟩
  · rw [refused] at ran
    cases ran
    exact ⟨linkFree, rfl, fun names differs => absurd rfl differs⟩
  · rw [one] at ran
    cases ran
    obtain ⟨stillLinkFree, sameDirectory, accounts⟩ :=
      Persist.outcome_accounts linkFree ownNormal persisted
    refine ⟨stillLinkFree, sameDirectory, ?_⟩
    intro names differs
    obtain ⟨named, _, changes⟩ := accounts names differs
    rw [named] at changes
    cases persistAnswer with
    | ok told =>
        obtain rfl : told = _ := changes
        exact .told ⟨_, List.mem_cons_self, rfl, rfl⟩
    | error failure => exact .brokenOff changes
  · rw [two] at ran
    cases ran
    have sharedNormal : path.IsNormal := by
      rw [shares]
      exact isNormal_pathUnder _ _ _ _ _
    obtain ⟨madeLinkFree, madeDirectory, ownAccounts⟩ :=
      Persist.outcome_accounts linkFree ownNormal ownPersisted
    obtain ⟨stillLinkFree, sameDirectory, sharedAccounts⟩ :=
      Persist.outcome_accounts madeLinkFree sharedNormal sharedPersisted
    refine ⟨stillLinkFree, sameDirectory.trans madeDirectory, ?_⟩
    intro names differs
    by_cases bySecond : files.fileAt? names = made.fileAt? names
    · have byFirst : made.fileAt? names ≠ workspace.files.fileAt? names :=
        fun same => differs (bySecond.trans same)
      obtain ⟨named, areNames, isOwn⟩ := ownAccounts names byFirst
      rw [named] at isOwn ownPersisted shares
      obtain rfl : own = _ := isOwn
      cases persistAnswer with
      | error failure =>
          have holds := fileAt?_of_written linkFree areNames ownPersisted byFirst
          refine .leftByCodex isCodex ⟨?_, bySecond.trans holds, made, contents, ownPersisted, ?_⟩
          · rw [isCodex] at named
            exact named
          · rw [← shares]
            exact sharedPersisted
      | ok shared => exact .told ⟨_, List.mem_cons_self, rfl, rfl⟩
    · obtain ⟨named, _, changes⟩ := sharedAccounts names bySecond
      rw [named] at changes
      cases persistAnswer with
      | ok told =>
          obtain rfl : told = _ := changes
          exact .told ⟨_, List.mem_cons_of_mem own List.mem_cons_self, rfl, rfl⟩
      | error failure =>
          have sameHost := (Persist.outcome_grows ownPersisted).host
          obtain ⟨count, refusal, breaks, isBroken⟩ := changes
          rw [sameHost] at breaks
          exact .brokenOff ⟨count, refusal, breaks, isBroken⟩

end Provider

end RuleCompiler

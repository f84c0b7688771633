import RuleCompiler.Artifact.Persist
import RuleCompiler.Proofs.FileTree.Action
import RuleCompiler.Proofs.Workspace

/-!
What persisting a text does to the files. The answer and the files afterwards are functions of the
files before, so nothing in the log or in the collections can change them. The file at the path is
the only one that changes, and it does so only where the answer says that it was written, or that
the system broke off while it was.
-/

namespace RuleCompiler

namespace Persist

/-- A change of the files that is told as `operation` at `path` where it fails. -/
def toldAs (operation : FileOperation) (path : Path) (ended : Except ChangeError Unit × FileTree) :
    Except WriteError Unit × FileTree :=
  (ended.1.mapError fun cause => { operation, path, cause := .ofChange cause }, ended.2)

/-- Put the text at the path: the answer, and the files afterwards. -/
def placed (mode : WriteMode) (files : FileTree) (path : Path) (contents : String) :
    Except WriteError Unit × FileTree :=
  match mode with
  | .direct => toldAs .write path (files.overwrite path (.text contents))
  | .atomic =>
      match fillTemporary files path with
      | .error failure => (.error failure, files)
      | .ok () => toldAs .rename path (files.replace path (.text contents))

/-- The failure of a write in place that the system breaks off. -/
def brokenOff (path : Path) (refusal : Refusal) : WriteError :=
  { operation := .write, path, cause := .refused refusal }

def artifact (path : Path) (contents : String) (status : WriteStatus) : WrittenArtifact :=
  { path, digest := Sha256.contentDigest contents, bytes := contents.utf8ByteSize, status }

/-- The answer of persisting, and the files afterwards. -/
def outcome (files : FileTree) (path : Path) (contents : String) (mode : WriteMode) :
    Except WriteError WrittenArtifact × FileTree :=
  if path.isAbsolute then
    match existing? files path with
    | .error failure => (.error failure, files)
    | .ok existing =>
        if existing.map Sha256.contentDigest = some (Sha256.contentDigest contents) then
          (.ok (artifact path contents .unchanged), files)
        else
          match files.createDirectories (directoryOf path) with
          | (.error cause, made) =>
              (.error
                { operation := .createDirectory
                  path := directoryOf path
                  cause := .ofChange cause },
                made)
          | (.ok (), made) =>
              match placed mode made path contents with
              | (.error failure, left) => (.error failure, left)
              | (.ok (), changed) => (.ok (artifact path contents .written), changed)
  else (.error { operation := .write, path, cause := .relativePath }, files)

def withDirectories (files : FileTree) (path : Path) : FileTree :=
  (files.createDirectories (directoryOf path)).2

theorem keepsFiles_withDirectories (files : FileTree) (path : Path) :
    FileTree.KeepsFiles files (withDirectories files path) :=
  FileTree.keepsFiles_createDirectories files (directoryOf path)

theorem change_run (operation : FileOperation) (path : Path)
    (action : FileTree → Except ChangeError Unit × FileTree) (workspace : Workspace) :
    (change operation path action).run workspace =
      ((toldAs operation path (action workspace.files)).1,
        { workspace with files := (toldAs operation path (action workspace.files)).2 }) := by
  unfold change toldAs
  rw [ExceptT.run]
  rcases action workspace.files with ⟨cause | _, files⟩
  · rfl
  · rfl

theorem place_run (mode : WriteMode) (path : Path) (contents : String) (workspace : Workspace) :
    (place mode path contents).run workspace =
      ((placed mode workspace.files path contents).1,
        { workspace with files := (placed mode workspace.files path contents).2 }) := by
  cases mode with
  | direct => exact change_run .write path (·.overwrite path (.text contents)) workspace
  | atomic =>
      unfold place placed
      dsimp only
      rw [run_bind_ok (run_get workspace)]
      cases filled : fillTemporary workspace.files path with
      | error failure => rfl
      | ok _ =>
          rw [run_bind_ok (run_ofExcept _ _), change_run]

end Persist

theorem persist_run (path : Path) (contents : String) (mode : WriteMode) (workspace : Workspace) :
    ∃ log, (persist path contents mode).run workspace =
      ((Persist.outcome workspace.files path contents mode).1,
        { workspace with
          files := (Persist.outcome workspace.files path contents mode).2
          log }) := by
  unfold persist Persist.outcome
  by_cases absolute : path.isAbsolute = true
  · simp only [absolute, Bool.not_true, Bool.false_eq_true, if_false, if_true, run_bind, run_get,
      run_ofExcept]
    cases Persist.existing? workspace.files path with
    | error failure => exact ⟨workspace.log, rfl⟩
    | ok existing =>
        by_cases same : existing.map Sha256.contentDigest = some (Sha256.contentDigest contents)
        · simp only [if_pos same, run_bind, run_ofState]
          exact ⟨_, rfl⟩
        · simp only [if_neg same, run_bind, run_ofState, Persist.change_run,
            Persist.place_run]
          rcases workspace.files.createDirectories (Persist.directoryOf path) with
            ⟨cause | _, made⟩
          · exact ⟨workspace.log, rfl⟩
          · dsimp only [Persist.toldAs, Except.mapError]
            rcases Persist.placed mode made path contents with ⟨failure | _, left⟩
            · exact ⟨workspace.log, rfl⟩
            · exact ⟨_, rfl⟩
  · simp only [absolute, Bool.not_false, if_true, Bool.false_eq_true, if_false]
    exact ⟨workspace.log, rfl⟩

theorem persist_answer (path : Path) (contents : String) (mode : WriteMode) (workspace : Workspace) :
    ((persist path contents mode).run workspace).1 =
      (Persist.outcome workspace.files path contents mode).1 := by
  obtain ⟨log, ran⟩ := persist_run path contents mode workspace
  rw [ran]

theorem persist_files (path : Path) (contents : String) (mode : WriteMode)
    (workspace : Workspace) :
    ((persist path contents mode).run workspace).2.files =
      (Persist.outcome workspace.files path contents mode).2 := by
  obtain ⟨log, ran⟩ := persist_run path contents mode workspace
  rw [ran]

theorem Persist.outcome_of_run {path : Path} {contents : String} {mode : WriteMode}
    {workspace after : Workspace} {answer : Except WriteError WrittenArtifact}
    (ran : (persist path contents mode).run workspace = (answer, after)) :
    Persist.outcome workspace.files path contents mode = (answer, after.files) := by
  have first := persist_answer path contents mode workspace
  have second := persist_files path contents mode workspace
  rw [ran] at first second
  exact Prod.ext first.symm second.symm

theorem Persist.existing?_eq_some {files : FileTree} {path : Path} {text : String}
    (found : Persist.existing? files path = .ok (some text)) :
    files.stat path = .ok (.file (.text text)) := by
  unfold Persist.existing? at found
  split at found
  · next isFile =>
      cases found
      exact isFile
  all_goals cases found

namespace Persist

variable {files after : FileTree} {path : Path} {contents : String} {mode : WriteMode}

/-- What comes of persisting is settled before the text is put, for both modes alike, or it is what
comes of putting the text once the directories are there. -/
theorem outcome_settled_or_placed (files : FileTree) (path : Path) (contents : String) :
    (∃ settled : Except WriteError WrittenArtifact × FileTree,
        settled.1 ≠ .ok (artifact path contents .written) ∧
          ∀ mode, outcome files path contents mode = settled) ∨
      ∀ mode, outcome files path contents mode =
        ((placed mode (withDirectories files path) path contents).1.map
            fun _ => artifact path contents .written,
          (placed mode (withDirectories files path) path contents).2) := by
  unfold outcome withDirectories
  by_cases absolute : path.isAbsolute = true
  · simp only [if_pos absolute]
    cases existing? files path with
    | error failure =>
        refine Or.inl ⟨_, ?_, fun _ => rfl⟩
        nofun
    | ok existing =>
        by_cases same : existing.map Sha256.contentDigest = some (Sha256.contentDigest contents)
        · refine Or.inl ⟨_, ?_, fun _ => if_pos same⟩
          nofun
        · simp only [if_neg same]
          rcases files.createDirectories (directoryOf path) with ⟨cause | _, made⟩
          · refine Or.inl ⟨_, ?_, fun _ => rfl⟩
            nofun
          · refine Or.inr fun mode => ?_
            dsimp only
            rcases placed mode made path contents with ⟨failure | _, left⟩
            · rfl
            · rfl
  · refine Or.inl ⟨_, ?_, fun _ => if_neg absolute⟩
    nofun

theorem fillTemporary_ok (filled : fillTemporary files path = .ok ()) :
    fitsTemporary files path = true ∧
      files.host.refusal? .openFile (temporaryPath files path) = none ∧
      files.host.breakOff? (temporaryPath files path) = none := by
  unfold fillTemporary at filled
  dsimp only at filled
  split at filled
  · cases filled
  · next fits =>
      rw [Bool.not_eq_true, Bool.not_eq_false'] at fits
      split at filled
      · cases filled
      · cases filled
      · next granted unbroken => exact ⟨fits, granted, unbroken⟩

/-- Putting a text fails and changes nothing, or it leaves the text where the path leads to, or it
is a write in place that broke off and leaves a beginning of the text there. -/
theorem placed_cases (mode : WriteMode) (files : FileTree) (path : Path) (contents : String) :
    (∃ failure, placed mode files path contents = (.error failure, files)) ∨
    ∃ place, files.locate (mode = .direct) path = .ok place ∧ place.TakesFile ∧
      (placed mode files path contents =
          (.ok (), files.put place.names (.file (.text contents))) ∨
        mode = .direct ∧ ∃ count refusal, files.host.breakOff? path = some (count, refusal) ∧
          placed mode files path contents =
            (.error (brokenOff path refusal),
              files.put place.names (.file ((FileContents.text contents).beginning count)))) := by
  cases mode with
  | direct =>
      unfold placed toldAs
      rcases files.overwrite_cases path (.text contents) with
        ⟨failure, wrote⟩ | ⟨place, located, takes, wrote | ⟨count, refusal, breaks, wrote⟩⟩
      · rw [wrote]
        exact Or.inl ⟨_, rfl⟩
      · rw [wrote]
        exact Or.inr ⟨place, located, takes, Or.inl rfl⟩
      · rw [wrote]
        exact Or.inr ⟨place, located, takes, Or.inr ⟨rfl, count, refusal, breaks, rfl⟩⟩
  | atomic =>
      unfold placed toldAs
      dsimp only
      cases fillTemporary files path with
      | error failure => exact Or.inl ⟨failure, rfl⟩
      | ok _ =>
          rcases files.replace_cases path (.text contents) with
            ⟨failure, moved⟩ | ⟨place, located, takes, moved⟩
          · rw [moved]
            exact Or.inl ⟨_, rfl⟩
          · rw [moved]
            exact Or.inr ⟨place, located, takes, Or.inl rfl⟩

/-- The ways in which persisting can end. -/
inductive Ends (files after : FileTree) (path : Path) (contents : String) (mode : WriteMode) :
    Except WriteError WrittenArtifact → Prop
  | failed (failure : WriteError) (kept : FileTree.KeepsFiles files after) :
      Ends files after path contents mode (.error failure)
  /-- A beginning of the text is where the path leads to once the directories are there. -/
  | brokenOff (isDirect : mode = .direct) {count : Nat} {refusal : Refusal}
      (breaks : files.host.breakOff? path = some (count, refusal)) {place : Place}
      (located : (withDirectories files path).locate (mode = .direct) path = .ok place)
      (takes : place.TakesFile)
      (put : after = (withDirectories files path).put place.names
        (.file ((FileContents.text contents).beginning count))) :
      Ends files after path contents mode (.error (brokenOff path refusal))
  /-- A text with the same digest was there. -/
  | unchanged (same : after = files) {text : String}
      (found : existing? files path = .ok (some text))
      (sameDigest : Sha256.contentDigest text = Sha256.contentDigest contents) :
      Ends files after path contents mode (.ok (artifact path contents .unchanged))
  /-- The text is where the path leads to once the directories are there. -/
  | written (notThere : existing? files path ≠ .ok (some contents)) {place : Place}
      (located : (withDirectories files path).locate (mode = .direct) path = .ok place)
      (takes : place.TakesFile)
      (put : after = (withDirectories files path).put place.names (.file (.text contents))) :
      Ends files after path contents mode (.ok (artifact path contents .written))

theorem outcome_ends {answer : Except WriteError WrittenArtifact}
    (persisted : outcome files path contents mode = (answer, after)) :
    Ends files after path contents mode answer := by
  unfold outcome at persisted
  split at persisted
  · split at persisted
    · cases persisted
      exact .failed _ (FileTree.KeepsFiles.refl files)
    · next existing found =>
        split at persisted
        · next same =>
            cases persisted
            obtain ⟨text, isText, digest⟩ := Option.map_eq_some_iff.mp same
            rw [isText] at found
            exact .unchanged rfl found digest
        · next differs =>
            have notThere : existing? files path ≠ .ok (some contents) := by
              intro isThere
              rw [found] at isThere
              rw [Except.ok.inj isThere] at differs
              exact differs rfl
            have kept := keepsFiles_withDirectories files path
            split at persisted
            · next cause made created =>
                cases persisted
                unfold withDirectories at kept
                rw [created] at kept
                exact .failed _ kept
            · next made created =>
                have isMade : withDirectories files path = made := by
                  unfold withDirectories
                  rw [created]
                rw [isMade] at kept
                rcases placed_cases mode made path contents with
                  ⟨failure, put⟩ | ⟨place, located, takes, put | ⟨isDirect, count, refusal, breaks,
                    put⟩⟩
                · rw [put] at persisted
                  cases persisted
                  exact .failed _ kept
                · rw [put] at persisted
                  cases persisted
                  rw [← isMade] at located ⊢
                  exact .written notThere located takes rfl
                · rw [put] at persisted
                  cases persisted
                  rw [kept.host] at breaks
                  rw [← isMade] at located ⊢
                  exact .brokenOff isDirect breaks located takes rfl
  · cases persisted
    exact .failed _ (FileTree.KeepsFiles.refl files)

/-- Why a file can differ once a text was persisted: it was written, or writing it broke off. -/
def Changes (files : FileTree) (path : Path) (contents : String) :
    Except WriteError WrittenArtifact → Prop
  | .ok told => told = artifact path contents .written
  | .error failure => ∃ count refusal, files.host.breakOff? path = some (count, refusal) ∧
      failure = brokenOff path refusal

/-- Files change only where contents are put, and the answer says why. -/
theorem outcome_cases {answer : Except WriteError WrittenArtifact}
    (persisted : outcome files path contents mode = (answer, after)) :
    FileTree.KeepsFiles files after ∨
      Changes files path contents answer ∧
        ∃ made place kept, FileTree.KeepsFiles files made ∧
          made.locate (mode = .direct) path = .ok place ∧ place.TakesFile ∧
          after = made.put place.names (.file kept) := by
  have made := keepsFiles_withDirectories files path
  cases outcome_ends persisted with
  | failed failure kept => exact Or.inl kept
  | unchanged same => exact Or.inl (same ▸ FileTree.KeepsFiles.refl files)
  | brokenOff isDirect breaks located takes put =>
      exact Or.inr ⟨⟨_, _, breaks, rfl⟩, _, _, _, made, located, takes, put⟩
  | written notThere located takes put =>
      exact Or.inr ⟨rfl, _, _, _, made, located, takes, put⟩

theorem workingDirectory_outcome {answer : Except WriteError WrittenArtifact}
    (persisted : outcome files path contents mode = (answer, after)) :
    after.workingDirectory = files.workingDirectory := by
  rcases outcome_cases persisted with kept | ⟨_, made, place, _, kept, _, _, put⟩
  · exact kept.workingDirectory
  · rw [put]
    exact kept.workingDirectory

theorem told_of_outcome {told : WrittenArtifact}
    (persisted : outcome files path contents mode = (.ok told, after)) :
    told = artifact path contents told.status := by
  cases outcome_ends persisted with
  | unchanged => rfl
  | written => rfl

theorem path_of_outcome {told : WrittenArtifact}
    (persisted : outcome files path contents mode = (.ok told, after)) : told.path = path := by
  rw [told_of_outcome persisted]
  rfl

end Persist

/-- What persisting at a normalized path does in a tree without links: no other file changes, and
the file at the path only where the answer tells so. -/
theorem Persist.outcome_accounts {files after : FileTree} {path : Path} {contents : String}
    {mode : WriteMode} {answer : Except WriteError WrittenArtifact}
    (linkFree : files.LinkFree) (normal : path.IsNormal)
    (persisted : Persist.outcome files path contents mode = (answer, after)) :
    after.LinkFree ∧ after.workingDirectory = files.workingDirectory ∧
      ∀ names, after.fileAt? names ≠ files.fileAt? names →
        path = Path.ofNames true names ∧ Path.AreNames names ∧
          Persist.Changes files path contents answer := by
  obtain ⟨own, areNames, rfl⟩ := normal
  rcases Persist.outcome_cases persisted with
    kept | ⟨told, made, place, left, kept, located, takes, put⟩
  · refine ⟨kept.linkFree linkFree, kept.workingDirectory, ?_⟩
    intro names differs
    exact absurd (kept.files names) differs
  · have named := FileTree.locate_ofNames (kept.linkFree linkFree) areNames located
    have put_others := FileTree.keepsOtherFiles_put_file left (FileTree.locate_sound located) takes
    rw [named] at put_others put
    have others : FileTree.KeepsOtherFiles own files after := by
      rw [put]
      exact kept.thenOthers put_others
    refine ⟨others.linkFree linkFree, others.workingDirectory, ?_⟩
    intro names differs
    by_cases same : names = own
    · rw [same]
      exact ⟨rfl, areNames, told⟩
    · exact absurd (others.files names same) differs

theorem ignoresLog_persist (path : Path) (contents : String) (mode : WriteMode) :
    Workspace.IgnoresLog (persist path contents mode).run := by
  intro first second alike
  obtain ⟨firstLog, firstRan⟩ := persist_run path contents mode first
  obtain ⟨secondLog, secondRan⟩ := persist_run path contents mode second
  rw [firstRan, secondRan, alike.files]
  exact ⟨rfl, ⟨rfl, alike.collected⟩⟩

end RuleCompiler

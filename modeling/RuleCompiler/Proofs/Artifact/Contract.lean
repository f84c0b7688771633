import RuleCompiler.Proofs.Artifact.Again
import RuleCompiler.Proofs.FileTree.Straight

/-!
What persisting a text promises at a path that no link lies on. The file holds the text afterwards;
apart from it only missing directories on its way are new, and nothing at all where the file held
the text before. The two modes differ in what they ask of the system: one opens and fills the file
itself, the other a temporary file, which needs a path of its own, and renames it.
-/

namespace RuleCompiler

namespace Persist

/-- What a text persisted at a path leaves, and what is told of it. -/
structure Contract (before after : FileTree) (path : Path) (contents : String)
    (told : WrittenArtifact) : Prop where
  absolute : path.isAbsolute = true
  samePath : told.path = path
  sameDigest : told.digest = Sha256.contentDigest contents
  sameBytes : told.bytes = contents.utf8ByteSize
  holds : after.stat path = .ok (.file (.text contents))
  unchanged_iff : told.status = .unchanged ↔ before.stat path = .ok (.file (.text contents))
  untouched : told.status = .unchanged → after = before
  others : ∀ names, names ≠ path.names →
    after.surfaceAt? names = before.surfaceAt? names ∨
      names <+: path.names ∧ before.surfaceAt? names = none ∧
        after.surfaceAt? names = some (.directory [])

theorem directoryOf_ofNames {names : List String} (areNames : Path.AreNames names) :
    directoryOf (Path.ofNames true names) = Path.ofNames true names.dropLast := by
  unfold directoryOf
  rcases List.eq_nil_or_concat names with empty | ⟨above, name, split⟩
  · subst empty
    rfl
  · rw [List.concat_eq_append] at split
    subst split
    rw [Path.parent?_ofNames areNames, Option.getD_some, List.dropLast_concat]

theorem toOption_eq_cases {ε δ α : Type} {first : Except ε α} {second : Except δ α}
    (same : first.toOption = second.toOption) :
    (∃ value, first = .ok value ∧ second = .ok value) ∨
      ∃ cause other, first = .error cause ∧ second = .error other := by
  cases first with
  | error cause =>
      cases second with
      | error other => exact Or.inr ⟨cause, other, rfl, rfl⟩
      | ok value => cases same
  | ok value =>
      cases second with
      | error other => cases same
      | ok again =>
          cases same
          exact Or.inl ⟨value, rfl, rfl⟩

section Outcome

variable {files after : FileTree} {names : List String} {contents : String} {mode : WriteMode}

theorem addsAlong_withDirectories (areNames : Path.AreNames names)
    (linkFree : files.LinkFreeAlong names) :
    FileTree.AddsAlong names files (withDirectories files (Path.ofNames true names)) := by
  have onWay : names.dropLast <+: names := List.dropLast_prefix names
  have areAbove : Path.AreNames names.dropLast :=
    fun name member => areNames name (onWay.subset member)
  unfold withDirectories
  rw [directoryOf_ofNames areNames]
  exact (FileTree.addsAlong_createDirectories areAbove (linkFree.lead onWay)).longer onWay

/-- A file put where the path leads to is read there, and nothing else is new but directories on the
way to it. -/
theorem put_withDirectories (rooted : files.Rooted) (areNames : Path.AreNames names)
    (linkFree : files.LinkFreeAlong names) {followLast : Bool} {place : Place}
    (located : (withDirectories files (Path.ofNames true names)).locate followLast
      (Path.ofNames true names) = .ok place) (takes : place.TakesFile) {kept : FileContents}
    (put : after = (withDirectories files (Path.ofNames true names)).put place.names
      (.file kept)) :
    after.stat (Path.ofNames true names) = .ok (.file kept) ∧
      ∀ other, other ≠ names →
        after.surfaceAt? other = files.surfaceAt? other ∨
          other <+: names ∧ files.surfaceAt? other = none ∧
            after.surfaceAt? other = some (.directory []) := by
  have stillRooted := (keepsFiles_withDirectories files (Path.ofNames true names)).rooted rooted
  have adds := addsAlong_withDirectories areNames linkFree
  have madeLinkFree := adds.linkFreeAlong linkFree
  have named := FileTree.locate_straight_names areNames madeLinkFree located
  have hollow := FileTree.hollow_of_takesFile (FileTree.locate_sound located) takes
  rw [named] at put hollow
  rw [put]
  refine ⟨FileTree.stat_put_straight stillRooted areNames madeLinkFree located takes kept, ?_⟩
  intro other different
  rw [FileTree.surfaceAt?_put_file kept hollow different]
  exact adds other

theorem contract_of_outcome (rooted : files.Rooted) (areNames : Path.AreNames names)
    (linkFree : files.LinkFreeAlong names)
    (noCollision : ∀ text, files.stat (Path.ofNames true names) = .ok (.file (.text text)) →
      Sha256.contentDigest text = Sha256.contentDigest contents → text = contents)
    {told : WrittenArtifact}
    (persisted : outcome files (Path.ofNames true names) contents mode = (.ok told, after)) :
    Contract files after (Path.ofNames true names) contents told := by
  have absolute := Path.isAbsolute_ofNames names
  cases outcome_ends persisted with
  | unchanged same isText digest =>
      have found := existing?_eq_some isText
      rw [noCollision _ found digest] at found
      rw [same]
      exact ⟨absolute, rfl, rfl, rfl, found, iff_of_true rfl found, fun _ => rfl,
        fun _ _ => Or.inl rfl⟩
  | written notThere located takes put =>
      obtain ⟨holds, others⟩ := put_withDirectories rooted areNames linkFree located takes put
      refine ⟨absolute, rfl, rfl, rfl, holds, iff_of_false nofun ?_, nofun, ?_⟩
      · intro there
        apply notThere
        unfold existing?
        rw [there]
      · rw [Path.names_ofNames areNames]
        exact others

/-! ### Failures -/

/-- The system broke off a write in place: the file holds a beginning of the text, and no other file
differs. -/
def LeavesBeginning (before after : FileTree) (path : Path) (contents : String) (mode : WriteMode)
    (failure : WriteError) : Prop :=
  mode = .direct ∧ ∃ count refusal,
    before.host.breakOff? path = some (count, refusal) ∧ failure = brokenOff path refusal ∧
      after.stat path = .ok (.file ((FileContents.text contents).beginning count)) ∧
      ∀ names, names ≠ path.names → after.fileAt? names = before.fileAt? names

theorem fileAt?_of_new_directory {other : List String}
    (same : after.surfaceAt? other = files.surfaceAt? other ∨
      other <+: names ∧ files.surfaceAt? other = none ∧
        after.surfaceAt? other = some (.directory [])) :
    after.fileAt? other = files.fileAt? other := by
  unfold FileTree.fileAt?
  rcases same with same | ⟨_, nothing, isDirectory⟩
  · rw [same]
  · rw [nothing, isDirectory]

theorem error_of_outcome (rooted : files.Rooted) (areNames : Path.AreNames names)
    (linkFree : files.LinkFreeAlong names) {failure : WriteError}
    (persisted : outcome files (Path.ofNames true names) contents mode = (.error failure, after)) :
    (∀ other, after.fileAt? other = files.fileAt? other) ∨
      LeavesBeginning files after (Path.ofNames true names) contents mode failure := by
  cases outcome_ends persisted with
  | failed _ kept => exact Or.inl kept.files
  | brokenOff isDirect breaks located takes put =>
      obtain ⟨holds, others⟩ := put_withDirectories rooted areNames linkFree located takes put
      refine Or.inr ⟨isDirect, _, _, breaks, rfl, holds, ?_⟩
      rw [Path.names_ofNames areNames]
      exact fun other different => fileAt?_of_new_directory (others other different)

/-! ### The two modes -/

/-- The system carries out all that a mode asks for at a path, beside the directories. -/
def Carries (files : FileTree) (path : Path) : WriteMode → Prop
  | .direct => files.host.refusal? .openFile path = none ∧ files.host.breakOff? path = none
  | .atomic =>
      fitsTemporary files path = true ∧
        files.host.refusal? .openFile (temporaryPath files path) = none ∧
        files.host.breakOff? (temporaryPath files path) = none ∧
        files.host.refusal? .rename path = none

theorem Carries.congr {path : Path} {before after : FileTree} (sameHost : after.host = before.host)
    (carries : Carries after path mode) : Carries before path mode := by
  unfold Carries fitsTemporary temporaryPath at carries ⊢
  rw [sameHost] at carries
  exact carries

theorem placed_straight (areNames : Path.AreNames names) (linkFree : files.LinkFreeAlong names)
    (carries : ∀ mode, Carries files (Path.ofNames true names) mode) (contents : String) :
    (placed .direct files (Path.ofNames true names) contents).1.toOption =
        (placed .atomic files (Path.ofNames true names) contents).1.toOption ∧
      (placed .direct files (Path.ofNames true names) contents).2 =
        (placed .atomic files (Path.ofNames true names) contents).2 := by
  obtain ⟨opens, unbroken⟩ := carries .direct
  obtain ⟨fits, opensTemporary, unbrokenTemporary, renames⟩ := carries .atomic
  have filled : fillTemporary files (Path.ofNames true names) = .ok () := by
    unfold fillTemporary
    dsimp only
    rw [fits, opensTemporary, unbrokenTemporary]
    rfl
  unfold placed toldAs
  rw [filled]
  dsimp only
  rw [FileTree.overwrite_of_granted opens unbroken, FileTree.replace_of_granted renames]
  rcases toOption_eq_cases (FileTree.write_straight areNames linkFree (.text contents)) with
    ⟨changed, wrote, moved⟩ | ⟨_, _, notWritten, notMoved⟩
  · rw [wrote, moved]
    exact ⟨rfl, rfl⟩
  · rw [notWritten, notMoved]
    exact ⟨rfl, rfl⟩

theorem carries_of_placed {path : Path} {value : Unit}
    (put : (placed mode files path contents).1 = .ok value) : Carries files path mode := by
  cases mode with
  | direct =>
      cases wrote : (files.overwrite path (.text contents)).1 with
      | ok value => exact FileTree.granted_of_overwrite_ok wrote
      | error cause =>
          unfold placed toldAs at put
          dsimp only at put
          rw [wrote] at put
          cases put
  | atomic =>
      unfold placed toldAs at put
      dsimp only at put
      cases filled : fillTemporary files path with
      | error failure =>
          rw [filled] at put
          cases put
      | ok _ =>
          obtain ⟨fits, opens, unbroken⟩ := fillTemporary_ok filled
          rw [filled] at put
          cases moved : (files.replace path (.text contents)).1 with
          | ok value => exact ⟨fits, opens, unbroken, FileTree.granted_of_replace_ok moved⟩
          | error cause =>
              dsimp only at put
              rw [moved] at put
              cases put

theorem outcome_modes_of_carries (areNames : Path.AreNames names)
    (linkFree : files.LinkFreeAlong names)
    (carries : ∀ mode, Carries files (Path.ofNames true names) mode) :
    (outcome files (Path.ofNames true names) contents .direct).1.toOption =
        (outcome files (Path.ofNames true names) contents .atomic).1.toOption ∧
      (outcome files (Path.ofNames true names) contents .direct).2 =
        (outcome files (Path.ofNames true names) contents .atomic).2 := by
  rcases outcome_settled_or_placed files (Path.ofNames true names) contents with
    ⟨settled, _, isSettled⟩ | isPlaced
  · rw [isSettled, isSettled]
    exact ⟨rfl, rfl⟩
  · have madeLinkFree := (addsAlong_withDirectories areNames linkFree).linkFreeAlong linkFree
    have sameHost := (keepsFiles_withDirectories files (Path.ofNames true names)).host
    obtain ⟨sameAnswer, sameFiles⟩ := placed_straight areNames madeLinkFree
      (fun mode => (carries mode).congr sameHost.symm) contents
    rw [isPlaced, isPlaced]
    dsimp only
    refine ⟨?_, sameFiles⟩
    rcases toOption_eq_cases sameAnswer with ⟨_, direct, atomic⟩ | ⟨_, _, direct, atomic⟩
    · rw [direct, atomic]
    · rw [direct, atomic]
      rfl

/-- A text that was written was put into a tree where the system carries that out. -/
theorem carries_of_written {path : Path}
    (written : (outcome files path contents mode).1 = .ok (artifact path contents .written)) :
    Carries files path mode := by
  rcases outcome_settled_or_placed files path contents with
    ⟨settled, notWritten, isSettled⟩ | isPlaced
  · rw [isSettled] at written
    exact absurd written notWritten
  · rw [isPlaced] at written
    cases put : (placed mode (withDirectories files path) path contents).1 with
    | error failure =>
        rw [put] at written
        cases written
    | ok value =>
        exact (carries_of_placed put).congr (keepsFiles_withDirectories files path).host

theorem outcome_atomic_of_not_fits {path : Path} (tooLong : fitsTemporary files path = false)
    (written : (outcome files path contents .direct).1 = .ok (artifact path contents .written)) :
    (outcome files path contents .atomic).1 = .error
      { operation := .write
        path := directoryOf path
        cause := .temporary (temporaryPath files path) (.io .invalidFilename) } := by
  rcases outcome_settled_or_placed files path contents with
    ⟨settled, notWritten, isSettled⟩ | isPlaced
  · rw [isSettled] at written
    exact absurd written notWritten
  · have sameTemporary :
        temporaryPath (withDirectories files path) path = temporaryPath files path := by
      unfold temporaryPath
      rw [(keepsFiles_withDirectories files path).host]
    rw [isPlaced]
    unfold fitsTemporary at tooLong
    unfold placed fillTemporary fitsTemporary
    rw [sameTemporary, tooLong]
    rfl

theorem outcome_of_relative {path : Path} (relative : path.isAbsolute = false) :
    outcome files path contents mode =
      (.error { operation := .write, path, cause := .relativePath }, files) := by
  unfold outcome
  rw [relative, if_neg Bool.false_ne_true]

/-- A text that was not there is told as written. -/
theorem written_of_answer (rooted : files.Rooted) (areNames : Path.AreNames names)
    (linkFree : files.LinkFreeAlong names)
    (noCollision : ∀ text, files.stat (Path.ofNames true names) = .ok (.file (.text text)) →
      Sha256.contentDigest text = Sha256.contentDigest contents → text = contents)
    (differs : files.stat (Path.ofNames true names) ≠ .ok (.file (.text contents)))
    {told : WrittenArtifact}
    (answer : (outcome files (Path.ofNames true names) contents mode).1 = .ok told) :
    (outcome files (Path.ofNames true names) contents mode).1 =
      .ok (artifact (Path.ofNames true names) contents .written) := by
  have persisted : outcome files (Path.ofNames true names) contents mode = (.ok told, _) :=
    Prod.ext answer rfl
  have kept := contract_of_outcome rooted areNames linkFree noCollision persisted
  have isArtifact := told_of_outcome persisted
  rw [answer]
  cases status : told.status with
  | written =>
      rw [status] at isArtifact
      exact congrArg Except.ok isArtifact
  | unchanged => exact absurd (kept.unchanged_iff.mp status) differs

end Outcome

end Persist

theorem Persist.outcome_direct_of_free {files : FileTree} {above : List String} {name : String}
    (rooted : files.Rooted) (areNames : Path.AreNames (above ++ [name]))
    (short : ∀ segment ∈ above ++ [name], segment.utf8ByteSize ≤ FileTree.maxNameBytes)
    (canFollow : FileTree.CanFollow (Path.ofNames true (above ++ [name])))
    (directory : files.IsDirectoryAt above) (free : files.at? (above ++ [name]) = none)
    (carries : Carries files (Path.ofNames true (above ++ [name])) .direct) (contents : String) :
    Persist.outcome files (Path.ofNames true (above ++ [name])) contents .direct =
      (.ok (Persist.artifact (Path.ofNames true (above ++ [name])) contents .written),
        files.put (above ++ [name]) (.file (.text contents))) := by
  have located : files.locate true (Path.ofNames true (above ++ [name])) =
      .ok (.free (above ++ [name]) false) :=
    FileTree.locate_straight_free areNames short canFollow directory free
  have existing : Persist.existing? files (Path.ofNames true (above ++ [name])) = .ok none := by
    unfold Persist.existing?
    rw [FileTree.stat_of_free located]
  have made := FileTree.createDirectories_above areNames rooted located
  have wrote : files.write (Path.ofNames true (above ++ [name])) (.text contents) =
      .ok (files.put (above ++ [name]) (.file (.text contents))) := by
    unfold FileTree.write
    rw [located]
    rfl
  unfold Persist.outcome Persist.placed
  rw [if_pos (Path.isAbsolute_ofNames _), existing, Persist.directoryOf_ofNames areNames,
    List.dropLast_concat, made]
  dsimp only
  rw [FileTree.overwrite_of_granted carries.1 carries.2, wrote]
  rfl

/-- Persisting at a path with no link on its way. What succeeds keeps the contract. What fails
leaves every file as it was, unless the system broke off a write in place. Both modes do the same
where the file holds the text already, or where the system carries out what either asks for; a mode
for which it does not never writes the text, and where no temporary file has a path, the atomic mode
tells so. -/
theorem persist_straight {workspace : Workspace} {path : Path} {contents : String}
    (rooted : workspace.files.Rooted) (shape : path.isAbsolute = false ∨ path.IsNormal)
    (linkFree : workspace.files.LinkFreeAlong (workspace.files.absolutize path).names)
    (noCollision : ∀ text, workspace.files.stat path = .ok (.file (.text text)) →
      Sha256.contentDigest text = Sha256.contentDigest contents → text = contents) :
    (∀ mode told after, (persist path contents mode).run workspace = (.ok told, after) →
      Persist.Contract workspace.files after.files path contents told) ∧
    (∀ mode failure after, (persist path contents mode).run workspace = (.error failure, after) →
      (∀ names, after.files.fileAt? names = workspace.files.fileAt? names) ∨
        Persist.LeavesBeginning workspace.files after.files path contents mode failure) ∧
    ((∀ mode, Persist.Carries workspace.files path mode) ∨
        workspace.files.stat path = .ok (.file (.text contents)) →
      ((persist path contents .direct).run workspace).1.toOption =
          ((persist path contents .atomic).run workspace).1.toOption ∧
        ((persist path contents .direct).run workspace).2.files =
          ((persist path contents .atomic).run workspace).2.files) ∧
    (∀ mode, ¬ Persist.Carries workspace.files path mode →
        workspace.files.stat path ≠ .ok (.file (.text contents)) →
      ∀ told, ((persist path contents mode).run workspace).1 ≠ .ok told) ∧
    (Persist.fitsTemporary workspace.files path = false →
        workspace.files.stat path ≠ .ok (.file (.text contents)) →
      ∀ told, ((persist path contents .direct).run workspace).1 = .ok told →
        ((persist path contents .atomic).run workspace).1 = .error
          { operation := .write
            path := Persist.directoryOf path
            cause := .temporary (Persist.temporaryPath workspace.files path)
              (.io .invalidFilename) }) := by
  rcases shape with relative | ⟨names, areNames, rfl⟩
  · have refused : ∀ mode, Persist.outcome workspace.files path contents mode = _ :=
      fun mode => Persist.outcome_of_relative relative
    have fails : ∀ mode told, ((persist path contents mode).run workspace).1 ≠ .ok told := by
      intro mode told ran
      rw [persist_answer, refused] at ran
      cases ran
    refine ⟨?_, ?_, ?_, fun mode _ _ => fails mode, ?_⟩
    · intro mode told after ran
      exact absurd (congrArg Prod.fst ran) (fails mode told)
    · intro mode failure after ran
      have persisted := Persist.outcome_of_run ran
      rw [refused] at persisted
      rw [← (Prod.mk.inj persisted).2]
      exact Or.inl fun _ => rfl
    · intro _
      rw [persist_answer, persist_answer, persist_files, persist_files, refused, refused]
      exact ⟨rfl, rfl⟩
    · intro _ _ told ran
      exact absurd ran (fails .direct told)
  · have isAbsolute := Path.isAbsolute_ofNames names
    unfold FileTree.absolutize at linkFree
    rw [Path.names_absolutize_of_isAbsolute isAbsolute, Path.names_ofNames areNames] at linkFree
    refine ⟨?_, ?_, ?_, ?_, ?_⟩
    · intro mode told after ran
      exact Persist.contract_of_outcome rooted areNames linkFree noCollision
        (Persist.outcome_of_run ran)
    · intro mode failure after ran
      exact Persist.error_of_outcome rooted areNames linkFree (Persist.outcome_of_run ran)
    · intro agree
      rw [persist_answer, persist_answer, persist_files, persist_files]
      rcases agree with carries | holds
      · exact Persist.outcome_modes_of_carries areNames linkFree carries
      · have held : Persist.Holds workspace.files
            (Persist.artifact (Path.ofNames true names) contents .unchanged) :=
          ⟨contents, holds, rfl⟩
        have same := Persist.outcome_of_holds isAbsolute held
        rw [same, same]
        exact ⟨rfl, rfl⟩
    · intro mode refused differs told ran
      rw [persist_answer] at ran
      exact refused (Persist.carries_of_written
        (Persist.written_of_answer rooted areNames linkFree noCollision differs ran))
    · intro tooLong differs told ran
      rw [persist_answer] at ran ⊢
      exact Persist.outcome_atomic_of_not_fits tooLong
        (Persist.written_of_answer rooted areNames linkFree noCollision differs ran)

/-- A file with another text, in a directory. -/
def oldRule : FileTree :=
  { root := .directory [("rules", .directory [("a.md", .file (.text "old"))])] }

theorem linkFreeAlong_oldRule : oldRule.LinkFreeAlong ["rules", "a.md"] := by
  intro lead onWay target found
  rw [List.prefix_cons_iff] at onWay
  rcases onWay with rfl | ⟨rest, rfl, restOnWay⟩
  · cases found
  · rw [List.prefix_cons_iff] at restOnWay
    rcases restOnWay with rfl | ⟨more, rfl, moreOnWay⟩
    · cases found
    · rw [List.prefix_nil.mp moreOnWay] at found
      cases found

/-- The new text replaces the old one, in either mode. -/
theorem persist_straight_oldRule :
    oldRule.Rooted ∧ (Path.ofNames true ["rules", "a.md"]).IsNormal ∧
    oldRule.LinkFreeAlong (oldRule.absolutize (Path.ofNames true ["rules", "a.md"])).names ∧
    (∀ text, oldRule.stat (Path.ofNames true ["rules", "a.md"]) = .ok (.file (.text text)) →
      Sha256.contentDigest text = Sha256.contentDigest "new" → text = "new") ∧
    ∃ told after,
      (persist (Path.ofNames true ["rules", "a.md"]) "new" .atomic).run { files := oldRule } =
        (.ok told, after) ∧
      Persist.Contract oldRule after.files (Path.ofNames true ["rules", "a.md"]) "new" told ∧
      told.status = .written ∧
      ((persist (Path.ofNames true ["rules", "a.md"]) "new" .direct).run
        { files := oldRule }).1.toOption = some told := by
  have rooted : oldRule.Rooted := ⟨_, rfl⟩
  have areNames : Path.AreNames ["rules", "a.md"] := by
    intro name member
    simp only [List.mem_cons, List.not_mem_nil, or_false] at member
    rcases member with rfl | rfl
    · exact ⟨rfl, by decide, by decide⟩
    · exact ⟨rfl, by decide, by decide⟩
  have normal : (Path.ofNames true ["rules", "a.md"]).IsNormal := ⟨_, areNames, rfl⟩
  have isOld : oldRule.stat (Path.ofNames true ["rules", "a.md"]) = .ok (.file (.text "old")) :=
    rfl
  have linkFree : oldRule.LinkFreeAlong
      (oldRule.absolutize (Path.ofNames true ["rules", "a.md"])).names := by
    unfold FileTree.absolutize
    rw [Path.names_absolutize_of_isAbsolute (Path.isAbsolute_ofNames _),
      Path.names_ofNames areNames]
    exact linkFreeAlong_oldRule
  have noCollision : ∀ text,
      oldRule.stat (Path.ofNames true ["rules", "a.md"]) = .ok (.file (.text text)) →
        Sha256.contentDigest text = Sha256.contentDigest "new" → text = "new" := by
    intro text isText sameDigest
    rw [isOld] at isText
    cases isText
    exact absurd sameDigest (by decide +kernel)
  refine ⟨rooted, normal, linkFree, noCollision, ?_⟩
  have workspaceRooted : ({ files := oldRule } : Workspace).files.Rooted := rooted
  obtain ⟨contract, _, modes, _⟩ :=
    persist_straight workspaceRooted (Or.inr normal) linkFree noCollision
  have carries : ∀ mode, Persist.Carries oldRule (Path.ofNames true ["rules", "a.md"]) mode := by
    intro mode
    cases mode with
    | direct => exact ⟨rfl, rfl⟩
    | atomic => exact ⟨by decide +kernel, rfl, rfl, rfl⟩
  have succeeds : ((persist (Path.ofNames true ["rules", "a.md"]) "new" .atomic).run
      { files := oldRule }).1.isOk = true := by decide +kernel
  have agree := (modes (Or.inl carries)).1
  rcases ran : (persist (Path.ofNames true ["rules", "a.md"]) "new" .atomic).run
    { files := oldRule } with ⟨failure | told, after⟩
  · rw [ran] at succeeds
    cases succeeds
  · have kept := contract .atomic told after ran
    rw [ran] at agree
    refine ⟨told, after, rfl, kept, ?_, agree⟩
    cases status : told.status with
    | written => rfl
    | unchanged =>
        have isNew := kept.unchanged_iff.mp status
        rw [isOld] at isNew
        simp at isNew

/-! ### A directory at the limit -/

def repeated (c : Char) (length : Nat) : String :=
  String.ofList (List.replicate length c)

theorem mem_repeated {c other : Char} {length : Nat}
    (member : other ∈ (repeated c length).toList) : other = c := by
  unfold repeated at member
  rw [String.toList_ofList] at member
  exact List.eq_of_mem_replicate member

theorem isName_repeated {c : Char} (notDot : c ≠ '.') (notSlash : c ≠ '/') (length : Nat) :
    Path.IsName (repeated c (length + 1)) := by
  have inside : c ∈ (repeated c (length + 1)).toList := by
    unfold repeated
    rw [String.toList_ofList]
    exact List.mem_cons_self
  constructor
  · unfold Path.isIdle
    rw [Bool.or_eq_false_iff, beq_eq_false_iff_ne, beq_eq_false_iff_ne]
    constructor
    · intro isEmpty
      rw [isEmpty] at inside
      cases inside
    · intro isDot
      rw [isDot] at inside
      exact notDot (List.mem_singleton.mp inside)
  · intro isUp
    rw [isUp] at inside
    rcases List.mem_cons.mp inside with first | second
    · exact notDot first
    · exact notDot (List.mem_singleton.mp second)
  · intro slash
    exact notSlash (mem_repeated slash).symm

/-- A directory whose path has 4089 bytes. -/
def deepNames : List String :=
  "tmp" :: List.replicate 15 (repeated 'd' 255) ++ [repeated 'e' 244]

def deepTree : FileTree :=
  { root := FileNode.wrapped deepNames (.directory []) }

def deepPath : Path :=
  Path.ofNames true (deepNames ++ ["a"])

theorem isDirectoryAt_deepTree {lead : List String} (onWay : lead <+: deepNames) :
    deepTree.IsDirectoryAt lead := by
  obtain ⟨rest, split⟩ := onWay
  have found := FileNode.at?_wrapped lead rest (.directory [])
  rw [split] at found
  cases rest with
  | nil => exact ⟨_, found⟩
  | cons name more => exact ⟨_, found⟩

theorem at?_deepTree {names : List String} {node : FileNode}
    (found : deepTree.at? names = some node) :
    names <+: deepNames ∧ ∃ entries, node = .directory entries :=
  FileNode.at?_wrapped_some found

theorem linkFree_deepTree : deepTree.LinkFree := by
  intro names target seen
  obtain ⟨_, entries, isDirectory⟩ := at?_deepTree (FileTree.surfaceAt?_eq_some_link.mp seen)
  cases isDirectory

theorem mem_deep {name : String} (member : name ∈ deepNames ++ ["a"]) :
    name = "tmp" ∨ name = repeated 'd' 255 ∨ name = repeated 'e' 244 ∨ name = "a" := by
  unfold deepNames at member
  rcases List.mem_append.mp member with inDirectory | atEnd
  · rcases List.mem_append.mp inDirectory with fromStart | last
    · rcases List.mem_cons.mp fromStart with start | above
      · exact Or.inl start
      · exact Or.inr (Or.inl (List.eq_of_mem_replicate above))
    · exact Or.inr (Or.inr (Or.inl (List.mem_singleton.mp last)))
  · exact Or.inr (Or.inr (Or.inr (List.mem_singleton.mp atEnd)))

theorem areNames_deep : Path.AreNames (deepNames ++ ["a"]) := by
  intro name member
  rcases mem_deep member with rfl | rfl | rfl | rfl
  · exact ⟨rfl, by decide, by decide⟩
  · exact isName_repeated (by decide) (by decide) 254
  · exact isName_repeated (by decide) (by decide) 243
  · exact ⟨rfl, by decide, by decide⟩

theorem canFollow_deepPath : FileTree.CanFollow deepPath where
  noNull := by
    rw [List.contains_eq_mem, decide_eq_false_iff_not]
    apply Path.not_mem_toList_ofNames (by decide)
    intro name member inside
    rcases mem_deep member with rfl | rfl | rfl | rfl
    · exact absurd inside (by decide)
    · exact absurd (mem_repeated inside) (by decide)
    · exact absurd (mem_repeated inside) (by decide)
    · exact absurd inside (by decide)
  some := by
    intro empty
    have atSlash := Path.toList_ofNames (deepNames ++ ["a"])
    rw [show (Path.ofNames true (deepNames ++ ["a"])).text = "" from empty] at atSlash
    cases atSlash
  short := by decide +kernel

theorem TemporaryName.bytes (name : TemporaryName) : name.text.utf8ByteSize = 10 := by
  unfold text
  rw [String.utf8ByteSize_append, name.size]
  rfl

theorem TemporaryName.head? (name : TemporaryName) : name.text.toList.head? = some '.' := by
  unfold text
  rw [String.toList_append]
  rfl

theorem not_fitsTemporary {path : Path}
    (long : FileTree.maxPathBytes < (Persist.directoryOf path).text.utf8ByteSize + 10)
    (files : FileTree) : Persist.fitsTemporary files path = false := by
  have bytes := (files.host.temporaryName path).bytes
  unfold Persist.fitsTemporary Persist.temporaryPath Path.join
  rw [TemporaryName.head?, if_neg (by decide), decide_eq_false_iff_not, Nat.not_le]
  split
  · rw [String.utf8ByteSize_append]
    omega
  · rw [String.utf8ByteSize_append, String.utf8ByteSize_append]
    omega

/-- The two modes differ where the path of the file is short enough and that of a temporary file
beside it is not. -/
theorem persist_modes_differ :
    deepTree.Rooted ∧ deepPath.IsNormal ∧ deepTree.LinkFree ∧
    (∀ text, deepTree.stat deepPath ≠ .ok (.file (.text text))) ∧
    ((persist deepPath "x" .direct).run { files := deepTree }).1 =
      .ok (Persist.artifact deepPath "x" .written) ∧
    ((persist deepPath "x" .atomic).run { files := deepTree }).1 = .error
      { operation := .write
        path := Path.ofNames true deepNames
        cause := .temporary (Persist.temporaryPath deepTree deepPath) (.io .invalidFilename) } := by
  have rooted : deepTree.Rooted := isDirectoryAt_deepTree List.nil_prefix
  have short : ∀ name ∈ deepNames ++ ["a"], name.utf8ByteSize ≤ FileTree.maxNameBytes := by
    intro name member
    rcases mem_deep member with rfl | rfl | rfl | rfl
    all_goals decide +kernel
  have free : deepTree.at? (deepNames ++ ["a"]) = none := by
    cases found : deepTree.at? (deepNames ++ ["a"]) with
    | none => rfl
    | some node =>
        have onWay := (at?_deepTree found).1.length_le
        rw [List.length_append, List.length_singleton] at onWay
        omega
  have located : deepTree.locate true deepPath = .ok (.free (deepNames ++ ["a"]) false) :=
    FileTree.locate_straight_free areNames_deep short canFollow_deepPath
      (isDirectoryAt_deepTree List.prefix_rfl) free
  have direct := Persist.outcome_direct_of_free rooted areNames_deep short canFollow_deepPath
    (isDirectoryAt_deepTree List.prefix_rfl) free ⟨rfl, rfl⟩ "x"
  have directory : Persist.directoryOf deepPath = Path.ofNames true deepNames := by
    unfold deepPath
    rw [Persist.directoryOf_ofNames areNames_deep, List.dropLast_concat]
  refine ⟨rooted, ⟨_, areNames_deep, rfl⟩, linkFree_deepTree, ?_, ?_, ?_⟩
  · intro text isFile
    rw [FileTree.stat_of_free located] at isFile
    cases isFile
  · rw [persist_answer]
    exact congrArg Prod.fst direct
  · rw [persist_answer, ← directory]
    apply Persist.outcome_atomic_of_not_fits
    · apply not_fitsTemporary
      rw [directory]
      decide +kernel
    · exact congrArg Prod.fst direct

end RuleCompiler

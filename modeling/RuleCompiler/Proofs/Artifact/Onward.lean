import RuleCompiler.Proofs.Artifact.Again
import RuleCompiler.Proofs.Collection

/-!
Workspaces in which one document is written for several destinations. Directories are only added,
and a collection either stays or records the document, which changes nothing when it has before. The
artifacts that such steps tell of account for all files that differ, and can be read at the end if
their paths are different.
-/

namespace RuleCompiler

/-- A document as a collection records it. -/
structure Note where
  root : Path
  source : DocumentSource
  contents : String

def Note.recordIn (note : Note) (workingDirectory : Path) (collection : Collection) : Collection :=
  collection.record workingDirectory note.root note.source note.contents []

namespace Workspace

/-- Later in the writing of a document. -/
structure Onward (note : Note) (before after : Workspace) : Prop where
  files : FileTree.Grows before.files after.files
  collected : ∀ target, after.collected target = before.collected target ∨
    after.collected target = note.recordIn before.files.workingPath (before.collected target)

variable {note : Note} {before middle after : Workspace}

theorem Onward.workingPath (onward : Onward note before after) :
    after.files.workingPath = before.files.workingPath :=
  congrArg (Path.ofNames true) onward.files.workingDirectory

theorem Onward.refl (note : Note) (workspace : Workspace) : Onward note workspace workspace where
  files := FileTree.Grows.refl workspace.files
  collected _ := Or.inl rfl

theorem Onward.trans (named : note.source.IsNamed) (first : Onward note before middle)
    (second : Onward note middle after) : Onward note before after where
  files := first.files.trans second.files
  collected target := by
    have later := second.collected target
    rw [first.workingPath] at later
    rcases first.collected target with kept | recorded
    · rw [kept] at later
      exact later
    · -- Recording the document for a second time changes nothing.
      rw [recorded] at later
      have once : note.recordIn before.files.workingPath
          (note.recordIn before.files.workingPath (before.collected target)) =
            note.recordIn before.files.workingPath (before.collected target) :=
        Collection.record_record _ _ _ named _ _
      rw [once, or_self] at later
      exact Or.inr later

theorem Onward.congr {start final : Workspace} (onward : Onward note before after)
    (starts : start.Alike before) (ends : final.Alike after) : Onward note start final where
  files := by
    rw [starts.files, ends.files]
    exact onward.files
  collected := by
    rw [starts.files, starts.collected, ends.collected]
    exact onward.collected

/-- A collection that has recorded the document stays as it is. -/
theorem Onward.collected_of_recorded (onward : Onward note before after) {target : MergedTarget}
    (recorded : note.recordIn before.files.workingPath (before.collected target) =
      before.collected target) : after.collected target = before.collected target := by
  rcases onward.collected target with kept | again
  · exact kept
  · exact again.trans recorded

end Workspace

/-- What steps that write a document leave, told by these artifacts. -/
structure Leaves (note : Note) (before after : Workspace) (written : List WrittenArtifact) :
    Prop where
  onward : Workspace.Onward note before after
  normal : ∀ told ∈ written, told.path.IsNormal
  others : ∀ names, after.files.fileAt? names ≠ before.files.fileAt? names →
    ∃ told ∈ written, told.path = Path.ofNames true names
  holds : (written.map WrittenArtifact.path).Nodup →
    ∀ told ∈ written, Persist.Holds after.files told

namespace Leaves

variable {note : Note} {before middle after : Workspace} {first second : List WrittenArtifact}

theorem nothing (note : Note) (workspace : Workspace) : Leaves note workspace workspace [] where
  onward := Workspace.Onward.refl note workspace
  normal _ member := absurd member List.not_mem_nil
  others _ differs := absurd rfl differs
  holds _ _ member := absurd member List.not_mem_nil

theorem holds_later (leaves : Leaves note middle after second) (linkFree : middle.files.LinkFree)
    {told : WrittenArtifact} (normal : told.path.IsNormal)
    (holds : Persist.Holds middle.files told)
    (different : ∀ other ∈ second, other.path ≠ told.path) :
    Persist.Holds after.files told := by
  obtain ⟨names, areNames, isPath⟩ := normal
  have absolute : told.path.isAbsolute = true := by
    rw [isPath]
    exact Path.isAbsolute_ofNames names
  have named : told.path.names = names := by
    rw [isPath, Path.names_ofNames areNames]
  apply holds.grown linkFree absolute leaves.onward.files
  by_contra differs
  obtain ⟨other, member, samePath⟩ := leaves.others _ differs
  rw [named, ← isPath] at samePath
  exact different other member samePath

theorem append (named : note.source.IsNamed) (linkFree : before.files.LinkFree)
    (left : Leaves note before middle first) (right : Leaves note middle after second) :
    Leaves note before after (first ++ second) where
  onward := left.onward.trans named right.onward
  normal told member := by
    rcases List.mem_append.mp member with inFirst | inSecond
    · exact left.normal told inFirst
    · exact right.normal told inSecond
  others names differs := by
    by_cases byFirst : middle.files.fileAt? names = before.files.fileAt? names
    · rw [← byFirst] at differs
      obtain ⟨told, member, isPath⟩ := right.others names differs
      exact ⟨told, List.mem_append_right first member, isPath⟩
    · obtain ⟨told, member, isPath⟩ := left.others names byFirst
      exact ⟨told, List.mem_append_left second member, isPath⟩
  holds distinct told member := by
    rw [List.map_append] at distinct
    obtain ⟨firstDistinct, secondDistinct, apart⟩ := List.nodup_append.mp distinct
    rcases List.mem_append.mp member with inFirst | inSecond
    · have there := left.holds firstDistinct told inFirst
      apply right.holds_later (left.onward.files.linkFree linkFree) (left.normal told inFirst) there
      intro other inside samePath
      exact apart told.path (List.mem_map_of_mem inFirst) other.path (List.mem_map_of_mem inside)
        samePath.symm
    · exact right.holds secondDistinct told inSecond

theorem congr {start final : Workspace} (leaves : Leaves note before after first)
    (starts : start.Alike before) (ends : final.Alike after) : Leaves note start final first where
  onward := leaves.onward.congr starts ends
  normal := leaves.normal
  others := by
    rw [starts.files, ends.files]
    exact leaves.others
  holds := by
    rw [ends.files]
    exact leaves.holds

/-- Persisting one text, and perhaps recording the document. -/
theorem ofOutcome (linkFree : before.files.LinkFree) (rooted : before.files.Rooted) {path : Path}
    (normal : path.IsNormal) {contents : String} {mode : WriteMode} {told : WrittenArtifact}
    (persisted : Persist.outcome before.files path contents mode = (.ok told, after.files))
    (collected : ∀ target, after.collected target = before.collected target ∨
      after.collected target = note.recordIn before.files.workingPath (before.collected target)) :
    Leaves note before after [told] where
  onward := ⟨Persist.outcome_grows persisted, collected⟩
  normal other member := by
    rw [List.mem_singleton.mp member, Persist.path_of_outcome persisted]
    exact normal
  others names differs := by
    obtain ⟨_, _, accounts⟩ := Persist.outcome_accounts linkFree normal persisted
    obtain ⟨isPath, _⟩ := accounts names differs
    refine ⟨told, List.mem_cons_self, ?_⟩
    rw [Persist.path_of_outcome persisted, isPath]
  holds _ other member := by
    rw [List.mem_singleton.mp member]
    exact Persist.holds_of_outcome linkFree rooted normal persisted

end Leaves

end RuleCompiler

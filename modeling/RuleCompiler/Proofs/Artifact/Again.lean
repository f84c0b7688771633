import RuleCompiler.Proofs.Artifact.Persist
import RuleCompiler.Proofs.FileTree.Growth

/-!
Persisting a text once more. After a text is persisted at a normalized path, a text with its digest
is read there, until another is persisted at that path; and while it is, persisting the text again
changes nothing and is told as unchanged.
-/

namespace RuleCompiler

def WrittenArtifact.unchanged (artifact : WrittenArtifact) : WrittenArtifact :=
  { artifact with status := .unchanged }

namespace Persist

/-- A text with the digest of the artifact is read at its path. -/
def Holds (files : FileTree) (artifact : WrittenArtifact) : Prop :=
  ∃ text, files.stat artifact.path = .ok (.file (.text text)) ∧
    Sha256.contentDigest text = artifact.digest

theorem outcome_grows {files after : FileTree} {path : Path} {contents : String}
    {mode : WriteMode} {answer : Except WriteError WrittenArtifact}
    (persisted : outcome files path contents mode = (answer, after)) :
    FileTree.Grows files after := by
  rcases outcome_cases persisted with kept | ⟨_, made, place, left, kept, located, takes, put⟩
  · exact kept.toGrows
  · rw [put]
    have others := FileTree.keepsOtherFiles_put_file left (FileTree.locate_sound located) takes
    exact kept.toGrows.trans others.toGrows

section Outcome

variable {files after : FileTree} {path : Path} {contents : String} {mode : WriteMode}
  {told : WrittenArtifact}

theorem holds_of_outcome (linkFree : files.LinkFree) (rooted : files.Rooted)
    (normal : path.IsNormal) (persisted : outcome files path contents mode = (.ok told, after)) :
    Holds after told := by
  cases outcome_ends persisted with
  | unchanged same isText digest =>
      rw [same]
      exact ⟨_, existing?_eq_some isText, digest⟩
  | @written notThere place located takes isPut =>
      subst isPut
      have kept := keepsFiles_withDirectories files path
      obtain ⟨names, areNames, rfl⟩ := normal
      have madeLinkFree := kept.linkFree linkFree
      have put := FileTree.at?_put_of_locate madeLinkFree (kept.rooted rooted) areNames located
        takes (.text contents)
      have others := FileTree.keepsOtherFiles_put_file (.text contents)
        (FileTree.locate_sound located) takes
      refine ⟨contents, FileTree.stat_file_iff.mpr ⟨place.names, ?_⟩, rfl⟩
      exact FileTree.locate_file_grown madeLinkFree others.toGrows (Path.isAbsolute_ofNames names)
        takes put located

end Outcome

section Holds

variable {files : FileTree} {told : WrittenArtifact}

theorem Holds.not_directory (holds : Holds files told) (linkFree : files.LinkFree)
    (absolute : told.path.isAbsolute = true) : ¬ files.IsDirectoryAt told.path.names := by
  rintro ⟨entries, isDirectory⟩
  obtain ⟨text, isText, _⟩ := holds
  obtain ⟨names, located⟩ := FileTree.stat_file_iff.mp isText
  have named : names = told.path.names := FileTree.locate_names linkFree absolute located
  have found : files.at? names = some (.file (.text text)) := FileTree.locate_sound located
  rw [named, isDirectory] at found
  cases found

/-- What is read at a path stays there while the file at the path does. -/
theorem Holds.grown {after : FileTree} (holds : Holds files told) (linkFree : files.LinkFree)
    (absolute : told.path.isAbsolute = true) (grows : FileTree.Grows files after)
    (same : after.fileAt? told.path.names = files.fileAt? told.path.names) :
    Holds after told := by
  obtain ⟨text, isText, digest⟩ := holds
  exact ⟨text, FileTree.stat_file_grown linkFree grows absolute same isText, digest⟩

theorem outcome_of_holds {path : Path} {contents : String} {status : WriteStatus}
    (absolute : path.isAbsolute = true) (holds : Holds files (artifact path contents status))
    (mode : WriteMode) :
    outcome files path contents mode =
      (.ok (artifact path contents status).unchanged, files) := by
  obtain ⟨text, isText, digest⟩ := holds
  have existing : existing? files path = .ok (some text) := by
    unfold existing?
    rw [show files.stat path = _ from isText]
  have same : (some text).map Sha256.contentDigest = some (Sha256.contentDigest contents) :=
    congrArg some digest
  unfold outcome
  rw [if_pos absolute, existing]
  dsimp only
  rw [if_pos same]
  rfl

end Holds

end Persist

end RuleCompiler

import Mathlib.Data.List.Find
import RuleCompiler.Proofs.Collection
import RuleCompiler.Proofs.Path.Label

/-!
Documents with paths in a collection. The label of such a document tells its path, so a collection
has one entry for each path, however it is spelled and wherever it lies, and no document loses its
entry to one with another path.
-/

namespace RuleCompiler

/-- Two functions that tell the same elements apart have equally many values on a list. -/
theorem length_dedup_map_eq {α β γ : Type} [DecidableEq β] [DecidableEq γ] {first : α → β}
    {second : α → γ} (alike : ∀ x y, first x = first y ↔ second x = second y) (elements : List α) :
    (elements.map first).dedup.length = (elements.map second).dedup.length := by
  induction elements with
  | nil => rfl
  | cons head rest ih =>
      have seen : first head ∈ rest.map first ↔ second head ∈ rest.map second := by
        simp only [List.mem_map, alike]
      rw [List.map_cons, List.map_cons]
      by_cases again : first head ∈ rest.map first
      · rw [List.dedup_cons_of_mem again, List.dedup_cons_of_mem (seen.mp again), ih]
      · rw [List.dedup_cons_of_notMem again, List.dedup_cons_of_notMem (again ∘ seen.mpr),
          List.length_cons, List.length_cons, ih]

namespace Submission

/-- The path of a document, seen from the working directory. -/
def absolutePath? (workingDirectory : Path) (submission : Submission) : Option Path :=
  submission.source.path.map fun path => path.absolutize workingDirectory

/-- What was handed over last for a path, however it was spelled. -/
def latestAt? (workingDirectory : Path) (submissions : List Submission) (path : Path) :
    Option Contribution :=
  (submissions.reverse.find? fun submission =>
    submission.absolutePath? workingDirectory = some (path.absolutize workingDirectory)).map
      contribution

theorem label?_of_path {submission : Submission} {path : Path}
    (hasPath : submission.source.path = some path) (workingDirectory root : Path) :
    submission.label? workingDirectory root = some (path.relativeLabel workingDirectory root) := by
  unfold label? DocumentSource.ownLabel?
  rw [hasPath]

variable {workingDirectory : Path} (absolute : workingDirectory.isAbsolute = true) (root : Path)
  {submissions : List Submission}
  (paths : ∀ submission ∈ submissions, submission.source.path.isSome = true)

include absolute paths

theorem latest?_relativeLabel (path : Path) :
    latest? workingDirectory root submissions (path.relativeLabel workingDirectory root) =
      latestAt? workingDirectory submissions path := by
  unfold latest? latestAt?
  congr 1
  apply List.find?_congr
  intro submission member
  obtain ⟨own, hasPath⟩ :=
    Option.isSome_iff_exists.mp (paths submission (List.mem_reverse.mp member))
  unfold absolutePath?
  rw [label?_of_path hasPath, hasPath, Option.map_some, decide_eq_decide, Option.some_inj,
    Option.some_inj]
  exact Path.relativeLabel_eq_iff absolute

/-- There are as many labels as paths. -/
theorem length_dedup_labels :
    (submissions.filterMap (label? workingDirectory root)).dedup.length =
      (submissions.filterMap (absolutePath? workingDirectory)).dedup.length := by
  have labels : submissions.filterMap (label? workingDirectory root) =
      (submissions.filterMap fun submission => submission.source.path).map
        fun path => path.relativeLabel workingDirectory root := by
    rw [List.map_filterMap]
    apply List.filterMap_congr
    intro submission member
    obtain ⟨own, hasPath⟩ := Option.isSome_iff_exists.mp (paths submission member)
    rw [label?_of_path hasPath, hasPath, Option.map_some]
  have absolutes : submissions.filterMap (absolutePath? workingDirectory) =
      (submissions.filterMap fun submission => submission.source.path).map
        fun path => path.absolutize workingDirectory := by
    rw [List.map_filterMap]
    rfl
  rw [labels, absolutes]
  exact length_dedup_map_eq (fun _ _ => Path.relativeLabel_eq_iff absolute) _

end Submission

namespace Collection

/-- The second of two documents takes the entry of the first if they have one path; else both have
an entry. -/
theorem submit_submit_of_paths {workingDirectory : Path}
    (absolute : workingDirectory.isAbsolute = true) (root : Path) (collection : Collection)
    {first second : Submission} {firstPath secondPath : Path}
    (isFirst : first.source.path = some firstPath)
    (isSecond : second.source.path = some secondPath) :
    let both :=
      (collection.submit workingDirectory root first).submit workingDirectory root second
    (firstPath.absolutize workingDirectory = secondPath.absolutize workingDirectory →
      both = collection.submit workingDirectory root second) ∧
    (firstPath.absolutize workingDirectory ≠ secondPath.absolutize workingDirectory →
      both.entries.get? (firstPath.relativeLabel workingDirectory root) =
        some first.contribution ∧
      both.entries.get? (secondPath.relativeLabel workingDirectory root) =
        some second.contribution) := by
  intro both
  have submitted : ∀ (collection : Collection) {submission : Submission} {path : Path},
      submission.source.path = some path →
      collection.submit workingDirectory root submission =
        { collection with
          entries := collection.entries.insert (path.relativeLabel workingDirectory root)
            submission.contribution } :=
    fun collection _ _ hasPath =>
      record_of_ownLabel? collection _ _ (Submission.label?_of_path hasPath workingDirectory root)
  have isBoth : both = (collection.submit workingDirectory root first).submit workingDirectory root
    second := rfl
  rw [submitted collection isFirst, submitted _ isSecond] at isBoth
  rw [isBoth]
  constructor
  · intro same
    rw [submitted collection isSecond, (Path.relativeLabel_eq_iff absolute).mpr same,
      KeyedList.insert_insert]
  · intro different
    have apart : secondPath.relativeLabel workingDirectory root ≠
        firstPath.relativeLabel workingDirectory root :=
      fun same => different ((Path.relativeLabel_eq_iff absolute).mp same.symm)
    refine ⟨?_, KeyedList.get?_insert_self _ _ _⟩
    rw [KeyedList.get?_insert_of_ne _ _ apart, KeyedList.get?_insert_self]

/-- A label tells the path of its document. So after a run over documents with paths there is one
entry for each path: what was handed over last for it, however it was spelled. -/
theorem entries_tell_paths {workingDirectory : Path}
    (absolute : workingDirectory.isAbsolute = true) (root : Path) :
    (∀ path : Path,
      ((root.absolutize workingDirectory).join
          (path.relativeLabel workingDirectory root)).absolutize workingDirectory =
        path.absolutize workingDirectory ∧
      ∀ segment ∈ Text.pieces '/' (path.relativeLabel workingDirectory root),
        segment ≠ "." ∧ segment ≠ "..") ∧
    (∀ (collection : Collection) (first second : Submission) (firstPath secondPath : Path),
      first.source.path = some firstPath → second.source.path = some secondPath →
      let both :=
        (collection.submit workingDirectory root first).submit workingDirectory root second
      (firstPath.absolutize workingDirectory = secondPath.absolutize workingDirectory →
        both = collection.submit workingDirectory root second) ∧
      (firstPath.absolutize workingDirectory ≠ secondPath.absolutize workingDirectory →
        both.entries.get? (firstPath.relativeLabel workingDirectory root) =
          some first.contribution ∧
        both.entries.get? (secondPath.relativeLabel workingDirectory root) =
          some second.contribution)) ∧
    (∀ submissions : List Submission,
      (∀ submission ∈ submissions, submission.source.path.isSome = true) →
      let collection := submitAll workingDirectory root {} submissions
      collection.size =
        (submissions.filterMap (Submission.absolutePath? workingDirectory)).dedup.length ∧
      ∀ path : Path, collection.entries.get? (path.relativeLabel workingDirectory root) =
        Submission.latestAt? workingDirectory submissions path) := by
  refine ⟨fun path => ?_, fun collection _ _ _ _ isFirst isSecond => ?_, ?_⟩
  · exact ⟨Path.absolutize_join_relativeLabel path root absolute,
      Path.segments_relativeLabel path root absolute⟩
  · exact submit_submit_of_paths absolute root collection isFirst isSecond
  · intro submissions paths collection
    have named : ∀ submission ∈ submissions, submission.source.IsNamed :=
      fun submission member => Or.inl (paths submission member)
    have labels := (@keys_submitAll_perm workingDirectory root submissions named).length_eq
    rw [KeyedList.keys, List.length_map] at labels
    refine ⟨labels.trans (Submission.length_dedup_labels absolute root paths), fun path => ?_⟩
    rw [get?_submitAll {} submissions named,
      Submission.latest?_relativeLabel absolute root paths]
    exact Option.or_none

/-- Two spellings of a path below the root and two paths outside of it. -/
theorem entries_tell_paths_of_spellings :
    let submission (path contents : String) : Submission :=
      { source := { id := "", path := some ⟨path⟩, contents := "" }
        contents, diagnostics := [], emit := true }
    let submissions :=
      [submission "/repo/b.md" "Draft", submission "/b.md" "Other",
        submission "x/.././b.md" "Final", submission "/repo" "Root"]
    (Path.mk "/repo").isAbsolute = true ∧
    (∀ submission ∈ submissions, submission.source.path.isSome = true) ∧
    (submitAll ⟨"/repo"⟩ ⟨"./"⟩ {} submissions).size = 3 ∧
    ((submitAll ⟨"/repo"⟩ ⟨"./"⟩ {} submissions).entries.get?
        ((Path.mk "/repo/b.md").relativeLabel ⟨"/repo"⟩ ⟨"./"⟩)).map Contribution.contents =
      some "Final" := by
  intro submission submissions
  have absolute : (Path.mk "/repo").isAbsolute = true := by decide
  have paths : ∀ submission ∈ submissions, submission.source.path.isSome = true := by decide +kernel
  obtain ⟨_, _, runs⟩ := entries_tell_paths absolute ⟨"./"⟩
  obtain ⟨sizeEq, latest⟩ := runs submissions paths
  refine ⟨absolute, paths, sizeEq.trans (by decide +kernel), ?_⟩
  rw [latest]
  decide +kernel

end Collection

end RuleCompiler

import RuleCompiler.Proofs.FileTree.Passage
import RuleCompiler.Proofs.Path.Output

/-!
Output paths at a directory that exists. The check looks for a directory along the path as it was
configured, while the output lies where that path leads once it is normalized. The two agree unless
the path goes through something that is no directory and comes back with `..`.
-/

namespace RuleCompiler

namespace OutputPath

/-- Where the candidate leads to a directory once it is normalized, the output goes into it exactly
if the candidate looks like a directory or leads to one as it stands; otherwise the directory itself
is given as the output. Without any `..` in the candidate it does not come to that. -/
theorem resolve_stat_at_directory {tree : FileTree} (linkFree : tree.LinkFree) {base : Path}
    (absolute : base.isAbsolute = true) (configured : Option String) {fallback : String}
    (isName : Path.IsName fallback)
    (isDirectory :
      tree.isDirectory (tree.absolutize (candidate base configured).1) = true) :
    let path := (candidate base configured).1
    let text := (candidate base configured).2
    let directory := tree.absolutize path
    let told := looksLikeDirectory text = true ∨
      FileTree.CanFollow path ∧ tree.PassesDirectories [] path.segments
    let resolved := resolve tree.workingPath tree.isDirectory base configured fallback .stat
    (resolved = directory.join fallback ↔ told) ∧
    (resolved = directory ↔ ¬ told) ∧
    (FileTree.CanFollow path → ".." ∉ path.segments → resolved = directory.join fallback) := by
  have pathAbsolute := isAbsolute_candidate absolute configured
  have resolvedEq := resolve_stat tree.workingPath tree.isDirectory base configured fallback
  intro path text directory told resolved
  have inside : (path.join fallback).absolutize tree.workingPath = directory.join fallback :=
    Path.absolutize_join pathAbsolute tree.workingPath isName
  have apart : directory.join fallback ≠ directory := by
    rw [← inside]
    exact Path.absolutize_join_ne path (Path.isAbsolute_ofNames _) isName
  have toldIff : (looksLikeDirectory text = true ∨ tree.isDirectory path = true) ↔ told :=
    or_congr_right (FileTree.isDirectory_iff_passes linkFree pathAbsolute)
  have whenTold (isTold : told) : resolved = directory.join fallback := by
    rw [← inside]
    refine resolvedEq.trans ?_
    rw [if_pos (toldIff.mpr isTold)]
  have whenNot (notTold : ¬ told) : resolved = directory := by
    refine resolvedEq.trans ?_
    rw [if_neg (mt toldIff.mp notTold)]
    rfl
  refine ⟨⟨?_, whenTold⟩, ⟨?_, whenNot⟩, ?_⟩
  · intro joined
    by_contra notTold
    exact apart (joined.symm.trans (whenNot notTold))
  · intro same isTold
    exact apart ((whenTold isTold).symm.trans same)
  · intro canFollow notUp
    apply whenTold
    rw [← toldIff]
    exact Or.inr (FileTree.isDirectory_of_not_up linkFree pathAbsolute canFollow notUp isDirectory)

/-- A directory whose name has an extension, and nothing else. -/
def dottedDirectory : FileTree :=
  (({} : FileTree).createDirectories ⟨"/rules.d"⟩).2

theorem linkFree_dottedDirectory : dottedDirectory.LinkFree := by
  unfold dottedDirectory
  exact FileTree.linkFree_createDirectories_empty [] ⟨"/rules.d"⟩

theorem resolve_stat_at_dottedDirectory :
    let path := (candidate ⟨"/CLAUDE.md"⟩ (some " ./rules.d ")).1
    dottedDirectory.LinkFree ∧ (Path.mk "/CLAUDE.md").isAbsolute = true ∧
    Path.IsName "a.md" ∧ dottedDirectory.isDirectory (dottedDirectory.absolutize path) = true ∧
    FileTree.CanFollow path ∧ ".." ∉ path.segments ∧
    resolve dottedDirectory.workingPath dottedDirectory.isDirectory ⟨"/CLAUDE.md"⟩
      (some " ./rules.d ") "a.md" .stat = ⟨"/rules.d/a.md"⟩ := by
  intro path
  have absolute : (Path.mk "/CLAUDE.md").isAbsolute = true := by decide
  have isName : Path.IsName "a.md" := ⟨rfl, by decide, by decide⟩
  have isDirectory : dottedDirectory.isDirectory (dottedDirectory.absolutize path) = true := by
    decide +kernel
  have canFollow : FileTree.CanFollow path :=
    ⟨by decide +kernel, by decide +kernel, by decide +kernel⟩
  have notUp : ".." ∉ path.segments := by decide +kernel
  have joined : (dottedDirectory.absolutize path).join "a.md" = ⟨"/rules.d/a.md"⟩ := by
    decide +kernel
  refine ⟨linkFree_dottedDirectory, absolute, isName, isDirectory, canFollow, notUp, ?_⟩
  rw [← joined]
  exact (resolve_stat_at_directory linkFree_dottedDirectory absolute (some " ./rules.d ") isName
    isDirectory).2.2 canFollow notUp

/-- Through a directory that does not exist, the check does not see the one that the path is
normalized to, and the output takes its place. -/
theorem resolve_stat_through_missing_directory :
    let configured := some "missing/../rules.d"
    let path := (candidate ⟨"/CLAUDE.md"⟩ configured).1
    dottedDirectory.LinkFree ∧ (Path.mk "/CLAUDE.md").isAbsolute = true ∧ Path.IsName "a.md" ∧
    dottedDirectory.isDirectory (dottedDirectory.absolutize path) = true ∧
    (dottedDirectory.absolutize path).join "a.md" = ⟨"/rules.d/a.md"⟩ ∧
    resolve dottedDirectory.workingPath dottedDirectory.isDirectory ⟨"/CLAUDE.md"⟩ configured
      "a.md" .stat = ⟨"/rules.d"⟩ :=
  ⟨linkFree_dottedDirectory, by decide, ⟨rfl, by decide, by decide⟩, by decide +kernel,
    by decide +kernel, by decide +kernel⟩

end OutputPath

end RuleCompiler

import RuleCompiler.Proofs.FileTree.Growth

/-!
Directories on the way of a path. In a tree without links a path leads to a directory exactly if
there is one at every stop of the walk along its segments, also at the stops that a later `..`
leaves again. Without any `..` a directory where the path leads is enough.
-/

namespace RuleCompiler

namespace Path

theorem utf8ByteSize_of_isIdle {segment : String} (idle : isIdle segment = true) :
    segment.utf8ByteSize ≤ FileTree.maxNameBytes := by
  rcases Bool.or_eq_true_iff.mp idle with empty | dot
  · rw [eq_of_beq empty]
    decide
  · rw [eq_of_beq dot]
    decide

/-- Where nothing leads up, all segments stay that lead anywhere. -/
theorem foldl_walk_of_not_up {segments : List String} (notUp : ".." ∉ segments)
    (stack : List String) :
    segments.foldl walk stack =
      (segments.filter fun segment => !isIdle segment).reverse ++ stack := by
  induction segments generalizing stack with
  | nil => rfl
  | cons segment rest ih =>
      obtain ⟨notHere, notLater⟩ := not_or.mp (mt List.mem_cons.mpr notUp)
      rw [List.foldl_cons, ih notLater]
      cases idle : isIdle segment with
      | true =>
          rw [walk_of_isIdle stack idle, List.filter_cons_of_neg (by rw [idle]; decide)]
      | false =>
          rw [List.filter_cons_of_pos (by rw [idle]; rfl), List.reverse_cons, List.append_assoc]
          unfold walk
          rw [idle, if_neg Bool.false_ne_true, if_neg (Ne.symm notHere)]
          rfl

theorem names_of_not_up {path : Path} (notUp : ".." ∉ path.segments) : path.names = path.steps := by
  unfold names
  rw [foldl_walk_of_not_up notUp, List.append_nil, List.reverse_reverse]
  rfl

end Path

namespace FileTree

variable {tree : FileTree}

/-- The walk from `stack` can look up every segment, and stops at directories alone. -/
structure PassesDirectories (tree : FileTree) (stack segments : List String) : Prop where
  short : ∀ segment ∈ segments, segment.utf8ByteSize ≤ maxNameBytes
  stops : ∀ lead, lead <+: segments → tree.IsDirectoryAt (lead.foldl Path.walk stack).reverse

theorem PassesDirectories.start {stack segments : List String}
    (passes : tree.PassesDirectories stack segments) : tree.IsDirectoryAt stack.reverse :=
  passes.stops [] List.nil_prefix

theorem passesDirectories_nil {stack : List String} (standing : tree.IsDirectoryAt stack.reverse) :
    tree.PassesDirectories stack [] where
  short := nofun
  stops := by
    intro lead before
    rw [List.prefix_nil.mp before]
    exact standing

theorem passesDirectories_cons {stack rest : List String} {segment : String}
    (standing : tree.IsDirectoryAt stack.reverse) :
    tree.PassesDirectories stack (segment :: rest) ↔
      segment.utf8ByteSize ≤ maxNameBytes ∧
        tree.PassesDirectories (Path.walk stack segment) rest := by
  constructor
  · intro passes
    refine ⟨passes.short segment List.mem_cons_self, ?_, ?_⟩
    · exact fun other member => passes.short other (List.mem_cons_of_mem segment member)
    · intro lead before
      exact passes.stops (segment :: lead) (List.cons_prefix_cons.mpr ⟨rfl, before⟩)
  · rintro ⟨short, passes⟩
    refine ⟨List.forall_mem_cons.mpr ⟨short, passes.short⟩, ?_⟩
    intro lead before
    rcases List.prefix_cons_iff.mp before with rfl | ⟨more, rfl, moreBefore⟩
    · exact standing
    · exact passes.stops more moreBefore

section Walk

variable {followLast : Bool} {onward : List String → List String → Except IoError Place}

/-- The walk ends at a directory. -/
def EndsAtDirectory (walked : Except IoError Place) : Prop :=
  ∃ names entries, walked = .ok (.taken names (.directory entries))

theorem followSegments_directory_iff (linkFree : tree.LinkFree) (rooted : tree.Rooted)
    {segments stack : List String} (standing : tree.IsDirectoryAt stack.reverse) :
    EndsAtDirectory (tree.followSegments followLast onward stack segments) ↔
      tree.PassesDirectories stack segments := by
  induction segments generalizing stack with
  | nil =>
      obtain ⟨entries, found⟩ := standing
      refine iff_of_true ⟨stack.reverse, entries, ?_⟩ (passesDirectories_nil ⟨entries, found⟩)
      rw [followSegments, found]
  | cons segment rest ih =>
      rw [passesDirectories_cons standing]
      by_cases idle : Path.isIdle segment = true
      · rw [followSegments_idle stack idle, Path.walk_of_isIdle stack idle, ih standing]
        exact (and_iff_right (Path.utf8ByteSize_of_isIdle idle)).symm
      · by_cases up : segment = ".."
        · subst up
          have above : Path.walk stack ".." = stack.tail := rfl
          rw [followSegments_up, above, ih (rooted.isDirectoryAt_tail standing)]
          exact (and_iff_right (by decide)).symm
        · by_cases long : segment.utf8ByteSize > maxNameBytes
          · rw [followSegments, if_neg idle, if_neg up, if_pos long]
            refine iff_of_false ?_ fun both => Nat.not_le_of_gt long both.1
            rintro ⟨_, _, ends⟩
            cases ends
          · have isEntry : IsEntry segment :=
              ⟨Bool.eq_false_iff.mpr idle, up, Nat.le_of_not_gt long⟩
            rw [and_iff_right isEntry.short, isEntry.walk]
            by_cases enters : tree.IsDirectoryAt (segment :: stack).reverse
            · obtain ⟨entries, found⟩ := enters
              rw [followSegments_directory isEntry found]
              exact ih ⟨entries, found⟩
            · -- What is no directory may end the walk, but not at a directory.
              refine iff_of_false ?_ fun passes => enters passes.start
              rintro ⟨names, entries, followed⟩
              rcases followSegments_entry_ok isEntry followed with
                ⟨others, found, _⟩ | ⟨ends, has, _⟩ | ⟨target, found, _⟩
              · exact enters ⟨others, found⟩
              · rw [← ends] at enters
                exact enters ⟨entries, has⟩
              · exact linkFree _ target (surfaceAt?_eq_some_link.mpr found)

end Walk

theorem isDirectory_iff_passes (linkFree : tree.LinkFree) {path : Path}
    (absolute : path.isAbsolute = true) :
    tree.isDirectory path = true ↔
      CanFollow path ∧ tree.PassesDirectories [] path.segments := by
  constructor
  · intro isDirectory
    have named := isDirectoryAt_names linkFree absolute isDirectory
    have rooted : tree.Rooted := IsDirectoryAt.lead named
    have standing : tree.IsDirectoryAt ([] : List String).reverse := rooted
    obtain ⟨names, entries, located⟩ := isDirectory_iff.mp isDirectory
    have canFollow := canFollow_of_locate located
    rw [locate_of_canFollow canFollow absolute] at located
    exact ⟨canFollow, (followSegments_directory_iff linkFree rooted standing).mp
      ⟨names, entries, located⟩⟩
  · rintro ⟨canFollow, passes⟩
    have rooted : tree.Rooted := passes.start
    obtain ⟨names, entries, located⟩ :=
      (followSegments_directory_iff linkFree rooted passes.start).mpr passes
    refine isDirectory_iff.mpr ⟨names, entries, ?_⟩
    rw [locate_of_canFollow canFollow absolute]
    exact located

/-- Without any `..` a path leads to the directory that is there once the path is normalized. -/
theorem isDirectory_of_not_up (linkFree : tree.LinkFree) {path : Path}
    (absolute : path.isAbsolute = true) (canFollow : CanFollow path)
    (notUp : ".." ∉ path.segments) (isDirectory : tree.isDirectory (tree.absolutize path) = true) :
    tree.isDirectory path = true := by
  have areNames := Path.areNames_names path
  have normalized : tree.absolutize path = Path.ofNames true path.names :=
    Path.absolutize_of_isAbsolute absolute tree.workingPath
  rw [normalized] at isDirectory
  obtain ⟨_, passes⟩ :=
    (isDirectory_iff_passes linkFree (Path.isAbsolute_ofNames _)).mp isDirectory
  have named := isDirectoryAt_names linkFree (Path.isAbsolute_ofNames _) isDirectory
  rw [Path.names_ofNames areNames, Path.names_of_not_up notUp] at named
  refine (isDirectory_iff_passes linkFree absolute).mpr ⟨canFollow, ?_, ?_⟩
  · intro segment member
    by_cases idle : Path.isIdle segment = true
    · exact Path.utf8ByteSize_of_isIdle idle
    · have isStep : segment ∈ path.names := by
        rw [Path.names_of_not_up notUp]
        exact List.mem_filter.mpr ⟨member, by rw [Bool.eq_false_iff.mpr idle]; rfl⟩
      apply passes.short
      rw [Path.segments_ofNames areNames, if_neg (List.ne_nil_of_mem isStep)]
      exact List.mem_cons_of_mem "" isStep
  · rintro lead ⟨rest, split⟩
    have leadNotUp : ".." ∉ lead := fun member => notUp (split ▸ List.mem_append_left rest member)
    unfold Path.steps at named
    rw [← split, List.filter_append] at named
    rw [Path.foldl_walk_of_not_up leadNotUp, List.append_nil, List.reverse_reverse]
    exact named.lead

end FileTree

end RuleCompiler

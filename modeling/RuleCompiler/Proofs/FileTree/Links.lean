import RuleCompiler.Proofs.FileTree.Growth

/-!
Following a path again, through links. While directories and links stay where they are, a path that
led to a directory leads there still. Writing in place keeps them all: a path that is followed to
its end does not end at a link.
-/

namespace RuleCompiler

/-- Nothing is at the place, or no link. -/
def Place.OffLinks : Place → Prop
  | .taken _ (.link _) => False
  | _ => True

namespace FileTree

structure KeepsWays (before after : FileTree) : Prop where
  directories : ∀ names, before.IsDirectoryAt names → after.IsDirectoryAt names
  links : ∀ names target, before.at? names = some (.link target) →
    after.at? names = some (.link target)

/-! ### Directories -/

section Again

variable {before after : FileTree}

theorem followSegments_directory_kept (kept : KeepsWays before after) {followLast : Bool}
    {onward onwardAgain : List String → List String → Except IoError Place}
    {names : List String} {entries : List (String × FileNode)}
    (further : ∀ {stack segments},
      onward stack segments = .ok (.taken names (.directory entries)) →
        ∃ others, onwardAgain stack segments = .ok (.taken names (.directory others)))
    {segments stack : List String}
    (followed : before.followSegments followLast onward stack segments =
      .ok (.taken names (.directory entries))) :
    ∃ others, after.followSegments followLast onwardAgain stack segments =
      .ok (.taken names (.directory others)) := by
  refine followSegments_directory_again kept.directories ?_ followed
  intro segment rest stack target isEntry found followed
  rw [followSegments_link isEntry found] at followed
  rw [followSegments_link isEntry (kept.links _ target found)]
  split at followed
  · cases followed
  · next goesOn =>
      rw [if_neg goesOn]
      exact further followed

theorem follow_directory_kept (kept : KeepsWays before after) {followLast : Bool} (links : Nat)
    {names : List String} {entries : List (String × FileNode)} {stack segments : List String}
    (followed : before.follow followLast links stack segments =
      .ok (.taken names (.directory entries))) :
    ∃ others, after.follow followLast links stack segments =
      .ok (.taken names (.directory others)) := by
  induction links generalizing stack segments with
  | zero =>
      refine followSegments_directory_kept kept ?_ followed
      intro _ _ impossible
      cases impossible
  | succ links ih => exact followSegments_directory_kept kept ih followed

theorem isDirectory_kept (kept : KeepsWays before after) {path : Path}
    (absolute : path.isAbsolute = true) (isDirectory : before.isDirectory path = true) :
    after.isDirectory path = true := by
  obtain ⟨names, entries, located⟩ := isDirectory_iff.mp isDirectory
  have canFollow := canFollow_of_locate located
  rw [locate_of_canFollow canFollow absolute] at located
  obtain ⟨others, again⟩ := follow_directory_kept kept maxLinks located
  rw [← locate_of_canFollow canFollow absolute] at again
  exact isDirectory_iff.mpr ⟨names, others, again⟩

end Again

/-! ### Writing in place -/

section Place

variable {tree : FileTree} {onward : List String → List String → Except IoError Place}

theorem followSegments_offLinks (rooted : tree.Rooted)
    (further : ∀ {stack segments place}, tree.IsDirectoryAt stack.reverse →
      onward stack segments = .ok place → place.OffLinks)
    {segments stack : List String} {place : Place} (standing : tree.IsDirectoryAt stack.reverse)
    (followed : tree.followSegments true onward stack segments = .ok place) : place.OffLinks := by
  induction segments generalizing stack with
  | nil =>
      obtain ⟨entries, isDirectory⟩ := standing
      rw [followSegments, isDirectory] at followed
      cases followed
      trivial
  | cons segment rest ih =>
      rcases followSegments_cons_ok followed with ⟨_, goesOn⟩ | ⟨rfl, goesOn⟩ | isEntry
      · exact ih standing goesOn
      · exact ih (rooted.isDirectoryAt_tail standing) goesOn
      · cases found : tree.at? (segment :: stack).reverse with
        | none =>
            rw [followSegments_free isEntry found] at followed
            split at followed
            · cases followed
              trivial
            · cases followed
        | some node =>
            cases node with
            | directory entries =>
                rw [followSegments_directory isEntry found] at followed
                exact ih ⟨entries, found⟩ followed
            | file contents =>
                rw [followSegments_file isEntry found] at followed
                split at followed
                · cases followed
                  trivial
                · cases followed
            | link target =>
                -- The walk never stops here, even where nothing comes behind the link.
                rw [followSegments_link isEntry found, Bool.not_true, Bool.and_false,
                  if_neg Bool.false_ne_true] at followed
                exact further (rooted.isDirectoryAt_start standing _) followed

theorem follow_offLinks (rooted : tree.Rooted) (links : Nat) {stack segments : List String}
    {place : Place} (standing : tree.IsDirectoryAt stack.reverse)
    (followed : tree.follow true links stack segments = .ok place) : place.OffLinks := by
  induction links generalizing stack segments place with
  | zero =>
      refine followSegments_offLinks rooted ?_ standing followed
      intro _ _ _ _ impossible
      cases impossible
  | succ links ih => exact followSegments_offLinks rooted ih standing followed

theorem locate_offLinks (rooted : tree.Rooted) {path : Path} (absolute : path.isAbsolute = true)
    {place : Place} (located : tree.locate true path = .ok place) : place.OffLinks := by
  have standing : tree.IsDirectoryAt ([] : List String).reverse := rooted
  rw [locate_of_canFollow (canFollow_of_locate located) absolute] at located
  exact follow_offLinks rooted maxLinks standing located

/-- A file that is put where no link is hides no directory and no link. -/
theorem keepsWays_put_file {place : Place} (has : tree.Has place) (takes : place.TakesFile)
    (offLinks : place.OffLinks) (contents : FileContents) :
    KeepsWays tree (tree.put place.names (.file contents)) where
  directories := (keepsOtherFiles_put_file contents has takes).directories
  links := by
    intro names target found
    have different : names ≠ place.names := by
      rintro rfl
      cases place with
      | taken names node =>
          have same : node = .link target := Option.some.inj (has.symm.trans found)
          rw [same] at offLinks
          exact offLinks
      | free names slash => cases has.symm.trans found
    have hollow := hollow_of_takesFile has takes
    rw [← surfaceAt?_eq_some_link, surfaceAt?_put_file contents hollow different]
    exact surfaceAt?_eq_some_link.mpr found

end Place

/-! ### Above a path that leads somewhere -/

/-- Where nothing is a directory, no path of two names leads anywhere. -/
theorem rooted_of_locate {tree : FileTree} {followLast : Bool} {names : List String}
    (areNames : Path.AreNames names) (long : 2 ≤ names.length) {place : Place}
    (located : tree.locate followLast (Path.ofNames true names) = .ok place) : tree.Rooted := by
  obtain ⟨first, second, more, rfl⟩ : ∃ first second more, names = first :: second :: more := by
    match names, long with
    | first :: second :: more, _ => exact ⟨first, second, more, rfl⟩
  have firstName := areNames first List.mem_cons_self
  have secondName := areNames second (List.mem_cons_of_mem _ List.mem_cons_self)
  rw [locate_of_canFollow (canFollow_of_locate located) (Path.isAbsolute_ofNames _),
    Path.segments_ofNames areNames, if_neg (List.cons_ne_nil _ _)] at located
  unfold maxLinks follow at located
  rw [followSegments_idle [] Path.isIdle_empty] at located
  rcases followSegments_cons_ok located with ⟨idle, _⟩ | ⟨up, _⟩ | isEntry
  · cases firstName.notIdle.symm.trans idle
  · exact absurd up firstName.notUp
  · cases found : tree.at? [first] with
    | none =>
        rw [followSegments_free isEntry found] at located
        split at located
        · next onlySlashes =>
            have slash := List.all_eq_true.mp onlySlashes second List.mem_cons_self
            exact absurd (eq_of_beq slash) secondName.ne_empty
        · cases located
    | some node =>
        exact FileNode.directory_of_at?_append (List.cons_ne_nil first []) found

/-- Two names above a path that leads somewhere, there is a directory. -/
theorem isDirectory_above {tree : FileTree} {followLast : Bool} {above : List String}
    {directory name : String} (areNames : Path.AreNames (above ++ [directory] ++ [name]))
    (rooted : tree.Rooted) {place : Place}
    (located : tree.locate followLast (Path.ofNames true (above ++ [directory] ++ [name])) =
      .ok place) :
    tree.isDirectory (Path.ofNames true above) = true := by
  obtain ⟨_, _, inDirectory, _⟩ := locate_above areNames rooted true located
  obtain ⟨names, node, stands, isDirectory⟩ :=
    locate_above areNames.ofAppend.1 rooted true inDirectory
  obtain ⟨entries, rfl⟩ := isDirectory rfl
  exact isDirectory_iff.mpr ⟨names, entries, stands⟩

end FileTree

end RuleCompiler

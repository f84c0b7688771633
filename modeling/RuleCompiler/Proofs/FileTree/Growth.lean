import RuleCompiler.Proofs.FileTree.Follow

/-!
Following a path again once a tree without links has grown. The walk went through directories, which
are still there. So it ends at the same directory, or where it could put a file, at the file that is
there now; and a path that has become the path of a directory names that directory.
-/

namespace RuleCompiler.FileTree

variable {before after : FileTree}

section Walk

variable {followLast followAgain : Bool}
  {onward onwardAgain : List String → List String → Except IoError Place}

/-- A walk to a directory can be taken again where the directories are kept, if it can be at the
links on it. -/
theorem followSegments_directory_again
    (kept : ∀ names, before.IsDirectoryAt names → after.IsDirectoryAt names)
    {names : List String} {entries : List (String × FileNode)}
    (atLink : ∀ {segment rest stack target}, IsEntry segment →
      before.at? (segment :: stack).reverse = some (.link target) →
      before.followSegments followLast onward stack (segment :: rest) =
        .ok (.taken names (.directory entries)) →
      ∃ others, after.followSegments followAgain onwardAgain stack (segment :: rest) =
        .ok (.taken names (.directory others)))
    {segments stack : List String}
    (followed : before.followSegments followLast onward stack segments =
      .ok (.taken names (.directory entries))) :
    ∃ others, after.followSegments followAgain onwardAgain stack segments =
      .ok (.taken names (.directory others)) := by
  induction segments generalizing stack with
  | nil =>
      unfold followSegments at followed
      split at followed
      · next found =>
          cases followed
          obtain ⟨others, still⟩ := kept _ ⟨entries, found⟩
          refine ⟨others, ?_⟩
          rw [followSegments, still]
      · cases followed
  | cons segment rest ih =>
      rcases followSegments_cons_ok followed with ⟨idle, goesOn⟩ | ⟨rfl, goesOn⟩ | isEntry
      · rw [followSegments_idle stack idle]
        exact ih goesOn
      · rw [followSegments_up]
        exact ih goesOn
      · cases found : before.at? (segment :: stack).reverse with
        | none =>
            rw [followSegments_free isEntry found] at followed
            split at followed <;> cases followed
        | some node =>
            cases node with
            | directory inside =>
                rw [followSegments_directory isEntry found] at followed
                obtain ⟨others, still⟩ := kept _ ⟨inside, found⟩
                rw [followSegments_directory isEntry still]
                exact ih followed
            | file contents =>
                rw [followSegments_file isEntry found] at followed
                split at followed <;> cases followed
            | link target => exact atLink isEntry found followed

theorem followSegments_directory_grown (linkFree : before.LinkFree) (grows : Grows before after)
    {names : List String} {entries : List (String × FileNode)} {segments stack : List String}
    (followed : before.followSegments followLast onward stack segments =
      .ok (.taken names (.directory entries))) :
    ∃ others, after.followSegments followAgain onwardAgain stack segments =
      .ok (.taken names (.directory others)) := by
  refine followSegments_directory_again grows.directories ?_ followed
  intro _ _ _ target _ found _
  exact absurd (surfaceAt?_eq_some_link.mpr found) (linkFree _ target)

theorem followSegments_file_grown (linkFree : before.LinkFree) (grows : Grows before after)
    {place : Place} (takes : place.TakesFile) {contents : FileContents}
    (put : after.at? place.names = some (.file contents)) {segments stack : List String}
    (followed : before.followSegments followLast onward stack segments = .ok place) :
    after.followSegments followAgain onwardAgain stack segments =
      .ok (.taken place.names (.file contents)) := by
  induction segments generalizing stack with
  | nil =>
      unfold followSegments at followed
      split at followed
      · cases followed
        rw [Place.names] at put ⊢
        rw [followSegments, put]
      · cases followed
  | cons segment rest ih =>
      rcases followSegments_cons_ok followed with ⟨idle, goesOn⟩ | ⟨rfl, goesOn⟩ | isEntry
      · rw [followSegments_idle stack idle]
        exact ih goesOn
      · rw [followSegments_up]
        exact ih goesOn
      · cases found : before.at? (segment :: stack).reverse with
        | none =>
            -- The walk ended where nothing was; the file is there now.
            rw [followSegments_free isEntry found] at followed
            split at followed
            · cases followed
              have ends : (!rest.isEmpty) = false := takes
              rw [followSegments_file isEntry put, if_pos ((Bool.not_eq_false' _).mp ends)]
              rfl
            · cases followed
        | some node =>
            cases node with
            | directory inside =>
                rw [followSegments_directory isEntry found] at followed
                obtain ⟨others, still⟩ := grows.directories _ ⟨inside, found⟩
                rw [followSegments_directory isEntry still]
                exact ih followed
            | file old =>
                rw [followSegments_file isEntry found] at followed
                split at followed
                · next ends =>
                    cases followed
                    rw [followSegments_file isEntry put, if_pos ends]
                    rfl
                · cases followed
            | link target =>
                exact absurd (surfaceAt?_eq_some_link.mpr found) (linkFree _ target)

theorem locate_directory_grown (linkFree : before.LinkFree) (grows : Grows before after)
    {path : Path} (absolute : path.isAbsolute = true) {names : List String}
    {entries : List (String × FileNode)}
    (located : before.locate followLast path = .ok (.taken names (.directory entries))) :
    ∃ others, after.locate followAgain path = .ok (.taken names (.directory others)) := by
  have canFollow := canFollow_of_locate located
  rw [locate_of_canFollow canFollow absolute] at located ⊢
  exact followSegments_directory_grown linkFree grows located

theorem locate_file_grown (linkFree : before.LinkFree) (grows : Grows before after) {path : Path}
    (absolute : path.isAbsolute = true) {place : Place} (takes : place.TakesFile)
    {contents : FileContents} (put : after.at? place.names = some (.file contents))
    (located : before.locate followLast path = .ok place) :
    after.locate followAgain path = .ok (.taken place.names (.file contents)) := by
  have canFollow := canFollow_of_locate located
  rw [locate_of_canFollow canFollow absolute] at located ⊢
  exact followSegments_file_grown linkFree grows takes put located

/-- A file that is put where a normalized path leads is found there. -/
theorem at?_put_of_locate (linkFree : before.LinkFree) (rooted : before.Rooted)
    {names : List String} (areNames : Path.AreNames names) {place : Place}
    (located : before.locate followLast (Path.ofNames true names) = .ok place)
    (takes : place.TakesFile) (contents : FileContents) :
    (before.put place.names (.file contents)).at? place.names = some (.file contents) := by
  rcases List.eq_nil_or_concat names with empty | ⟨above, name, split⟩
  · subst empty
    obtain ⟨entries, atRoot⟩ := locate_root rooted located
    rw [atRoot] at takes
    exact absurd takes id
  · rw [List.concat_eq_append] at split
    have named := locate_ofNames linkFree areNames located
    subst split
    obtain ⟨parent, node, stands, directory⟩ := locate_above areNames rooted true located
    obtain ⟨entries, rfl⟩ := directory rfl
    have isParent : parent = above := locate_ofNames linkFree areNames.ofAppend.1 stands
    apply at?_put_directory
    exact ⟨above, name, named, entries, isParent ▸ locate_sound stands⟩

end Walk

/-! ### Looking again -/

theorem isDirectory_iff {tree : FileTree} {path : Path} :
    tree.isDirectory path = true ↔
      ∃ names entries, tree.locate true path = .ok (.taken names (.directory entries)) := by
  unfold isDirectory stat
  constructor
  · intro isDirectory
    cases located : tree.locate true path with
    | error cause =>
        rw [located] at isDirectory
        cases isDirectory
    | ok place =>
        rw [located] at isDirectory
        cases place with
        | free names slash => cases isDirectory
        | taken names node =>
            cases node with
            | directory entries => exact ⟨names, entries, rfl⟩
            | file contents => cases isDirectory
            | link target => cases isDirectory
  · rintro ⟨names, entries, located⟩
    rw [located]

theorem isDirectory_grown (linkFree : before.LinkFree) (grows : Grows before after) {path : Path}
    (absolute : path.isAbsolute = true) (isDirectory : before.isDirectory path = true) :
    after.isDirectory path = true := by
  obtain ⟨names, entries, located⟩ := isDirectory_iff.mp isDirectory
  obtain ⟨others, again⟩ := locate_directory_grown linkFree grows absolute located
  exact isDirectory_iff.mpr ⟨names, others, again⟩

theorem isDirectoryAt_names {tree : FileTree} (linkFree : tree.LinkFree) {path : Path}
    (absolute : path.isAbsolute = true) (isDirectory : tree.isDirectory path = true) :
    tree.IsDirectoryAt path.names := by
  obtain ⟨names, entries, located⟩ := isDirectory_iff.mp isDirectory
  have named : names = path.names := locate_names linkFree absolute located
  rw [← named]
  exact ⟨entries, locate_sound located⟩

theorem stat_file_iff {tree : FileTree} {path : Path} {contents : FileContents} :
    tree.stat path = .ok (.file contents) ↔
      ∃ names, tree.locate true path = .ok (.taken names (.file contents)) := by
  unfold stat
  constructor
  · intro isFile
    cases located : tree.locate true path with
    | error cause =>
        rw [located] at isFile
        cases isFile
    | ok place =>
        rw [located] at isFile
        cases place with
        | free names slash => cases isFile
        | taken names node =>
            cases isFile
            exact ⟨names, rfl⟩
  · rintro ⟨names, located⟩
    rw [located]

theorem stat_of_free {tree : FileTree} {path : Path} {names : List String} {slash : Bool}
    (located : tree.locate true path = .ok (.free names slash)) :
    tree.stat path = .error .notFound := by
  unfold stat
  rw [located]

theorem fileAt?_eq_some_iff {tree : FileTree} {names : List String} {contents : FileContents} :
    tree.fileAt? names = some contents ↔ tree.at? names = some (.file contents) := by
  have surface : tree.surfaceAt? names = (tree.at? names).map FileNode.surface := rfl
  unfold fileAt?
  rw [surface]
  cases tree.at? names with
  | none => exact iff_of_false nofun nofun
  | some node =>
      cases node with
      | file others =>
          rw [Option.map_some, Option.some_inj, FileNode.file.injEq]
          exact Option.some_inj
      | directory entries =>
          exact iff_of_false nofun nofun
      | link target =>
          exact iff_of_false nofun nofun

/-- A file that was not changed is still found by the same path. -/
theorem stat_file_grown (linkFree : before.LinkFree) (grows : Grows before after) {path : Path}
    (absolute : path.isAbsolute = true)
    (same : after.fileAt? path.names = before.fileAt? path.names) {contents : FileContents}
    (isFile : before.stat path = .ok (.file contents)) :
    after.stat path = .ok (.file contents) := by
  obtain ⟨names, located⟩ := stat_file_iff.mp isFile
  have named : names = path.names := locate_names linkFree absolute located
  have found : before.fileAt? path.names = some contents := by
    rw [← named]
    exact fileAt?_eq_some_iff.mpr (locate_sound located)
  have still : after.at? names = some (.file contents) := by
    rw [named]
    exact fileAt?_eq_some_iff.mp (same.trans found)
  have takes : (Place.taken names (.file contents)).TakesFile := trivial
  exact stat_file_iff.mpr ⟨names, locate_file_grown linkFree grows absolute takes still located⟩

end RuleCompiler.FileTree

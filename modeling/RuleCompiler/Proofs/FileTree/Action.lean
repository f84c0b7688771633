import RuleCompiler.Proofs.FileTree.Locate

/-!
What the file operations change. No directory goes away. Making directories leaves every file as it
is; writing a file changes the file at the place that its path leads to, and no other.
-/

namespace RuleCompiler

theorem FileNode.at?_file (contents : FileContents) {more : List String} (notHere : more ≠ []) :
    (FileNode.file contents).at? more = none := by
  cases more with
  | nil => exact absurd rfl notHere
  | cons name rest => rfl

theorem FileNode.at?_empty_directory {more : List String} (notHere : more ≠ []) :
    (FileNode.directory []).at? more = none := by
  cases more with
  | nil => exact absurd rfl notHere
  | cons name rest => rfl

namespace FileTree

variable {tree : FileTree}

def Hollow (tree : FileTree) (names : List String) : Prop :=
  ∀ more, more ≠ [] → tree.at? (names ++ more) = none

theorem hollow_of_not_directory {names : List String}
    (noDirectory : ∀ entries, tree.at? names ≠ some (.directory entries)) : tree.Hollow names := by
  intro more notHere
  cases below : tree.at? (names ++ more) with
  | none => rfl
  | some found =>
      obtain ⟨entries, isDirectory⟩ := FileNode.directory_of_at?_append notHere below
      exact absurd isDirectory (noDirectory entries)

theorem hollow_of_free {names : List String} (free : tree.at? names = none) :
    tree.Hollow names := by
  apply hollow_of_not_directory
  intro entries found
  rw [free] at found
  cases found

theorem surfaceAt?_put_file {names other : List String} (contents : FileContents)
    (hollow : tree.Hollow names) (different : other ≠ names) :
    (tree.put names (.file contents)).surfaceAt? other = tree.surfaceAt? other :=
  tree.root.surfaceAt?_put_of_ne (fun _ notHere => FileNode.at?_file contents notHere) hollow
    different

theorem surfaceAt?_put_directory {names other : List String} (hollow : tree.Hollow names)
    (different : other ≠ names) :
    (tree.put names (.directory [])).surfaceAt? other = tree.surfaceAt? other :=
  tree.root.surfaceAt?_put_of_ne (fun _ notHere => FileNode.at?_empty_directory notHere) hollow
    different

theorem surfaceAt?_put_self (tree : FileTree) (names : List String) (placed : FileNode) :
    (tree.put names placed).surfaceAt? names = some placed.surface ∨
      (tree.put names placed).surfaceAt? names = tree.surfaceAt? names := by
  rcases tree.root.at?_put_self names placed with reached | unseen
  · left
    change ((tree.root.put names placed).at? names).map FileNode.surface = some placed.surface
    rw [reached]
    rfl
  · exact Or.inr (unseen names)

/-- No directory is gone, and no link is new. -/
structure Grows (before after : FileTree) : Prop where
  directories : ∀ names, before.IsDirectoryAt names → after.IsDirectoryAt names
  linkFree : before.LinkFree → after.LinkFree
  workingDirectory : after.workingDirectory = before.workingDirectory
  host : after.host = before.host

theorem Grows.refl (tree : FileTree) : Grows tree tree :=
  ⟨fun _ => id, id, rfl, rfl⟩

theorem Grows.trans {first second third : FileTree} (before : Grows first second)
    (after : Grows second third) : Grows first third where
  directories names := after.directories names ∘ before.directories names
  linkFree := after.linkFree ∘ before.linkFree
  workingDirectory := after.workingDirectory.trans before.workingDirectory
  host := after.host.trans before.host

theorem Grows.rooted {before after : FileTree} (grows : Grows before after)
    (rooted : before.Rooted) : after.Rooted :=
  grows.directories [] rooted

/-- Every file is as it was. -/
structure KeepsFiles (before after : FileTree) : Prop extends Grows before after where
  files : ∀ names, after.fileAt? names = before.fileAt? names

theorem KeepsFiles.refl (tree : FileTree) : KeepsFiles tree tree where
  toGrows := Grows.refl tree
  files _ := rfl

theorem KeepsFiles.trans {first second third : FileTree} (before : KeepsFiles first second)
    (after : KeepsFiles second third) : KeepsFiles first third where
  toGrows := before.toGrows.trans after.toGrows
  files names := (after.files names).trans (before.files names)

theorem keepsFiles_put_directory {names : List String} (free : tree.at? names = none) :
    KeepsFiles tree (tree.put names (.directory [])) := by
  have hollow := hollow_of_free free
  have before : tree.surfaceAt? names = none := by
    change (tree.at? names).map FileNode.surface = none
    rw [free]
    rfl
  constructor
  · constructor
    · intro other directory
      have different : other ≠ names := by
        rintro rfl
        rw [isDirectoryAt_iff, before] at directory
        cases directory
      rw [isDirectoryAt_iff, surfaceAt?_put_directory hollow different]
      exact isDirectoryAt_iff.mp directory
    · intro linkFree other target seen
      by_cases same : other = names
      · subst same
        rcases surfaceAt?_put_self tree other (.directory []) with reached | unseen
        · rw [reached] at seen
          cases seen
        · rw [unseen, before] at seen
          cases seen
      · rw [surfaceAt?_put_directory hollow same] at seen
        exact linkFree other target seen
    · rfl
    · rfl
  · intro other
    unfold fileAt?
    by_cases same : other = names
    · subst same
      rcases surfaceAt?_put_self tree other (.directory []) with reached | unseen
      · rw [reached, before]
        rfl
      · rw [unseen]
    · rw [surfaceAt?_put_directory hollow same]

theorem keepsFiles_createDirectory {path : Path} {made : FileTree}
    (created : tree.createDirectory path = .ok made) : KeepsFiles tree made := by
  unfold createDirectory at created
  split at created
  · cases created
  · rename_i located
    cases created
    exact keepsFiles_put_directory (locate_sound located)
  · cases created

theorem permitted_ok {change : FileChange} {path : Path} {changed : Except IoError FileTree}
    {made : FileTree} (done : tree.permitted change path changed = .ok made) :
    changed = .ok made ∧ tree.host.refusal? change path = none := by
  unfold permitted at done
  split at done
  · cases done
  · cases done
  · next granted =>
      cases done
      exact ⟨rfl, granted⟩

theorem permitted_of_granted {change : FileChange} {path : Path}
    (granted : tree.host.refusal? change path = none) (changed : Except IoError FileTree) :
    tree.permitted change path changed = changed.mapError ChangeError.io := by
  unfold permitted
  rw [granted]
  cases changed <;> rfl

/-- What making one directory preserves, making them all does. -/
theorem createAll_preserves (preserved : FileTree → FileTree → Prop)
    (refl : ∀ tree, preserved tree tree)
    (trans : ∀ {first second third}, preserved first second → preserved second third →
      preserved first third)
    (paths : List Path)
    (creates : ∀ {tree made path}, path ∈ paths → tree.createDirectory path = .ok made →
      preserved tree made) (tree : FileTree) : preserved tree (tree.createAll paths).2 := by
  induction paths generalizing tree with
  | nil => exact refl tree
  | cons path above ih =>
      have makes : ∀ {tree made : FileTree}, tree.makeDirectory path = .ok made →
          preserved tree made :=
        fun done => creates List.mem_cons_self (permitted_ok done).1
      unfold createAll
      split
      · exact refl tree
      · cases created : tree.makeDirectory path with
        | ok made => exact makes created
        | error cause =>
            have settles : ∀ (later : FileTree) (failure : ChangeError), preserved tree later →
                preserved tree (if later.isDirectory path then (.ok (), later)
                  else (.error failure, later) : Except ChangeError Unit × FileTree).2 := by
              intro later failure kept
              split
              · exact kept
              · exact kept
            dsimp only
            split
            · next isMade => cases isMade
            · have kept := ih (fun member => creates (List.mem_cons_of_mem path member)) tree
              rcases made : tree.createAll above with ⟨failure | _, later⟩
              · rw [made] at kept
                exact kept
              · rw [made] at kept
                dsimp only
                cases createdAgain : later.makeDirectory path with
                | ok final => exact trans kept (makes createdAgain)
                | error failure => exact settles later failure kept
            · exact settles tree _ (refl tree)

theorem keepsFiles_createDirectories (tree : FileTree) (path : Path) :
    KeepsFiles tree (tree.createDirectories path).2 :=
  createAll_preserves KeepsFiles KeepsFiles.refl KeepsFiles.trans
    (ancestors path.text.length path) (fun _ created => keepsFiles_createDirectory created) tree

/-- Directories made in an empty tree come without links. -/
theorem linkFree_createDirectories_empty (workingDirectory : List String) (path : Path) :
    (({ workingDirectory } : FileTree).createDirectories path).2.LinkFree :=
  (keepsFiles_createDirectories { workingDirectory } path).linkFree
    (linkFree_empty workingDirectory)

structure KeepsOtherFiles (names : List String) (before after : FileTree) : Prop
    extends Grows before after where
  files : ∀ other, other ≠ names → after.fileAt? other = before.fileAt? other

theorem KeepsFiles.thenOthers {first second third : FileTree} {names : List String}
    (before : KeepsFiles first second) (after : KeepsOtherFiles names second third) :
    KeepsOtherFiles names first third where
  toGrows := before.toGrows.trans after.toGrows
  files other different := (after.files other different).trans (before.files other)

theorem not_directory_of_takesFile {place : Place} (has : tree.Has place)
    (takes : place.TakesFile) : ¬ tree.IsDirectoryAt place.names := by
  rintro ⟨entries, found⟩
  cases place with
  | taken names node =>
      have atNames : tree.at? names = some node := has
      have isDirectory : some node = some (FileNode.directory entries) := atNames.symm.trans found
      cases isDirectory
      exact takes
  | free names slash =>
      have nothing : tree.at? names = none := has
      rw [Place.names, nothing] at found
      cases found

theorem hollow_of_takesFile {place : Place} (has : tree.Has place) (takes : place.TakesFile) :
    tree.Hollow place.names :=
  hollow_of_not_directory fun entries found =>
    not_directory_of_takesFile has takes ⟨entries, found⟩

/-- Putting a file where one can be put changes no other file and no directory. -/
theorem keepsOtherFiles_put_file {place : Place} (contents : FileContents) (has : tree.Has place)
    (takes : place.TakesFile) :
    KeepsOtherFiles place.names tree (tree.put place.names (.file contents)) := by
  have hollow := hollow_of_takesFile has takes
  have noDirectory := not_directory_of_takesFile has takes
  constructor
  · constructor
    · intro other directory
      have different : other ≠ place.names := by
        rintro rfl
        exact noDirectory directory
      rw [isDirectoryAt_iff, surfaceAt?_put_file contents hollow different]
      exact isDirectoryAt_iff.mp directory
    · intro linkFree other target seen
      by_cases same : other = place.names
      · subst same
        rcases surfaceAt?_put_self tree place.names (.file contents) with reached | unseen
        · rw [reached] at seen
          cases seen
        · rw [unseen] at seen
          exact linkFree place.names target seen
      · rw [surfaceAt?_put_file contents hollow same] at seen
        exact linkFree other target seen
    · rfl
    · rfl
  · intro other different
    unfold fileAt?
    rw [surfaceAt?_put_file contents hollow different]

theorem write_put {path : Path} {contents : FileContents} {changed : FileTree}
    (wrote : tree.write path contents = .ok changed) :
    ∃ place, tree.locate true path = .ok place ∧ place.TakesFile ∧
      changed = tree.put place.names (.file contents) := by
  unfold write at wrote
  split at wrote
  · rename_i located
    cases wrote
    exact ⟨_, located, trivial, rfl⟩
  · cases wrote
  · rename_i slash located
    split at wrote
    · cases wrote
    · rename_i noSlash
      cases wrote
      exact ⟨_, located, Bool.eq_false_iff.mpr noSlash, rfl⟩
  · cases wrote

theorem moveInto_put {path : Path} {contents : FileContents} {changed : FileTree}
    (moved : tree.moveInto path contents = .ok changed) :
    ∃ place, tree.locate false path = .ok place ∧ place.TakesFile ∧
      changed = tree.put place.names (.file contents) := by
  unfold moveInto at moved
  split at moved
  · cases moved
  · rename_i node noDirectory located
    cases moved
    refine ⟨_, located, ?_, rfl⟩
    cases node with
    | directory entries => exact absurd rfl (noDirectory entries)
    | file other => trivial
    | link target => trivial
  · rename_i slash located
    split at moved
    · cases moved
    · rename_i noSlash
      cases moved
      exact ⟨_, located, Bool.eq_false_iff.mpr noSlash, rfl⟩
  · cases moved

/-- Writing a file in place fails and changes nothing, or it leaves contents where the path leads to:
all of them, or a beginning where the system broke off. -/
theorem overwrite_cases (tree : FileTree) (path : Path) (contents : FileContents) :
    (∃ failure, tree.overwrite path contents = (.error failure, tree)) ∨
    ∃ place, tree.locate true path = .ok place ∧ place.TakesFile ∧
      (tree.overwrite path contents = (.ok (), tree.put place.names (.file contents)) ∨
        ∃ count refusal, tree.host.breakOff? path = some (count, refusal) ∧
          tree.overwrite path contents =
            (.error (.refused refusal), tree.put place.names (.file (contents.beginning count)))) := by
  unfold overwrite reach
  cases breaks : tree.host.breakOff? path with
  | none =>
      dsimp only
      cases wrote : tree.permitted .openFile path (tree.write path contents) with
      | error failure => exact Or.inl ⟨failure, rfl⟩
      | ok changed =>
          obtain ⟨place, located, takes, rfl⟩ := write_put (permitted_ok wrote).1
          exact Or.inr ⟨place, located, takes, Or.inl rfl⟩
  | some broken =>
      obtain ⟨count, refusal⟩ := broken
      dsimp only
      cases wrote : tree.permitted .openFile path (tree.write path (contents.beginning count)) with
      | error failure => exact Or.inl ⟨failure, rfl⟩
      | ok changed =>
          obtain ⟨place, located, takes, rfl⟩ := write_put (permitted_ok wrote).1
          exact Or.inr ⟨place, located, takes, Or.inr ⟨count, refusal, rfl, rfl⟩⟩

/-- Renaming a file fails and changes nothing, or it leaves the contents where the path leads to. -/
theorem replace_cases (tree : FileTree) (path : Path) (contents : FileContents) :
    (∃ failure, tree.replace path contents = (.error failure, tree)) ∨
    ∃ place, tree.locate false path = .ok place ∧ place.TakesFile ∧
      tree.replace path contents = (.ok (), tree.put place.names (.file contents)) := by
  unfold replace
  cases moved : tree.permitted .rename path (tree.moveInto path contents) with
  | error failure => exact Or.inl ⟨failure, rfl⟩
  | ok changed =>
      obtain ⟨place, located, takes, rfl⟩ := moveInto_put (permitted_ok moved).1
      exact Or.inr ⟨place, located, takes, rfl⟩

theorem overwrite_of_granted {path : Path} (granted : tree.host.refusal? .openFile path = none)
    (unbroken : tree.host.breakOff? path = none) (contents : FileContents) :
    tree.overwrite path contents =
      match tree.write path contents with
      | .ok changed => (.ok (), changed)
      | .error cause => (.error (.io cause), tree) := by
  unfold overwrite reach
  rw [unbroken]
  dsimp only
  rw [permitted_of_granted granted]
  cases tree.write path contents <;> rfl

theorem replace_of_granted {path : Path} (granted : tree.host.refusal? .rename path = none)
    (contents : FileContents) :
    tree.replace path contents =
      match tree.moveInto path contents with
      | .ok changed => (.ok (), changed)
      | .error cause => (.error (.io cause), tree) := by
  unfold replace
  rw [permitted_of_granted granted]
  cases tree.moveInto path contents <;> rfl

theorem granted_of_overwrite_ok {path : Path} {contents : FileContents} {value : Unit}
    (wrote : (tree.overwrite path contents).1 = .ok value) :
    tree.host.refusal? .openFile path = none ∧ tree.host.breakOff? path = none := by
  unfold overwrite reach at wrote
  dsimp only at wrote
  split at wrote
  · next opened =>
      refine ⟨(permitted_ok opened).2, ?_⟩
      cases breaks : tree.host.breakOff? path with
      | none => rfl
      | some broken =>
          rw [breaks] at wrote
          cases wrote
  · cases wrote

theorem granted_of_replace_ok {path : Path} {contents : FileContents} {value : Unit}
    (moved : (tree.replace path contents).1 = .ok value) :
    tree.host.refusal? .rename path = none := by
  unfold replace at moved
  split at moved
  · next renamed => exact (permitted_ok renamed).2
  · cases moved

end FileTree

end RuleCompiler

import RuleCompiler.FileTree.Action
import RuleCompiler.Proofs.FileTree.Put
import RuleCompiler.Proofs.Path

/-!
Where paths lead. A path leads to a node that lies there, or to a place where nothing does. In a
tree without links a normalized absolute path leads where its names say.
-/

namespace RuleCompiler

def Place.names : Place → List String
  | .taken names _ => names
  | .free names _ => names

/-- A file can be put at the place. -/
def Place.TakesFile : Place → Prop
  | .taken _ (.directory _) => False
  | .taken _ _ => True
  | .free _ slash => slash = false

namespace FileTree

/-- The tree has this node, or nothing, at the place. -/
def Has (tree : FileTree) : Place → Prop
  | .taken names node => tree.at? names = some node
  | .free names _ => tree.at? names = none

def surfaceAt? (tree : FileTree) (names : List String) : Option FileNode :=
  tree.root.surfaceAt? names

def fileAt? (tree : FileTree) (names : List String) : Option FileContents :=
  match tree.surfaceAt? names with
  | some (.file contents) => some contents
  | _ => none

def LinkFree (tree : FileTree) : Prop :=
  ∀ names target, tree.surfaceAt? names ≠ some (.link target)

def IsDirectoryAt (tree : FileTree) (names : List String) : Prop :=
  ∃ entries, tree.at? names = some (.directory entries)

def Rooted (tree : FileTree) : Prop :=
  tree.IsDirectoryAt []

theorem isDirectoryAt_iff {tree : FileTree} {names : List String} :
    tree.IsDirectoryAt names ↔ tree.surfaceAt? names = some (.directory []) := by
  unfold IsDirectoryAt surfaceAt? FileNode.surfaceAt?
  change _ ↔ (tree.at? names).map FileNode.surface = _
  constructor
  · rintro ⟨entries, found⟩
    rw [found]
    rfl
  · intro seen
    obtain ⟨node, found, isDirectory⟩ := Option.map_eq_some_iff.mp seen
    cases node with
    | directory entries => exact ⟨entries, found⟩
    | file contents => cases isDirectory
    | link target => cases isDirectory

/-- Above a directory there are directories. -/
theorem IsDirectoryAt.lead {tree : FileTree} {lead rest : List String}
    (below : tree.IsDirectoryAt (lead ++ rest)) : tree.IsDirectoryAt lead := by
  by_cases here : rest = []
  · rw [here, List.append_nil] at below
    exact below
  · obtain ⟨entries, found⟩ := below
    exact FileNode.directory_of_at?_append here found

theorem linkFree_empty (workingDirectory : List String) :
    ({ workingDirectory } : FileTree).LinkFree := by
  intro names target seen
  cases names with
  | nil => cases seen
  | cons name rest => cases seen

theorem surfaceAt?_eq_some_link {tree : FileTree} {names : List String} {target : String} :
    tree.surfaceAt? names = some (.link target) ↔ tree.at? names = some (.link target) := by
  unfold surfaceAt? FileNode.surfaceAt?
  change (tree.at? names).map FileNode.surface = _ ↔ _
  constructor
  · intro seen
    obtain ⟨node, atNames, isLink⟩ := Option.map_eq_some_iff.mp seen
    cases node with
    | link other => cases isLink; exact atNames
    | file contents => cases isLink
    | directory entries => cases isLink
  · intro atNames
    rw [atNames]
    rfl

section Follow

variable {tree : FileTree} {followLast : Bool}
  {onward : List String → List String → Except IoError Place}

theorem followSegments_idle (stack : List String) {segment : String}
    (idle : Path.isIdle segment = true) (rest : List String) :
    tree.followSegments followLast onward stack (segment :: rest) =
      tree.followSegments followLast onward stack rest := by
  rw [followSegments, if_pos idle]

theorem followSegments_up (stack rest : List String) :
    tree.followSegments followLast onward stack (".." :: rest) =
      tree.followSegments followLast onward stack.tail rest := by
  have notIdle : Path.isIdle ".." = false := rfl
  rw [followSegments, notIdle, if_neg Bool.false_ne_true, if_pos rfl]

/-- A segment that is looked up in the directory where the walk stands. -/
structure IsEntry (segment : String) : Prop where
  notIdle : Path.isIdle segment = false
  notUp : segment ≠ ".."
  short : segment.utf8ByteSize ≤ maxNameBytes

section Entry

variable {segment : String} {stack rest : List String}

theorem followSegments_free (isEntry : IsEntry segment)
    (found : tree.at? (segment :: stack).reverse = none) :
    tree.followSegments followLast onward stack (segment :: rest) =
      if rest.all (· == "") then .ok (.free (segment :: stack).reverse (!rest.isEmpty))
      else .error .notFound := by
  rw [followSegments, isEntry.notIdle, if_neg Bool.false_ne_true, if_neg isEntry.notUp,
    if_neg (Nat.not_lt_of_le isEntry.short), found]

theorem followSegments_directory (isEntry : IsEntry segment) {entries : KeyedList FileNode}
    (found : tree.at? (segment :: stack).reverse = some (.directory entries)) :
    tree.followSegments followLast onward stack (segment :: rest) =
      tree.followSegments followLast onward (segment :: stack) rest := by
  rw [followSegments, isEntry.notIdle, if_neg Bool.false_ne_true, if_neg isEntry.notUp,
    if_neg (Nat.not_lt_of_le isEntry.short), found]

theorem followSegments_file (isEntry : IsEntry segment) {contents : FileContents}
    (found : tree.at? (segment :: stack).reverse = some (.file contents)) :
    tree.followSegments followLast onward stack (segment :: rest) =
      if rest.isEmpty then .ok (.taken (segment :: stack).reverse (.file contents))
      else .error .notADirectory := by
  rw [followSegments, isEntry.notIdle, if_neg Bool.false_ne_true, if_neg isEntry.notUp,
    if_neg (Nat.not_lt_of_le isEntry.short), found]

theorem followSegments_link (isEntry : IsEntry segment) {target : String}
    (found : tree.at? (segment :: stack).reverse = some (.link target)) :
    tree.followSegments followLast onward stack (segment :: rest) =
      if rest.isEmpty && !followLast then .ok (.taken (segment :: stack).reverse (.link target))
      else
        onward (if (Path.mk target).isAbsolute then [] else stack)
          ((Path.mk target).segments ++ rest) := by
  rw [followSegments, isEntry.notIdle, if_neg Bool.false_ne_true, if_neg isEntry.notUp,
    if_neg (Nat.not_lt_of_le isEntry.short), found]

theorem followSegments_cons_ok {place : Place}
    (followed : tree.followSegments followLast onward stack (segment :: rest) = .ok place) :
    (Path.isIdle segment = true ∧ tree.followSegments followLast onward stack rest = .ok place) ∨
      (segment = ".." ∧ tree.followSegments followLast onward stack.tail rest = .ok place) ∨
      IsEntry segment := by
  by_cases idle : Path.isIdle segment = true
  · rw [followSegments_idle stack idle] at followed
    exact Or.inl ⟨idle, followed⟩
  · by_cases up : segment = ".."
    · rw [up, followSegments_up] at followed
      exact Or.inr (Or.inl ⟨up, followed⟩)
    · by_cases long : segment.utf8ByteSize > maxNameBytes
      · rw [followSegments, if_neg idle, if_neg up, if_pos long] at followed
        cases followed
      · exact Or.inr (Or.inr ⟨Bool.eq_false_iff.mpr idle, up, Nat.le_of_not_gt long⟩)

/-- A walk that succeeds past an entry goes into a directory, ends there, or goes on from a link. -/
theorem followSegments_entry_ok (isEntry : IsEntry segment) {place : Place}
    (followed : tree.followSegments followLast onward stack (segment :: rest) = .ok place) :
    (∃ entries, tree.at? (segment :: stack).reverse = some (.directory entries) ∧
      tree.followSegments followLast onward (segment :: stack) rest = .ok place) ∨
      (place.names = (segment :: stack).reverse ∧ tree.Has place ∧
        rest.all (· == "") = true) ∨
      ∃ target, tree.at? (segment :: stack).reverse = some (.link target) ∧
        (rest.isEmpty && !followLast) = false ∧
        onward (if (Path.mk target).isAbsolute then [] else stack)
          ((Path.mk target).segments ++ rest) = .ok place := by
  have ofEmpty : rest.isEmpty = true → rest.all (· == "") = true := by
    intro empty
    rw [List.isEmpty_iff.mp empty]
    rfl
  cases found : tree.at? (segment :: stack).reverse with
  | none =>
      rw [followSegments_free isEntry found] at followed
      split at followed
      · rename_i onlySlashes
        cases followed
        exact Or.inr (Or.inl ⟨rfl, found, onlySlashes⟩)
      · cases followed
  | some node =>
      cases node with
      | directory entries =>
          rw [followSegments_directory isEntry found] at followed
          exact Or.inl ⟨entries, rfl, followed⟩
      | file contents =>
          rw [followSegments_file isEntry found] at followed
          split at followed
          · rename_i empty
            cases followed
            exact Or.inr (Or.inl ⟨rfl, found, ofEmpty empty⟩)
          · cases followed
      | link target =>
          rw [followSegments_link isEntry found] at followed
          split at followed
          · rename_i stops
            cases followed
            exact Or.inr (Or.inl ⟨rfl, found, ofEmpty (Bool.and_eq_true_iff.mp stops).1⟩)
          · rename_i goesOn
            exact Or.inr (Or.inr ⟨target, rfl, Bool.eq_false_iff.mpr goesOn, followed⟩)

end Entry

theorem followSegments_sound
    (sound : ∀ stack segments place, onward stack segments = .ok place → tree.Has place)
    {segments stack : List String} {place : Place}
    (followed : tree.followSegments followLast onward stack segments = .ok place) :
    tree.Has place := by
  induction segments generalizing stack with
  | nil =>
      unfold followSegments at followed
      split at followed
      · rename_i node found
        cases followed
        exact found
      · cases followed
  | cons segment rest ih =>
      rcases followSegments_cons_ok followed with ⟨_, goesOn⟩ | ⟨_, goesOn⟩ | isEntry
      · exact ih goesOn
      · exact ih goesOn
      · rcases followSegments_entry_ok isEntry followed with
          ⟨_, _, goesOn⟩ | ⟨_, has, _⟩ | ⟨_, _, _, goesOn⟩
        · exact ih goesOn
        · exact has
        · exact sound _ _ _ goesOn

theorem follow_sound (links : Nat) {stack segments : List String} {place : Place}
    (followed : tree.follow followLast links stack segments = .ok place) : tree.Has place := by
  induction links generalizing stack segments place with
  | zero =>
      refine followSegments_sound ?_ followed
      intro _ _ _ impossible
      cases impossible
  | succ links ih => exact followSegments_sound (fun _ _ _ onward => ih onward) followed

theorem locate_sound {path : Path} {place : Place}
    (located : tree.locate followLast path = .ok place) : tree.Has place := by
  unfold locate at located
  split at located
  · cases located
  · split at located
    · cases located
    · split at located
      · cases located
      · exact follow_sound _ located

theorem IsEntry.walk {segment : String} (isEntry : IsEntry segment) (stack : List String) :
    Path.walk stack segment = segment :: stack := by
  unfold Path.walk
  rw [isEntry.notIdle, if_neg Bool.false_ne_true, if_neg isEntry.notUp]

theorem foldl_walk_of_empty {segments : List String} (empty : segments.all (· == "") = true)
    (stack : List String) : segments.foldl Path.walk stack = stack := by
  induction segments with
  | nil => rfl
  | cons segment rest ih =>
      obtain ⟨isEmpty, others⟩ := Bool.and_eq_true_iff.mp empty
      rw [List.foldl_cons, eq_of_beq isEmpty, Path.walk_of_isIdle stack Path.isIdle_empty]
      exact ih others

/-- Without links a walk stays on the names that its segments leave. -/
theorem followSegments_walk (linkFree : tree.LinkFree) {segments stack : List String}
    {place : Place}
    (followed : tree.followSegments followLast onward stack segments = .ok place) :
    place.names = (segments.foldl Path.walk stack).reverse := by
  induction segments generalizing stack with
  | nil =>
      unfold followSegments at followed
      split at followed
      · cases followed
        rfl
      · cases followed
  | cons segment rest ih =>
      rw [List.foldl_cons]
      rcases followSegments_cons_ok followed with ⟨idle, goesOn⟩ | ⟨rfl, goesOn⟩ | isEntry
      · rw [Path.walk_of_isIdle stack idle]
        exact ih goesOn
      · exact ih goesOn
      · rw [isEntry.walk stack]
        rcases followSegments_entry_ok isEntry followed with
          ⟨_, _, goesOn⟩ | ⟨ends, _, onlySlashes⟩ | ⟨target, found, _⟩
        · exact ih goesOn
        · rw [ends, foldl_walk_of_empty onlySlashes]
        · exact absurd (surfaceAt?_eq_some_link.mpr found) (linkFree _ target)

/-- Without links an absolute path leads where its names say. -/
theorem locate_names (linkFree : tree.LinkFree) {path : Path}
    (absolute : path.isAbsolute = true) {place : Place}
    (located : tree.locate followLast path = .ok place) : place.names = path.names := by
  unfold locate at located
  split at located
  · cases located
  · split at located
    · cases located
    · split at located
      · cases located
      · unfold maxLinks follow at located
        exact followSegments_walk linkFree located

theorem locate_ofNames (linkFree : tree.LinkFree) {names : List String}
    (areNames : Path.AreNames names) {place : Place}
    (located : tree.locate followLast (Path.ofNames true names) = .ok place) :
    place.names = names := by
  rw [locate_names linkFree (Path.isAbsolute_ofNames names) located,
    Path.names_ofNames areNames]

end Follow

end FileTree

end RuleCompiler

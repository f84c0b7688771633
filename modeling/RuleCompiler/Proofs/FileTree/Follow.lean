import RuleCompiler.Proofs.FileTree.Action

/-!
Following a path again once a file was put where it led to. The two walks go side by side until they
meet the file; there the second one ends, with the file or, where the path goes on, in a failure.
A path that leads somewhere has a directory above it, so making that directory changes nothing.
-/

namespace RuleCompiler

namespace FileTree

variable {tree : FileTree}

theorem Rooted.isDirectoryAt_tail (rooted : tree.Rooted) {stack : List String}
    (standing : tree.IsDirectoryAt stack.reverse) : tree.IsDirectoryAt stack.tail.reverse := by
  cases stack with
  | nil => exact rooted
  | cons name above =>
      rw [List.reverse_cons] at standing
      exact standing.lead

theorem Rooted.isDirectoryAt_start (rooted : tree.Rooted) {stack : List String}
    (standing : tree.IsDirectoryAt stack.reverse) (absolute : Bool) :
    tree.IsDirectoryAt (if absolute then [] else stack).reverse := by
  cases absolute with
  | true => exact rooted
  | false => exact standing

/-- The text of the path does not keep it from being followed. -/
structure CanFollow (path : Path) : Prop where
  noNull : path.text.toList.contains '\x00' = false
  some : path.text ≠ ""
  short : path.text.utf8ByteSize ≤ maxPathBytes

theorem canFollow_of_locate {followLast : Bool} {path : Path} {place : Place}
    (located : tree.locate followLast path = .ok place) : CanFollow path := by
  unfold locate at located
  split at located
  · cases located
  · rename_i noNull
    split at located
    · cases located
    · rename_i some
      split at located
      · cases located
      · rename_i short
        exact ⟨Bool.eq_false_iff.mpr noNull, some, Nat.le_of_not_gt short⟩

theorem locate_of_canFollow {followLast : Bool} {path : Path} (canFollow : CanFollow path)
    (absolute : path.isAbsolute = true) :
    tree.locate followLast path = tree.follow followLast maxLinks [] path.segments := by
  unfold locate
  rw [canFollow.noNull, if_neg Bool.false_ne_true, if_neg canFollow.some,
    if_neg (Nat.not_lt_of_le canFollow.short), if_pos absolute]

theorem locate_root (rooted : tree.Rooted) {followLast : Bool} {place : Place}
    (located : tree.locate followLast (Path.ofNames true []) = .ok place) :
    ∃ entries, place = .taken [] (.directory entries) := by
  obtain ⟨entries, isDirectory⟩ := rooted
  have areNames : Path.AreNames [] := fun _ member => absurd member List.not_mem_nil
  rw [locate_of_canFollow (canFollow_of_locate located) (Path.isAbsolute_ofNames []),
    Path.segments_ofNames areNames, if_pos rfl] at located
  unfold maxLinks follow at located
  rw [followSegments_idle [] Path.isIdle_empty, followSegments_idle [] Path.isIdle_empty,
    followSegments, List.reverse_nil, isDirectory] at located
  cases located
  exact ⟨entries, rfl⟩

/-! ### A file put where a path leads -/

/-- A walk that met the file: it is there, and the walk ends with it or fails. -/
def MeetsFile (tree : FileTree) (names : List String) (contents : FileContents)
    (walked : Except IoError Place) : Prop :=
  tree.at? names = some (.file contents) ∧
    (walked = .ok (.taken names (.file contents)) ∨ walked = .error .notADirectory)

section Put

variable {names : List String} {contents : FileContents} {followLast : Bool}
  {onward onwardPut : List String → List String → Except IoError Place}

theorem at?_put_directory (standing : ∃ above name, names = above ++ [name] ∧
    tree.IsDirectoryAt above) (node : FileNode) :
    (tree.put names node).at? names = some node := by
  obtain ⟨above, name, rfl, entries, isDirectory⟩ := standing
  exact tree.root.at?_put_of_directory above name node isDirectory

theorem followSegments_put (rooted : tree.Rooted) (hollow : tree.Hollow names)
    (meets : ∀ {stack segments place}, tree.IsDirectoryAt stack.reverse →
      onward stack segments = .ok place → place.names = names → place.TakesFile →
      (tree.put names (.file contents)).MeetsFile names contents (onwardPut stack segments))
    {segments stack : List String} {place : Place} (standing : tree.IsDirectoryAt stack.reverse)
    (followed : tree.followSegments false onward stack segments = .ok place)
    (ends : place.names = names) (takes : place.TakesFile) :
    (tree.put names (.file contents)).MeetsFile names contents
      ((tree.put names (.file contents)).followSegments followLast onwardPut stack segments) := by
  induction segments generalizing stack with
  | nil =>
      obtain ⟨entries, isDirectory⟩ := standing
      rw [followSegments, isDirectory] at followed
      cases followed
      exact absurd takes id
  | cons segment rest ih =>
      rcases followSegments_cons_ok followed with ⟨idle, goesOn⟩ | ⟨rfl, goesOn⟩ | isEntry
      · rw [followSegments_idle stack idle]
        exact ih standing goesOn
      · rw [followSegments_up]
        exact ih (rooted.isDirectoryAt_tail standing) goesOn
      · by_cases here : (segment :: stack).reverse = names
        · -- the second walk meets the file, whatever was there before
          have put : (tree.put names (.file contents)).at? names = some (.file contents) :=
            at?_put_directory ⟨stack.reverse, segment, by rw [← here, List.reverse_cons],
              standing⟩ _
          refine ⟨put, ?_⟩
          have found : (tree.put names (.file contents)).at? (segment :: stack).reverse =
              some (.file contents) := by
            rw [here]
            exact put
          rw [followSegments_file isEntry found, here]
          cases rest with
          | nil => exact Or.inl rfl
          | cons next more => exact Or.inr rfl
        · have same := surfaceAt?_put_file contents hollow here
          rcases followSegments_entry_ok isEntry followed with
            ⟨entries, found, goesOn⟩ | ⟨stops, _, _⟩ | ⟨target, found, passes, goesOn⟩
          · have entered : tree.IsDirectoryAt (segment :: stack).reverse := ⟨entries, found⟩
            obtain ⟨others, after⟩ := isDirectoryAt_iff.mpr
              (same.trans (isDirectoryAt_iff.mp entered))
            rw [followSegments_directory isEntry after]
            exact ih entered goesOn
          · exact absurd (stops.symm.trans ends) here
          · have after := surfaceAt?_eq_some_link.mp
              (same.trans (surfaceAt?_eq_some_link.mpr found))
            have isLonger : rest.isEmpty = false := by
              rw [Bool.not_false, Bool.and_true] at passes
              exact passes
            rw [followSegments_link isEntry after, isLonger, Bool.false_and,
              if_neg Bool.false_ne_true]
            exact meets (rooted.isDirectoryAt_start standing _) goesOn ends takes

theorem follow_put (rooted : tree.Rooted) (hollow : tree.Hollow names) (links : Nat)
    {stack segments : List String} {place : Place} (standing : tree.IsDirectoryAt stack.reverse)
    (followed : tree.follow false links stack segments = .ok place) (ends : place.names = names)
    (takes : place.TakesFile) :
    (tree.put names (.file contents)).MeetsFile names contents
      ((tree.put names (.file contents)).follow followLast links stack segments) := by
  induction links generalizing stack segments place with
  | zero =>
      refine followSegments_put rooted hollow ?_ standing followed ends takes
      intro _ _ _ _ impossible
      cases impossible
  | succ links ih =>
      refine followSegments_put rooted hollow ?_ standing followed ends takes
      intro _ _ _ standing followed ends takes
      exact ih standing followed ends takes

/-- Where a path leads once a file was put where it led to. -/
theorem locate_put (rooted : tree.Rooted) {path : Path} (absolute : path.isAbsolute = true)
    {place : Place} (located : tree.locate false path = .ok place) (takes : place.TakesFile)
    (contents : FileContents) (followLast : Bool) :
    (tree.put place.names (.file contents)).MeetsFile place.names contents
      ((tree.put place.names (.file contents)).locate followLast path) := by
  have hollow := hollow_of_takesFile (locate_sound located) takes
  have canFollow := canFollow_of_locate located
  rw [locate_of_canFollow canFollow absolute] at located ⊢
  exact follow_put rooted hollow maxLinks rooted located rfl takes

end Put

/-! ### The directory above -/

section Above

variable {name : String} {followLast followAbove : Bool}
  {onward onwardAbove : List String → List String → Except IoError Place}

/-- A walk that ends at something; with its last link followed, at a directory. -/
def EndsAbove (followAbove : Bool) (walked : Except IoError Place) : Prop :=
  ∃ names node, walked = .ok (.taken names node) ∧
    (followAbove = true → ∃ entries, node = .directory entries)

theorem followSegments_above (isName : Path.IsName name) (rooted : tree.Rooted)
    (above : ∀ {stack segments place}, tree.IsDirectoryAt stack.reverse →
      onward stack (segments ++ [name]) = .ok place →
      EndsAbove followAbove (onwardAbove stack segments))
    {segments stack : List String} {place : Place} (standing : tree.IsDirectoryAt stack.reverse)
    (followed : tree.followSegments followLast onward stack (segments ++ [name]) = .ok place) :
    EndsAbove followAbove (tree.followSegments followAbove onwardAbove stack segments) := by
  induction segments generalizing stack with
  | nil =>
      obtain ⟨entries, isDirectory⟩ := standing
      rw [followSegments, isDirectory]
      exact ⟨_, _, rfl, fun _ => ⟨entries, rfl⟩⟩
  | cons segment rest ih =>
      rw [List.cons_append] at followed
      rcases followSegments_cons_ok followed with ⟨idle, goesOn⟩ | ⟨rfl, goesOn⟩ | isEntry
      · rw [followSegments_idle stack idle]
        exact ih standing goesOn
      · rw [followSegments_up]
        exact ih (rooted.isDirectoryAt_tail standing) goesOn
      · rcases followSegments_entry_ok isEntry followed with
          ⟨entries, found, goesOn⟩ | ⟨_, _, onlySlashes⟩ | ⟨target, found, _, goesOn⟩
        · rw [followSegments_directory isEntry found]
          exact ih ⟨entries, found⟩ goesOn
        · have slash := List.all_eq_true.mp onlySlashes name
            (List.mem_append_right rest List.mem_cons_self)
          exact absurd (eq_of_beq slash) isName.ne_empty
        · rw [followSegments_link isEntry found]
          by_cases stops : (rest.isEmpty && !followAbove) = true
          · rw [if_pos stops]
            refine ⟨_, _, rfl, ?_⟩
            intro follows
            rw [follows, Bool.not_true, Bool.and_false] at stops
            cases stops
          · rw [if_neg stops]
            rw [← List.append_assoc] at goesOn
            exact above (rooted.isDirectoryAt_start standing _) goesOn

theorem follow_above (isName : Path.IsName name) (rooted : tree.Rooted) (links : Nat)
    {segments stack : List String} {place : Place} (standing : tree.IsDirectoryAt stack.reverse)
    (followed : tree.follow followLast links stack (segments ++ [name]) = .ok place) :
    EndsAbove followAbove (tree.follow followAbove links stack segments) := by
  induction links generalizing stack segments place with
  | zero =>
      refine followSegments_above isName rooted ?_ standing followed
      intro _ _ _ _ impossible
      cases impossible
  | succ links ih =>
      refine followSegments_above isName rooted ?_ standing followed
      intro _ _ _ standing followed
      exact ih standing followed

theorem locate_above {names : List String} (areNames : Path.AreNames (names ++ [name]))
    (rooted : tree.Rooted) (followAbove : Bool) {place : Place}
    (located : tree.locate followLast (Path.ofNames true (names ++ [name])) = .ok place) :
    EndsAbove followAbove (tree.locate followAbove (Path.ofNames true names)) := by
  have canFollow := canFollow_of_locate located
  obtain ⟨more, longer⟩ := Path.text_ofNames_append names name
  have canFollowAbove : CanFollow (Path.ofNames true names) := by
    constructor
    · have noNull := canFollow.noNull
      rw [longer, String.toList_append, List.contains_append] at noNull
      exact (Bool.or_eq_false_iff.mp noNull).1
    · intro empty
      have atSlash := Path.toList_ofNames names
      rw [empty] at atSlash
      cases atSlash
    · have short := canFollow.short
      rw [longer, String.utf8ByteSize_append] at short
      omega
  rw [locate_of_canFollow canFollow (Path.isAbsolute_ofNames _)] at located
  rw [locate_of_canFollow canFollowAbove (Path.isAbsolute_ofNames _)]
  obtain ⟨above, isName⟩ := areNames.ofAppend
  have notEmpty : names ++ [name] ≠ [] :=
    List.append_ne_nil_of_right_ne_nil names (List.cons_ne_nil name [])
  rw [Path.segments_ofNames areNames, if_neg notEmpty] at located
  rw [Path.segments_ofNames above]
  by_cases empty : names = []
  · subst empty
    have ended : EndsAbove followAbove (tree.follow followAbove maxLinks [] [""]) :=
      follow_above isName rooted maxLinks rooted located
    exact ended
  · rw [if_neg empty]
    have ended : EndsAbove followAbove (tree.follow followAbove maxLinks [] ("" :: names)) :=
      follow_above isName rooted maxLinks rooted located
    exact ended

/-- Above a path that leads somewhere there is a directory, so none is made. -/
theorem createDirectories_above {names : List String}
    (areNames : Path.AreNames (names ++ [name])) (rooted : tree.Rooted) {place : Place}
    (located : tree.locate followLast (Path.ofNames true (names ++ [name])) = .ok place) :
    tree.createDirectories (Path.ofNames true names) = (.ok (), tree) := by
  obtain ⟨_, _, taken, _⟩ := locate_above areNames rooted false located
  obtain ⟨_, node, stands, directory⟩ := locate_above areNames rooted true located
  obtain ⟨entries, rfl⟩ := directory rfl
  have notEmpty : (Path.ofNames true names).text ≠ "" := by
    intro empty
    have atSlash := Path.toList_ofNames names
    rw [empty] at atSlash
    cases atSlash
  have alreadyThere : tree.makeDirectory (Path.ofNames true names) =
      .error (.io .alreadyExists) := by
    unfold makeDirectory createDirectory
    rw [taken]
    rfl
  have isDirectory : tree.isDirectory (Path.ofNames true names) = true := by
    unfold isDirectory stat
    rw [stands]
  have here : ∀ above, tree.createAll (Path.ofNames true names :: above) = (.ok (), tree) := by
    intro above
    rw [createAll, if_neg notEmpty]
    dsimp only
    rw [alreadyThere]
    dsimp only
    rw [isDirectory, if_pos rfl]
  unfold createDirectories ancestors
  split
  · exact here _
  · exact here []

end Above

end FileTree

end RuleCompiler

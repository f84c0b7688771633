import RuleCompiler.Proofs.FileTree.Follow

/-!
Normalized paths with no link on their way. Such a path leads where its names say, whether or not its
last link would be followed, and to every node that its names lead to. Making directories for it
adds those that are missing on its way and nothing else. Links may lie elsewhere in the tree.
-/

namespace RuleCompiler.FileTree

/-- No link lies on the way that the names lead, nor at its end. -/
def LinkFreeAlong (tree : FileTree) (names : List String) : Prop :=
  ∀ lead, lead <+: names → ∀ target, tree.at? lead ≠ some (.link target)

variable {tree : FileTree}

theorem LinkFreeAlong.lead {names lead : List String} (linkFree : tree.LinkFreeAlong names)
    (before : lead <+: names) : tree.LinkFreeAlong lead :=
  fun shorter shorterBefore => linkFree shorter (shorterBefore.trans before)

section Walk

variable {followLast followAgain : Bool}
  {onward onwardAgain : List String → List String → Except IoError Place}

theorem isEntry_of_isName {name : String} (isName : Path.IsName name)
    (short : name.utf8ByteSize ≤ maxNameBytes) : IsEntry name :=
  ⟨isName.notIdle, isName.notUp, short⟩

theorem followSegments_long {name : String} (isName : Path.IsName name)
    (long : name.utf8ByteSize > maxNameBytes) (stack rest : List String) :
    tree.followSegments followLast onward stack (name :: rest) = .error .invalidFilename := by
  rw [followSegments, isName.notIdle, if_neg Bool.false_ne_true, if_neg isName.notUp, if_pos long]

theorem reverse_cons_append (name : String) (stack rest : List String) :
    (name :: stack).reverse ++ rest = stack.reverse ++ name :: rest := by
  rw [List.reverse_cons, List.append_assoc, List.singleton_append]

/-- Nothing on the way asks what to do with a link. -/
theorem followSegments_straight {names stack : List String} (areNames : Path.AreNames names)
    (linkFree : tree.LinkFreeAlong (stack.reverse ++ names)) :
    tree.followSegments followLast onward stack names =
      tree.followSegments followAgain onwardAgain stack names := by
  induction names generalizing stack with
  | nil => rw [followSegments, followSegments]
  | cons name rest ih =>
      have isName := areNames name List.mem_cons_self
      by_cases long : name.utf8ByteSize > maxNameBytes
      · rw [followSegments_long isName long, followSegments_long isName long]
      · have isEntry := isEntry_of_isName isName (Nat.le_of_not_gt long)
        cases found : tree.at? (name :: stack).reverse with
        | none => rw [followSegments_free isEntry found, followSegments_free isEntry found]
        | some node =>
            cases node with
            | file contents =>
                rw [followSegments_file isEntry found, followSegments_file isEntry found]
            | link target =>
                exact absurd found (linkFree _ ⟨rest, reverse_cons_append name stack rest⟩ target)
            | directory entries =>
                rw [followSegments_directory isEntry found, followSegments_directory isEntry found]
                apply ih areNames.tail
                rw [reverse_cons_append]
                exact linkFree

theorem followSegments_straight_names {names stack : List String}
    (areNames : Path.AreNames names) (linkFree : tree.LinkFreeAlong (stack.reverse ++ names))
    {place : Place}
    (followed : tree.followSegments followLast onward stack names = .ok place) :
    place.names = stack.reverse ++ names := by
  induction names generalizing stack with
  | nil =>
      unfold followSegments at followed
      split at followed
      · cases followed
        exact (List.append_nil _).symm
      · cases followed
  | cons name rest ih =>
      have isName := areNames name List.mem_cons_self
      rcases followSegments_cons_ok followed with ⟨idle, _⟩ | ⟨up, _⟩ | isEntry
      · rw [isName.notIdle] at idle
        cases idle
      · exact absurd up isName.notUp
      · rcases followSegments_entry_ok isEntry followed with
          ⟨_, _, goesOn⟩ | ⟨ends, _, onlySlashes⟩ | ⟨target, found, _⟩
        · rw [← reverse_cons_append] at linkFree ⊢
          exact ih areNames.tail linkFree goesOn
        · cases rest with
          | nil =>
              rw [ends, List.reverse_cons]
          | cons next more =>
              have slash := List.all_eq_true.mp onlySlashes next List.mem_cons_self
              exact absurd (eq_of_beq slash) (areNames.tail next List.mem_cons_self).ne_empty
        · exact absurd found (linkFree _ ⟨rest, reverse_cons_append name stack rest⟩ target)

/-- A node that names lead to is found, unless one of them is too long. -/
theorem followSegments_straight_found {names stack : List String}
    (areNames : Path.AreNames names) {node : FileNode}
    (found : tree.at? (stack.reverse ++ names) = some node) (noLink : ∀ target, node ≠ .link target) :
    tree.followSegments followLast onward stack names =
        .ok (.taken (stack.reverse ++ names) node) ∨
      tree.followSegments followLast onward stack names = .error .invalidFilename := by
  induction names generalizing stack with
  | nil =>
      rw [List.append_nil] at found ⊢
      left
      rw [followSegments, found]
  | cons name rest ih =>
      have isName := areNames name List.mem_cons_self
      by_cases long : name.utf8ByteSize > maxNameBytes
      · exact Or.inr (followSegments_long isName long stack rest)
      · have isEntry := isEntry_of_isName isName (Nat.le_of_not_gt long)
        rw [← reverse_cons_append] at found ⊢
        by_cases last : rest = []
        · subst last
          rw [List.append_nil] at found ⊢
          left
          cases node with
          | file contents =>
              rw [followSegments_file isEntry found]
              rfl
          | link target => exact absurd rfl (noLink target)
          | directory entries =>
              rw [followSegments_directory isEntry found, followSegments, found]
        · obtain ⟨entries, isDirectory⟩ := FileNode.directory_of_at?_append last found
          rw [followSegments_directory isEntry isDirectory]
          exact ih areNames.tail found

/-- The free place that short names lead to in a directory is found. -/
theorem followSegments_straight_free {names stack : List String} {name : String}
    (areNames : Path.AreNames (names ++ [name]))
    (short : ∀ segment ∈ names ++ [name], segment.utf8ByteSize ≤ maxNameBytes)
    (above : tree.IsDirectoryAt (stack.reverse ++ names))
    (free : tree.at? (stack.reverse ++ (names ++ [name])) = none) :
    tree.followSegments followLast onward stack (names ++ [name]) =
      .ok (.free (stack.reverse ++ (names ++ [name])) false) := by
  induction names generalizing stack with
  | nil =>
      have isEntry := isEntry_of_isName (areNames name List.mem_cons_self)
        (short name List.mem_cons_self)
      rw [List.nil_append, ← List.reverse_cons] at free ⊢
      rw [followSegments_free isEntry free]
      rfl
  | cons first rest ih =>
      have isEntry := isEntry_of_isName (areNames first List.mem_cons_self)
        (short first List.mem_cons_self)
      rw [← reverse_cons_append] at above
      rw [List.cons_append, ← reverse_cons_append] at free ⊢
      obtain ⟨entries, isDirectory⟩ := above.lead
      rw [followSegments_directory isEntry isDirectory]
      exact ih areNames.tail (fun segment member => short segment (List.mem_cons_of_mem first member))
        above free

end Walk

/-! ### Normalized paths -/

section Locate

variable {names : List String} {followLast : Bool}

theorem follow_ofNames (areNames : Path.AreNames names) (links : Nat) :
    tree.follow followLast (links + 1) [] (Path.ofNames true names).segments =
      tree.followSegments followLast (tree.follow followLast links) [] names := by
  rw [Path.segments_ofNames areNames, follow, followSegments_idle [] Path.isIdle_empty]
  by_cases empty : names = []
  · rw [if_pos empty, empty, followSegments_idle [] Path.isIdle_empty]
  · rw [if_neg empty]

theorem locate_straight (areNames : Path.AreNames names) (linkFree : tree.LinkFreeAlong names)
    (followAgain : Bool) :
    tree.locate followLast (Path.ofNames true names) =
      tree.locate followAgain (Path.ofNames true names) := by
  unfold locate
  rw [Path.isAbsolute_ofNames, if_pos rfl]
  unfold maxLinks
  rw [follow_ofNames areNames, follow_ofNames areNames]
  rw [followSegments_straight areNames linkFree]

theorem locate_straight_names (areNames : Path.AreNames names)
    (linkFree : tree.LinkFreeAlong names) {place : Place}
    (located : tree.locate followLast (Path.ofNames true names) = .ok place) :
    place.names = names := by
  rw [locate_of_canFollow (canFollow_of_locate located) (Path.isAbsolute_ofNames names)] at located
  unfold maxLinks at located
  rw [follow_ofNames areNames] at located
  exact followSegments_straight_names areNames linkFree located

theorem locate_straight_found (areNames : Path.AreNames names)
    (canFollow : CanFollow (Path.ofNames true names)) {node : FileNode}
    (found : tree.at? names = some node) (noLink : ∀ target, node ≠ .link target) :
    tree.locate followLast (Path.ofNames true names) = .ok (.taken names node) ∨
      tree.locate followLast (Path.ofNames true names) = .error .invalidFilename := by
  rw [locate_of_canFollow canFollow (Path.isAbsolute_ofNames names)]
  unfold maxLinks
  rw [follow_ofNames areNames]
  exact followSegments_straight_found areNames found noLink

theorem locate_straight_free {name : String} (areNames : Path.AreNames (names ++ [name]))
    (short : ∀ segment ∈ names ++ [name], segment.utf8ByteSize ≤ maxNameBytes)
    (canFollow : CanFollow (Path.ofNames true (names ++ [name])))
    (above : tree.IsDirectoryAt names) (free : tree.at? (names ++ [name]) = none) :
    tree.locate followLast (Path.ofNames true (names ++ [name])) =
      .ok (.free (names ++ [name]) false) := by
  rw [locate_of_canFollow canFollow (Path.isAbsolute_ofNames _)]
  unfold maxLinks
  rw [follow_ofNames areNames]
  exact followSegments_straight_free areNames short above free

/-- Where no link is in the way, a file is written or moved to the same place, or neither. -/
theorem write_straight (areNames : Path.AreNames names) (linkFree : tree.LinkFreeAlong names)
    (contents : FileContents) :
    (tree.write (Path.ofNames true names) contents).toOption =
      (tree.moveInto (Path.ofNames true names) contents).toOption := by
  unfold write moveInto
  rw [locate_straight areNames linkFree false]
  cases located : tree.locate false (Path.ofNames true names) with
  | error cause => rfl
  | ok place =>
      have has := locate_sound located
      have named := locate_straight_names areNames linkFree located
      cases place with
      | free own slash => cases slash <;> rfl
      | taken own node =>
          cases node with
          | file old => rfl
          | directory entries => rfl
          | link target =>
              have isLink : tree.at? own = some (.link target) := has
              have isOwn : own = names := named
              rw [isOwn] at isLink
              exact absurd isLink (linkFree names List.prefix_rfl target)

/-- A file that is put where a path without links leads is found there. -/
theorem stat_put_straight (rooted : tree.Rooted) (areNames : Path.AreNames names)
    (linkFree : tree.LinkFreeAlong names) {followLast : Bool} {place : Place}
    (located : tree.locate followLast (Path.ofNames true names) = .ok place)
    (takes : place.TakesFile) (contents : FileContents) :
    (tree.put names (.file contents)).stat (Path.ofNames true names) = .ok (.file contents) := by
  have named := locate_straight_names areNames linkFree located
  rw [locate_straight areNames linkFree false] at located
  have met := locate_put rooted (Path.isAbsolute_ofNames names) located takes contents true
  rw [named] at met
  obtain ⟨found, walked⟩ := met
  have straight : (tree.put names (.file contents)).locate true (Path.ofNames true names) =
        .ok (.taken names (.file contents)) ∨
      (tree.put names (.file contents)).locate true (Path.ofNames true names) =
        .error .invalidFilename :=
    locate_straight_found areNames (canFollow_of_locate located) found nofun
  have stands : (tree.put names (.file contents)).locate true (Path.ofNames true names) =
      .ok (.taken names (.file contents)) := by
    rcases walked with there | blocked
    · exact there
    · rcases straight with there | long
      · exact there
      · rw [blocked] at long
        cases long
  unfold stat
  rw [stands]

end Locate

/-! ### Directories on the way -/

/-- Every place is as before, or it is one on the way where nothing was and a directory is. -/
def AddsAlong (names : List String) (before after : FileTree) : Prop :=
  ∀ other, after.surfaceAt? other = before.surfaceAt? other ∨
    other <+: names ∧ before.surfaceAt? other = none ∧
      after.surfaceAt? other = some (.directory [])

section Adding

variable {names : List String}

theorem AddsAlong.refl (names : List String) (tree : FileTree) : AddsAlong names tree tree :=
  fun _ => Or.inl rfl

theorem AddsAlong.trans {first second third : FileTree} (before : AddsAlong names first second)
    (after : AddsAlong names second third) : AddsAlong names first third := by
  intro other
  rcases after other with same | ⟨onWay, nothing, isDirectory⟩
  · rw [same]
    exact before other
  · right
    rcases before other with same | ⟨_, _, there⟩
    · exact ⟨onWay, same.symm.trans nothing, isDirectory⟩
    · rw [nothing] at there
      cases there

theorem AddsAlong.longer {before after : FileTree} {lead names : List String}
    (adds : AddsAlong lead before after) (onWay : lead <+: names) :
    AddsAlong names before after := by
  intro other
  rcases adds other with same | ⟨onLead, nothing, isDirectory⟩
  · exact Or.inl same
  · exact Or.inr ⟨onLead.trans onWay, nothing, isDirectory⟩

theorem AddsAlong.linkFreeAlong {before after : FileTree} (adds : AddsAlong names before after)
    {others : List String} (linkFree : before.LinkFreeAlong others) :
    after.LinkFreeAlong others := by
  intro lead onWay target found
  have seen := surfaceAt?_eq_some_link.mpr found
  rcases adds lead with same | ⟨_, _, isDirectory⟩
  · rw [same] at seen
    exact linkFree lead onWay target (surfaceAt?_eq_some_link.mp seen)
  · rw [isDirectory] at seen
    cases seen

theorem surfaceAt?_eq_none {names : List String} :
    tree.surfaceAt? names = none ↔ tree.at? names = none := by
  change (tree.at? names).map FileNode.surface = none ↔ _
  exact Option.map_eq_none_iff

theorem addsAlong_createDirectory {lead : List String} (onWay : lead <+: names)
    (areNames : Path.AreNames lead) (linkFree : tree.LinkFreeAlong lead) {made : FileTree}
    (created : tree.createDirectory (Path.ofNames true lead) = .ok made) :
    AddsAlong names tree made := by
  unfold createDirectory at created
  split at created
  · cases created
  · next place slash located =>
      cases created
      have named : place = lead := locate_straight_names areNames linkFree located
      have free : tree.at? place = none := locate_sound located
      rw [named] at free ⊢
      have hollow := hollow_of_free free
      intro other
      by_cases here : other = lead
      · rw [here]
        rcases surfaceAt?_put_self tree lead (.directory []) with reached | unseen
        · exact Or.inr ⟨onWay, surfaceAt?_eq_none.mpr free, reached⟩
        · exact Or.inl unseen
      · exact Or.inl (surfaceAt?_put_directory hollow here)
  · cases created

theorem mem_ancestors {fuel : Nat} {lead : List String} (areNames : Path.AreNames lead)
    {path : Path} (member : path ∈ ancestors fuel (Path.ofNames true lead)) :
    ∃ shorter, shorter <+: lead ∧ path = Path.ofNames true shorter := by
  induction fuel generalizing lead with
  | zero => exact ⟨lead, List.prefix_rfl, List.mem_singleton.mp member⟩
  | succ fuel ih =>
      rcases List.eq_nil_or_concat lead with empty | ⟨above, name, split⟩
      · subst empty
        exact ⟨[], List.prefix_rfl, List.mem_singleton.mp member⟩
      · rw [List.concat_eq_append] at split
        subst split
        have isParent := Path.parent?_ofNames areNames
        unfold ancestors at member
        rw [isParent] at member
        rcases List.mem_cons.mp member with itself | higher
        · exact ⟨_, List.prefix_rfl, itself⟩
        · obtain ⟨shorter, before, isPath⟩ := ih areNames.ofAppend.1 higher
          exact ⟨shorter, before.trans (List.prefix_append above [name]), isPath⟩

/-- Making the directories of a path adds those that are missing on its way. -/
theorem addsAlong_createDirectories (areNames : Path.AreNames names)
    (linkFree : tree.LinkFreeAlong names) :
    AddsAlong names tree (tree.createDirectories (Path.ofNames true names)).2 := by
  have preserved := createAll_preserves
    (fun before after => before.LinkFreeAlong names →
      AddsAlong names before after ∧ after.LinkFreeAlong names)
    (fun tree linkFree => ⟨AddsAlong.refl names tree, linkFree⟩)
    (fun first second linkFree =>
      have ⟨adds, stillLinkFree⟩ := first linkFree
      have ⟨addsMore, linkFreeAfter⟩ := second stillLinkFree
      ⟨adds.trans addsMore, linkFreeAfter⟩)
    (ancestors (Path.ofNames true names).text.length (Path.ofNames true names))
    (by
      intro tree made path member created linkFree
      obtain ⟨lead, onWay, rfl⟩ := mem_ancestors areNames member
      have areLead : Path.AreNames lead := fun name inside => areNames name (onWay.subset inside)
      have adds := addsAlong_createDirectory onWay areLead (linkFree.lead onWay) created
      exact ⟨adds, adds.linkFreeAlong linkFree⟩) tree
  exact (preserved linkFree).1

end Adding

end RuleCompiler.FileTree

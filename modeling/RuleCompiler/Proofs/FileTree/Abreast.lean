import RuleCompiler.Proofs.FileTree.Straight
import RuleCompiler.Proofs.FileTree.Way

/-!
Two trees that agree outside some places. A path whose way passes none of these places leads to the
same in both, so the same happens to both where something is read, made or written there. The way
is the one in the tree of the beginning: later trees have no other links, and where one is gone
there is a file, at which a walk ends.
-/

namespace RuleCompiler

namespace FileTree

variable {places : List (List String)}

/-- The same lies in both trees at every place outside. -/
structure AlikeOutside (places : List (List String)) (first second : FileTree) : Prop where
  surface : ∀ names, ¬ Inside places names → first.surfaceAt? names = second.surfaceAt? names
  workingDirectory : first.workingDirectory = second.workingDirectory
  host : first.host = second.host

theorem AlikeOutside.workingPath {first second : FileTree}
    (alike : AlikeOutside places first second) : first.workingPath = second.workingPath :=
  congrArg (Path.ofNames true) alike.workingDirectory

/-- What is put into one of the places shows nowhere outside. -/
theorem alikeOutside_put_inside (tree : FileTree) {place : List String} (member : place ∈ places)
    (placed : FileNode) : AlikeOutside places tree (tree.put place placed) where
  surface _ outside := Eq.symm <| tree.root.surfaceAt?_put_of_not_prefix place placed
    fun above => outside ⟨place, member, above⟩
  workingDirectory := rfl
  host := rfl

/-! ### Later trees -/

/-- No link is new, and where one is gone there is a file. -/
structure KeepsLinks (origin tree : FileTree) : Prop where
  old : ∀ names target, tree.surfaceAt? names = some (.link target) →
    origin.surfaceAt? names = some (.link target)
  stays : ∀ names target, origin.surfaceAt? names = some (.link target) →
    tree.surfaceAt? names = some (.link target) ∨
      ∃ contents, tree.surfaceAt? names = some (.file contents)
  workingDirectory : tree.workingDirectory = origin.workingDirectory

theorem KeepsLinks.refl (tree : FileTree) : KeepsLinks tree tree where
  old _ _ := id
  stays _ _ := Or.inl
  workingDirectory := rfl

theorem KeepsLinks.old_at? {origin tree : FileTree} (keeps : KeepsLinks origin tree)
    {names : List String} {target : String} (found : tree.at? names = some (.link target)) :
    origin.at? names = some (.link target) :=
  surfaceAt?_eq_some_link.mp (keeps.old _ _ (surfaceAt?_eq_some_link.mpr found))

/-- Where there is a directory now there was no link. -/
theorem KeepsLinks.no_link_at_directory {origin tree : FileTree} (keeps : KeepsLinks origin tree)
    {names : List String} {entries : List (String × FileNode)}
    (found : tree.at? names = some (.directory entries)) (target : String) :
    origin.at? names ≠ some (.link target) := by
  intro wasLink
  have isDirectory := isDirectoryAt_iff.mp ⟨entries, found⟩
  rcases keeps.stays _ target (surfaceAt?_eq_some_link.mpr wasLink) with
    isLink | ⟨contents, isFile⟩
  · rw [isDirectory] at isLink
    cases isLink
  · rw [isDirectory] at isFile
    cases isFile

/-- Two trees that agree outside, the first with no other links than at the beginning. -/
structure Abreast (origin : FileTree) (places : List (List String)) (first second : FileTree) :
    Prop where
  alike : AlikeOutside places first second
  links : KeepsLinks origin first

/-! ### Two walks -/

/-- Two walks that end in the same way, at a place outside if they end at one. -/
inductive SameWalk (places : List (List String)) :
    Except IoError Place → Except IoError Place → Prop
  | failed (cause : IoError) : SameWalk places (.error cause) (.error cause)
  | free {names : List String} (slash : Bool) : ¬ Inside places names →
      SameWalk places (.ok (.free names slash)) (.ok (.free names slash))
  | file {names : List String} (contents : FileContents) : ¬ Inside places names →
      SameWalk places (.ok (.taken names (.file contents))) (.ok (.taken names (.file contents)))
  | link {names : List String} (target : String) : ¬ Inside places names →
      SameWalk places (.ok (.taken names (.link target))) (.ok (.taken names (.link target)))
  | directory {names : List String} (entries others : List (String × FileNode)) :
      ¬ Inside places names →
      SameWalk places (.ok (.taken names (.directory entries)))
        (.ok (.taken names (.directory others)))

section Walk

variable {origin first second : FileTree} {followLast : Bool}

/-- What two trees that agree at a place can have there. -/
theorem at?_cases_of_surface {names : List String}
    (same : first.surfaceAt? names = second.surfaceAt? names) :
    (first.at? names = none ∧ second.at? names = none) ∨
    (∃ contents, first.at? names = some (.file contents) ∧
      second.at? names = some (.file contents)) ∨
    (∃ target, first.at? names = some (.link target) ∧ second.at? names = some (.link target)) ∨
    ∃ entries others, first.at? names = some (.directory entries) ∧
      second.at? names = some (.directory others) := by
  change (first.at? names).map FileNode.surface = (second.at? names).map FileNode.surface at same
  cases atFirst : first.at? names with
  | none =>
      rw [atFirst] at same
      exact Or.inl ⟨rfl, Option.map_eq_none_iff.mp same.symm⟩
  | some node =>
      rw [atFirst] at same
      obtain ⟨other, atSecond, surface⟩ := Option.map_eq_some_iff.mp same.symm
      cases node with
      | file contents =>
          cases other with
          | file others =>
              cases surface
              exact Or.inr (Or.inl ⟨_, rfl, atSecond⟩)
          | directory others => cases surface
          | link target => cases surface
      | link target =>
          cases other with
          | file contents => cases surface
          | directory others => cases surface
          | link others =>
              cases surface
              exact Or.inr (Or.inr (Or.inl ⟨_, rfl, atSecond⟩))
      | directory entries =>
          cases other with
          | file contents => cases surface
          | link target => cases surface
          | directory others => exact Or.inr (Or.inr (Or.inr ⟨_, _, rfl, atSecond⟩))

theorem followSegments_abreast (abreast : Abreast origin places first second)
    {onward again : List String → List String → Except IoError Place}
    {passed : List String → List String → List (List String)}
    (goesOn : ∀ stack segments, (∀ names ∈ passed stack segments, ¬ Inside places names) →
      SameWalk places (onward stack segments) (again stack segments))
    {segments stack : List String}
    (avoids : ∀ names ∈ origin.stopsAlong passed stack segments, ¬ Inside places names) :
    SameWalk places (first.followSegments followLast onward stack segments)
      (second.followSegments followLast again stack segments) := by
  induction segments generalizing stack with
  | nil =>
      have outside := avoids _ (mem_stopsAlong_here [])
      rw [followSegments, followSegments]
      rcases at?_cases_of_surface (abreast.alike.surface _ outside) with
        ⟨atFirst, atSecond⟩ | ⟨contents, atFirst, atSecond⟩ | ⟨target, atFirst, atSecond⟩ |
          ⟨entries, others, atFirst, atSecond⟩
      · rw [atFirst, atSecond]
        exact .failed _
      · rw [atFirst, atSecond]
        exact .file _ outside
      · rw [atFirst, atSecond]
        exact .link _ outside
      · rw [atFirst, atSecond]
        exact .directory _ _ outside
  | cons segment rest ih =>
      by_cases idle : Path.isIdle segment = true
      · rw [followSegments_idle stack idle, followSegments_idle stack idle]
        rw [stopsAlong_idle idle] at avoids
        exact ih fun names passes => avoids names (List.mem_cons_of_mem _ passes)
      · have notIdle := Bool.eq_false_iff.mpr idle
        by_cases up : segment = ".."
        · rw [up, followSegments_up, followSegments_up]
          rw [up, stopsAlong_up] at avoids
          exact ih fun names passes => avoids names (List.mem_cons_of_mem _ passes)
        · by_cases long : segment.utf8ByteSize > maxNameBytes
          · rw [followSegments, followSegments, if_neg idle, if_neg idle, if_neg up, if_neg up,
              if_pos long, if_pos long]
            exact .failed _
          · have isEntry : IsEntry segment := ⟨notIdle, up, Nat.le_of_not_gt long⟩
            have outside : ¬ Inside places (segment :: stack).reverse :=
              avoids _ (mem_stopsAlong_entry notIdle up)
            rcases at?_cases_of_surface (abreast.alike.surface _ outside) with
              ⟨atFirst, atSecond⟩ | ⟨contents, atFirst, atSecond⟩ | ⟨target, atFirst, atSecond⟩ |
                ⟨entries, others, atFirst, atSecond⟩
            · rw [followSegments_free isEntry atFirst, followSegments_free isEntry atSecond]
              split
              · exact .free _ outside
              · exact .failed _
            · rw [followSegments_file isEntry atFirst, followSegments_file isEntry atSecond]
              split
              · exact .file _ outside
              · exact .failed _
            · rw [followSegments_link isEntry atFirst, followSegments_link isEntry atSecond]
              split
              · exact .link _ outside
              · rw [stopsAlong_link notIdle up (abreast.links.old_at? atFirst)] at avoids
                apply goesOn
                intro names passes
                exact avoids names (List.mem_cons_of_mem _ (List.mem_cons_of_mem _ passes))
            · rw [followSegments_directory isEntry atFirst,
                followSegments_directory isEntry atSecond]
              rw [stopsAlong_into notIdle up (abreast.links.no_link_at_directory atFirst)] at avoids
              exact ih fun names passes => avoids names (List.mem_cons_of_mem _ passes)

theorem follow_abreast (abreast : Abreast origin places first second) (links : Nat)
    {stack segments : List String}
    (avoids : ∀ names ∈ origin.stops links stack segments, ¬ Inside places names) :
    SameWalk places (first.follow followLast links stack segments)
      (second.follow followLast links stack segments) := by
  induction links generalizing stack segments with
  | zero => exact followSegments_abreast abreast (fun _ _ _ => .failed _) avoids
  | succ links ih => exact followSegments_abreast abreast (fun _ _ => ih) avoids

/-- A path that avoids the places where two trees differ leads to the same in both. -/
theorem locate_abreast (abreast : Abreast origin places first second) {path : Path}
    (avoids : origin.Avoids places path) (followLast : Bool) :
    SameWalk places (first.locate followLast path) (second.locate followLast path) := by
  unfold locate
  split
  · exact .failed _
  · split
    · exact .failed _
    · split
      · exact .failed _
      · rw [← abreast.alike.workingDirectory, abreast.links.workingDirectory]
        exact follow_abreast abreast maxLinks avoids

theorem isDirectory_abreast (abreast : Abreast origin places first second) {path : Path}
    (avoids : origin.Avoids places path) : first.isDirectory path = second.isDirectory path := by
  have same := locate_abreast abreast avoids true
  unfold isDirectory stat
  generalize first.locate true path = walked, second.locate true path = again at same
  cases same with
  | failed cause => rfl
  | free slash outside => rfl
  | file contents outside => rfl
  | link target outside => rfl
  | directory entries others outside => rfl

theorem readText_abreast (abreast : Abreast origin places first second) {path : Path}
    (avoids : origin.Avoids places path) : first.readText path = second.readText path := by
  have same := locate_abreast abreast avoids true
  unfold readText stat
  generalize first.locate true path = walked, second.locate true path = again at same
  cases same with
  | failed cause => rfl
  | free slash outside => rfl
  | file contents outside => rfl
  | link target outside => rfl
  | directory entries others outside => rfl

end Walk

/-! ### Two changes -/

section Change

variable {origin first second : FileTree}

/-- Below what is no directory nothing can be put. -/
theorem surfaceAt?_put_unreached {tree : FileTree} {above : List String} {name : String}
    (noDirectory : ¬ tree.IsDirectoryAt above) (placed : FileNode) :
    (tree.put (above ++ [name]) placed).surfaceAt? (above ++ [name]) =
      tree.surfaceAt? (above ++ [name]) := by
  rcases tree.root.at?_put_self (above ++ [name]) placed with reached | unseen
  · have notPrefix : ¬ above ++ [name] <+: above := by
      intro shorter
      have length := shorter.length_le
      rw [List.length_append, List.length_singleton] at length
      omega
    have isDirectory : (tree.put (above ++ [name]) placed).IsDirectoryAt above :=
      FileNode.directory_of_at?_append (List.cons_ne_nil name []) reached
    rw [isDirectoryAt_iff] at isDirectory
    exact absurd (isDirectoryAt_iff.mpr
      ((tree.root.surfaceAt?_put_of_not_prefix _ placed notPrefix).symm.trans isDirectory))
      noDirectory
  · exact unseen _

/-- The same node put at the same place outside is there in both trees, or in neither. -/
theorem alikeOutside_put (alike : AlikeOutside places first second) {names : List String}
    (outside : ¬ Inside places names) {placed : FileNode}
    (bare : ∀ more, more ≠ [] → placed.at? more = none) (firstHollow : first.Hollow names)
    (secondHollow : second.Hollow names) :
    AlikeOutside places (first.put names placed) (second.put names placed) where
  workingDirectory := alike.workingDirectory
  host := alike.host
  surface other otherOutside := by
    by_cases here : other = names
    · subst here
      rcases List.eq_nil_or_concat other with empty | ⟨above, name, split⟩
      · subst empty
        rfl
      · rw [List.concat_eq_append] at split
        subst split
        have aboveOutside : ¬ Inside places above :=
          fun inside => outside (inside.below (List.prefix_append above [name]))
        have sameAbove : first.IsDirectoryAt above ↔ second.IsDirectoryAt above := by
          rw [isDirectoryAt_iff, isDirectoryAt_iff, alike.surface above aboveOutside]
        by_cases isDirectory : first.IsDirectoryAt above
        · have inFirst := at?_put_directory ⟨above, name, rfl, isDirectory⟩ placed
          have inSecond := at?_put_directory ⟨above, name, rfl, sameAbove.mp isDirectory⟩ placed
          change ((first.put _ placed).at? _).map FileNode.surface =
            ((second.put _ placed).at? _).map FileNode.surface
          rw [inFirst, inSecond]
        · rw [surfaceAt?_put_unreached isDirectory,
            surfaceAt?_put_unreached fun inSecond => isDirectory (sameAbove.mpr inSecond)]
          exact alike.surface _ outside
    · exact (first.root.surfaceAt?_put_of_ne bare firstHollow here).trans
        ((alike.surface other otherOutside).trans
          (second.root.surfaceAt?_put_of_ne bare secondHollow here).symm)

theorem KeepsLinks.put_file {tree : FileTree} (keeps : KeepsLinks origin tree)
    {names : List String} (contents : FileContents) (hollow : tree.Hollow names) :
    KeepsLinks origin (tree.put names (.file contents)) where
  workingDirectory := keeps.workingDirectory
  old other target isLink := by
    by_cases here : other = names
    · subst here
      rcases surfaceAt?_put_self tree other (.file contents) with reached | unseen
      · rw [reached] at isLink
        cases isLink
      · exact keeps.old other target (unseen.symm.trans isLink)
    · exact keeps.old other target ((surfaceAt?_put_file contents hollow here).symm.trans isLink)
  stays other target wasLink := by
    by_cases here : other = names
    · subst here
      rcases surfaceAt?_put_self tree other (.file contents) with reached | unseen
      · exact Or.inr ⟨contents, reached⟩
      · rw [unseen]
        exact keeps.stays other target wasLink
    · rw [surfaceAt?_put_file contents hollow here]
      exact keeps.stays other target wasLink

theorem KeepsLinks.put_directory {tree : FileTree} (keeps : KeepsLinks origin tree)
    {names : List String} (free : tree.at? names = none) :
    KeepsLinks origin (tree.put names (.directory [])) := by
  have hollow := hollow_of_free free
  have nothing : tree.surfaceAt? names = none := surfaceAt?_eq_none.mpr free
  constructor
  case workingDirectory => exact keeps.workingDirectory
  case old =>
    intro other target isLink
    by_cases here : other = names
    · subst here
      rcases surfaceAt?_put_self tree other (.directory []) with reached | unseen
      · rw [reached] at isLink
        cases isLink
      · exact keeps.old other target (unseen.symm.trans isLink)
    · exact keeps.old other target ((surfaceAt?_put_directory hollow here).symm.trans isLink)
  case stays =>
    intro other target wasLink
    by_cases here : other = names
    · subst here
      -- where a link was, something still is
      rcases keeps.stays other target wasLink with isLink | ⟨contents, isFile⟩
      · rw [nothing] at isLink
        cases isLink
      · rw [nothing] at isFile
        cases isFile
    · rw [surfaceAt?_put_directory hollow here]
      exact keeps.stays other target wasLink

/-- Two changes that fail in the same way, or that succeed and leave the trees abreast. -/
inductive SameChange {ε : Type} (origin : FileTree) (places : List (List String)) :
    Except ε FileTree → Except ε FileTree → Prop
  | failed (cause : ε) : SameChange origin places (.error cause) (.error cause)
  | done {first second : FileTree} : Abreast origin places first second →
      SameChange origin places (.ok first) (.ok second)

theorem Abreast.put_file (abreast : Abreast origin places first second) {names : List String}
    (outside : ¬ Inside places names) (firstHollow : first.Hollow names)
    (secondHollow : second.Hollow names) (contents : FileContents) :
    Abreast origin places (first.put names (.file contents)) (second.put names (.file contents))
    where
  alike := alikeOutside_put abreast.alike outside
    (fun _ notHere => FileNode.at?_file contents notHere) firstHollow secondHollow
  links := abreast.links.put_file contents firstHollow

theorem createDirectory_abreast (abreast : Abreast origin places first second) {path : Path}
    (avoids : origin.Avoids places path) :
    SameChange origin places (first.createDirectory path) (second.createDirectory path) := by
  have same := locate_abreast abreast avoids false
  have firstSound : ∀ place, first.locate false path = .ok place → first.Has place :=
    fun _ => locate_sound
  have secondSound : ∀ place, second.locate false path = .ok place → second.Has place :=
    fun _ => locate_sound
  unfold createDirectory
  generalize first.locate false path = walked, second.locate false path = again at *
  cases same with
  | failed cause => exact .failed cause
  | file contents outside => exact .failed _
  | link target outside => exact .failed _
  | directory entries others outside => exact .failed _
  | free slash outside =>
      have firstFree := firstSound _ rfl
      have secondFree := secondSound _ rfl
      exact .done
        { alike := alikeOutside_put abreast.alike outside
            (fun _ notHere => FileNode.at?_empty_directory notHere) (hollow_of_free firstFree)
            (hollow_of_free secondFree)
          links := abreast.links.put_directory firstFree }

theorem permitted_abreast (sameHost : first.host = second.host) (change : FileChange) (path : Path)
    {one other : Except IoError FileTree} (same : SameChange origin places one other) :
    SameChange origin places (first.permitted change path one)
      (second.permitted change path other) := by
  unfold permitted
  rw [sameHost]
  cases same with
  | failed cause => exact .failed _
  | done abreast =>
      cases second.host.refusal? change path with
      | none => exact .done abreast
      | some refusal => exact .failed _

/-- Making some directories does the same in both trees, also where it fails halfway. -/
theorem createAll_abreast (paths : List Path) (abreast : Abreast origin places first second)
    (avoid : ∀ path ∈ paths, origin.Avoids places path) :
    (first.createAll paths).1 = (second.createAll paths).1 ∧
      Abreast origin places (first.createAll paths).2 (second.createAll paths).2 := by
  induction paths generalizing first second with
  | nil => exact ⟨rfl, abreast⟩
  | cons path above ih =>
      have avoids := avoid path List.mem_cons_self
      -- what is looked at where a directory could not be made
      have settle : ∀ {one other : FileTree}, Abreast origin places one other → ∀ cause,
          let settled : FileTree → Except ChangeError Unit × FileTree := fun tree =>
            if tree.isDirectory path then (.ok (), tree) else (.error cause, tree)
          (settled one).1 = (settled other).1 ∧
            Abreast origin places (settled one).2 (settled other).2 := by
        intro one other stillAbreast cause
        dsimp only
        rw [isDirectory_abreast stillAbreast avoids]
        split
        · exact ⟨rfl, stillAbreast⟩
        · exact ⟨rfl, stillAbreast⟩
      have makes : ∀ {one other : FileTree}, Abreast origin places one other →
          SameChange origin places (one.makeDirectory path) (other.makeDirectory path) :=
        fun stillAbreast => permitted_abreast stillAbreast.alike.host .makeDirectory path
          (createDirectory_abreast stillAbreast avoids)
      unfold createAll
      split
      · exact ⟨rfl, abreast⟩
      · have same := makes abreast
        generalize first.makeDirectory path = made, second.makeDirectory path = again at same ⊢
        cases same with
        | done stillAbreast => exact ⟨rfl, stillAbreast⟩
        | failed cause =>
            dsimp only
            split
            · next isMade => cases isMade
            · obtain ⟨sameAnswer, stillAbreast⟩ :=
                ih abreast fun other member => avoid other (List.mem_cons_of_mem path member)
              generalize first.createAll above = made,
                second.createAll above = again at sameAnswer stillAbreast ⊢
              obtain ⟨answer, one⟩ := made
              obtain ⟨otherAnswer, other⟩ := again
              obtain rfl : answer = otherAnswer := sameAnswer
              cases answer with
              | error cause => exact ⟨rfl, stillAbreast⟩
              | ok made =>
                  dsimp only
                  have sameAgain := makes stillAbreast
                  generalize one.makeDirectory path = made,
                    other.makeDirectory path = again at sameAgain
                  cases sameAgain with
                  | done finallyAbreast => exact ⟨rfl, finallyAbreast⟩
                  | failed cause => exact settle stillAbreast cause
            · exact settle abreast _

theorem createDirectories_abreast (abreast : Abreast origin places first second) {path : Path}
    (normal : path.IsNormal) (avoids : origin.Avoids places path) :
    (first.createDirectories path).1 = (second.createDirectories path).1 ∧
      Abreast origin places (first.createDirectories path).2
        (second.createDirectories path).2 := by
  obtain ⟨names, areNames, rfl⟩ := normal
  apply createAll_abreast _ abreast
  intro above member
  obtain ⟨lead, onWay, rfl⟩ := mem_ancestors areNames member
  exact avoids.above areNames onWay

theorem write_abreast (abreast : Abreast origin places first second) {path : Path}
    (avoids : origin.Avoids places path) (contents : FileContents) :
    SameChange origin places (first.write path contents) (second.write path contents) := by
  have same := locate_abreast abreast avoids true
  have firstSound : ∀ place, first.locate true path = .ok place → first.Has place :=
    fun _ => locate_sound
  have secondSound : ∀ place, second.locate true path = .ok place → second.Has place :=
    fun _ => locate_sound
  unfold write
  generalize first.locate true path = walked, second.locate true path = again at *
  cases same with
  | failed cause => exact .failed cause
  | link target outside => exact .failed _
  | directory entries others outside => exact .failed _
  | file old outside =>
      exact .done (abreast.put_file outside (hollow_of_takesFile (firstSound _ rfl) trivial)
        (hollow_of_takesFile (secondSound _ rfl) trivial) contents)
  | free slash outside =>
      cases slash with
      | true => exact .failed _
      | false =>
          exact .done (abreast.put_file outside (hollow_of_free (firstSound _ rfl))
            (hollow_of_free (secondSound _ rfl)) contents)

theorem moveInto_abreast (abreast : Abreast origin places first second) {path : Path}
    (avoids : origin.Avoids places path) (contents : FileContents) :
    SameChange origin places (first.moveInto path contents) (second.moveInto path contents) := by
  have same := locate_abreast abreast avoids false
  have firstSound : ∀ place, first.locate false path = .ok place → first.Has place :=
    fun _ => locate_sound
  have secondSound : ∀ place, second.locate false path = .ok place → second.Has place :=
    fun _ => locate_sound
  unfold moveInto
  generalize first.locate false path = walked, second.locate false path = again at *
  cases same with
  | failed cause => exact .failed cause
  | directory entries others outside => exact .failed _
  | file old outside =>
      exact .done (abreast.put_file outside (hollow_of_takesFile (firstSound _ rfl) trivial)
        (hollow_of_takesFile (secondSound _ rfl) trivial) contents)
  | link target outside =>
      exact .done (abreast.put_file outside (hollow_of_takesFile (firstSound _ rfl) trivial)
        (hollow_of_takesFile (secondSound _ rfl) trivial) contents)
  | free slash outside =>
      cases slash with
      | true => exact .failed _
      | false =>
          exact .done (abreast.put_file outside (hollow_of_free (firstSound _ rfl))
            (hollow_of_free (secondSound _ rfl)) contents)

theorem overwrite_abreast (abreast : Abreast origin places first second) {path : Path}
    (avoids : origin.Avoids places path) (contents : FileContents) :
    (first.overwrite path contents).1 = (second.overwrite path contents).1 ∧
      Abreast origin places (first.overwrite path contents).2
        (second.overwrite path contents).2 := by
  have sameReach : first.reach path contents = second.reach path contents := by
    unfold reach
    rw [abreast.alike.host]
  unfold overwrite
  rw [sameReach]
  have same := permitted_abreast abreast.alike.host .openFile path
    (write_abreast abreast avoids (second.reach path contents).1)
  dsimp only
  generalize first.permitted .openFile path (first.write path _) = wrote,
    second.permitted .openFile path (second.write path _) = again at same ⊢
  cases same with
  | failed cause => exact ⟨rfl, abreast⟩
  | done stillAbreast => exact ⟨rfl, stillAbreast⟩

theorem replace_abreast (abreast : Abreast origin places first second) {path : Path}
    (avoids : origin.Avoids places path) (contents : FileContents) :
    (first.replace path contents).1 = (second.replace path contents).1 ∧
      Abreast origin places (first.replace path contents).2 (second.replace path contents).2 := by
  have same := permitted_abreast abreast.alike.host .rename path
    (moveInto_abreast abreast avoids contents)
  unfold replace
  generalize first.permitted .rename path (first.moveInto path contents) = moved,
    second.permitted .rename path (second.moveInto path contents) = again at same
  cases same with
  | failed cause => exact ⟨rfl, abreast⟩
  | done stillAbreast => exact ⟨rfl, stillAbreast⟩

end Change

end FileTree

end RuleCompiler

import RuleCompiler.Proofs.Path

/-!
Labels tell paths apart. Below the root a label is the names that lead on from the root, elsewhere
it is the path itself, which starts with a slash. Either way it leads back from the root to where
its path leads, without detours; so two paths with one label are one path.
-/

namespace RuleCompiler.Path

theorem toList_head?_joined {names : List String} (areNames : AreNames names) :
    (joined names).toList.head? ≠ some '/' := by
  cases names with
  | nil =>
      unfold joined
      rw [String.intercalate_nil]
      decide
  | cons name rest =>
      have isName := areNames name List.mem_cons_self
      rw [toList_joined, List.map_cons]
      cases letters : name.toList with
      | nil => exact absurd (String.toList_eq_nil_iff.mp letters) isName.ne_empty
      | cons c others =>
          have different : c ≠ '/' := by
            intro same
            have noSlash := isName.noSlash
            rw [letters, same] at noSlash
            exact noSlash List.mem_cons_self
          intro atSlash
          cases rest with
          | nil =>
              rw [List.map_nil, List.intercalate_singleton] at atSlash
              exact different (Option.some.inj atSlash)
          | cons next more =>
              rw [List.map_cons, List.intercalate_cons_cons] at atSlash
              exact different (Option.some.inj atSlash)

theorem eq_append_of_afterNames {lead names rest : List String}
    (after : afterNames lead names = some rest) : names = lead ++ rest := by
  induction lead generalizing names with
  | nil =>
      cases after
      rfl
  | cons first lead ih =>
      cases names with
      | nil => cases after
      | cons name names =>
          rw [afterNames] at after
          split at after
          · rename_i same
            rw [same, ih after]
            rfl
          · cases after

theorem relativeLabel_cases (path workingDirectory root : Path)
    (absolute : workingDirectory.isAbsolute = true) :
    ∃ names, AreNames names ∧ path.absolutize workingDirectory = ofNames true names ∧
      ((∃ rest, AreNames rest ∧ names = (root.absolutize workingDirectory).names ++ rest ∧
          path.relativeLabel workingDirectory root = joined rest) ∨
        path.relativeLabel workingDirectory root = (ofNames true names).text) := by
  obtain ⟨names, areNames, normal⟩ := isNormal_absolutize path absolute
  refine ⟨names, areNames, normal, ?_⟩
  unfold relativeLabel
  rw [normal]
  dsimp only
  rw [names_ofNames areNames]
  cases after : afterNames (root.absolutize workingDirectory).names names with
  | some rest =>
      have below := eq_append_of_afterNames after
      refine Or.inl ⟨rest, ?_, below, rfl⟩
      rw [below] at areNames
      exact fun name member => areNames name (List.mem_append_right _ member)
  | none => exact Or.inr rfl

/-! ### Back from the root -/

theorem pieces_joined_cases {names : List String} (areNames : AreNames names) :
    names = [] ∧ Text.pieces '/' (joined names) = [""] ∨
      Text.pieces '/' (joined names) = names := by
  by_cases empty : names = []
  · subst empty
    exact Or.inl ⟨rfl, rfl⟩
  · exact Or.inr (pieces_joined empty fun name member => (areNames name member).noSlash)

theorem names_join_joined (path : Path) {names : List String} (areNames : AreNames names) :
    (path.join (joined names)).names = path.names ++ names := by
  have walked : ∀ stack, (Text.pieces '/' (joined names)).foldl walk stack =
      names.reverse ++ stack := by
    intro stack
    rcases pieces_joined_cases areNames with ⟨rfl, pieces⟩ | pieces
    · rw [pieces, List.foldl_cons, walk_of_isIdle stack isIdle_empty]
      rfl
    · rw [pieces, foldl_walk_of_areNames areNames]
  unfold Path.names
  rw [foldl_walk_join path (toList_head?_joined areNames), walked, List.reverse_append,
    List.reverse_reverse]

/-- Joined to its root, a label leads to where its path leads. -/
theorem absolutize_join_relativeLabel (path root : Path) {workingDirectory : Path}
    (absolute : workingDirectory.isAbsolute = true) :
    ((root.absolutize workingDirectory).join
        (path.relativeLabel workingDirectory root)).absolutize workingDirectory =
      path.absolutize workingDirectory := by
  have rootNormal := isNormal_absolutize root absolute
  obtain ⟨names, areNames, normal, label⟩ :=
    relativeLabel_cases path workingDirectory root absolute
  rw [normal]
  rcases label with ⟨rest, areRest, below, label⟩ | label
  · have joinedAbsolute := isAbsolute_join rootNormal.isAbsolute (joined rest)
    rw [label, absolutize_of_isAbsolute joinedAbsolute, names_join_joined _ areRest, ← below]
  · -- A label from outside is the whole path, and the root plays no part.
    have alone : (root.absolutize workingDirectory).join (ofNames true names).text =
        ofNames true names := if_pos (eq_of_beq (isAbsolute_ofNames names))
    rw [label, alone, absolutize_eq_normalize (isAbsolute_ofNames names)]
    exact IsNormal.normalize_eq ⟨names, areNames, rfl⟩

/-- Paths with one label are one path, since the label leads back to each of them. -/
theorem absolutize_eq_of_relativeLabel {first second workingDirectory root : Path}
    (absolute : workingDirectory.isAbsolute = true)
    (same : first.relativeLabel workingDirectory root =
      second.relativeLabel workingDirectory root) :
    first.absolutize workingDirectory = second.absolutize workingDirectory := by
  have back := absolutize_join_relativeLabel first root absolute
  rw [same, absolutize_join_relativeLabel second root absolute] at back
  exact back.symm

theorem relativeLabel_eq_iff {first second workingDirectory root : Path}
    (absolute : workingDirectory.isAbsolute = true) :
    first.relativeLabel workingDirectory root = second.relativeLabel workingDirectory root ↔
      first.absolutize workingDirectory = second.absolutize workingDirectory := by
  refine ⟨absolutize_eq_of_relativeLabel absolute, fun same => ?_⟩
  unfold relativeLabel
  rw [same]

theorem segments_relativeLabel (path root : Path) {workingDirectory : Path}
    (absolute : workingDirectory.isAbsolute = true) :
    ∀ segment ∈ Text.pieces '/' (path.relativeLabel workingDirectory root),
      segment ≠ "." ∧ segment ≠ ".." := by
  obtain ⟨names, areNames, _, label⟩ := relativeLabel_cases path workingDirectory root absolute
  rcases label with ⟨rest, areRest, _, label⟩ | label
  · intro segment member
    rw [label] at member
    apply ne_dots
    rcases pieces_joined_cases areRest with ⟨_, pieces⟩ | pieces
    · rw [pieces] at member
      exact Or.inl (List.mem_singleton.mp member)
    · rw [pieces] at member
      exact Or.inr (areRest segment member)
  · have normal : (ofNames true names).IsNormal := ⟨names, areNames, rfl⟩
    rw [label]
    exact normal.segments

end RuleCompiler.Path

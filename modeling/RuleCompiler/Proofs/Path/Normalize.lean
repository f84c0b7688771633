import RuleCompiler.Proofs.Path

/-!
Normalizing absolute paths. What is left is the root and names, so normalizing again changes
nothing; and since a path is walked from where the path before it leads, it does not matter whether
that one is normalized first.
-/

namespace RuleCompiler.Path

theorem normalize_of_isAbsolute {path : Path} (absolute : path.isAbsolute = true) :
    path.normalize = ofNames true path.names := by
  unfold normalize
  rw [absolute]

theorem isNormal_normalize {path : Path} (absolute : path.isAbsolute = true) :
    path.normalize.IsNormal :=
  ⟨path.names, areNames_names path, normalize_of_isAbsolute absolute⟩

theorem leadsAlike_normalize {path : Path} (absolute : path.isAbsolute = true) :
    LeadsAlike path.normalize path where
  firstAbsolute := (isNormal_normalize absolute).isAbsolute
  secondAbsolute := absolute
  names := by rw [normalize_of_isAbsolute absolute, names_ofNames (areNames_names path)]

theorem LeadsAlike.normalize_eq {first second : Path} (alike : LeadsAlike first second) :
    first.normalize = second.normalize := by
  rw [normalize_of_isAbsolute alike.firstAbsolute, normalize_of_isAbsolute alike.secondAbsolute,
    alike.names]

/-! ### Parts -/

theorem filter_of_areNames {names : List String} (areNames : AreNames names) :
    names.filter (fun segment => !isIdle segment) = names := by
  apply List.filter_eq_self.mpr
  intro name member
  rw [(areNames name member).notIdle]
  rfl

theorem map_partOf_of_areNames {names : List String} (areNames : AreNames names) :
    names.map partOf = names.map PathPart.name :=
  List.map_congr_left fun name member => if_neg (areNames name member).notUp

theorem parts_ofNames {names : List String} (areNames : AreNames names) :
    (ofNames true names).parts = .root :: names.map PathPart.name := by
  have steps : (ofNames true names).steps = names := by
    unfold Path.steps
    rw [segments_ofNames areNames, List.filter_cons_of_neg (by rw [isIdle_empty]; decide)]
    by_cases empty : names = []
    · rw [if_pos empty, empty]
      exact List.filter_cons_of_neg (by rw [isIdle_empty]; decide)
    · rw [if_neg empty, filter_of_areNames areNames]
  unfold parts
  rw [isAbsolute_ofNames, if_pos rfl, steps, map_partOf_of_areNames areNames]
  rfl

/-! ### The root -/

theorem names_eq_nil_of_normalize {path : Path} (absolute : path.isAbsolute = true)
    (atRoot : path.normalize = ⟨"/"⟩) : path.names = [] := by
  have none : AreNames [] := fun _ member => absurd member List.not_mem_nil
  rw [normalize_of_isAbsolute absolute] at atRoot
  exact ofNames_injective (areNames_names path) none atRoot

/-- There is nothing above the root: a `..` that leads up from it leads nowhere. -/
theorem names_join_up_of_root {path : Path} (atRoot : path.names = []) (tail : String) :
    (path.join ("../" ++ tail)).names = (path.join tail).names := by
  have start : path.segments.foldl walk [] = [] := List.reverse_eq_nil_iff.mp atRoot
  have relative : ("../" ++ tail).toList.head? ≠ some '/' := by
    rw [String.toList_append]
    exact fun atSlash => absurd (Option.some.inj atSlash) (by decide : '.' ≠ '/')
  have pieces : Text.pieces '/' ("../" ++ tail) = ".." :: Text.pieces '/' tail :=
    pieces_append_slash ".." tail
  have walked : (path.join ("../" ++ tail)).segments.foldl walk [] =
      (Text.pieces '/' tail).foldl walk [] := by
    rw [foldl_walk_join path relative, pieces, start]
    rfl
  have walkedTail : (path.join tail).segments.foldl walk [] =
      (Text.pieces '/' tail).foldl walk [] := by
    by_cases alone : tail.toList.head? = some '/'
    · unfold join
      rw [if_pos alone]
      rfl
    · rw [foldl_walk_join path alone, start]
  unfold names
  rw [walked, walkedTail]

/-- A normalized path is the root and the names that are left, in their order. Normalizing it again
changes nothing, nor does it matter to what is joined to a path whether the path was normalized
before; and `..` at the root is dropped. -/
theorem normalize_absolute {path : Path} (absolute : path.isAbsolute = true) (tail : String) :
    path.normalize.isAbsolute = true ∧
    path.normalize.parts = .root :: path.names.map PathPart.name ∧
    path.normalize.normalize = path.normalize ∧
    (path.normalize.join tail).normalize = (path.join tail).normalize ∧
    (path.normalize = ⟨"/"⟩ →
      (path.join ("../" ++ tail)).normalize = (path.join tail).normalize) := by
  have normal := isNormal_normalize absolute
  refine ⟨normal.isAbsolute, ?parts, normal.normalize_eq, ?join, ?root⟩
  case parts =>
    rw [normalize_of_isAbsolute absolute, parts_ofNames (areNames_names path)]
  case join =>
    exact ((leadsAlike_normalize absolute).join tail).normalize_eq
  case root =>
    intro atRoot
    have noNames := names_eq_nil_of_normalize absolute atRoot
    rw [normalize_of_isAbsolute (isAbsolute_join absolute _),
      normalize_of_isAbsolute (isAbsolute_join absolute _), names_join_up_of_root noNames tail]

/-- More leads up than there are names, also in what is joined to the path. -/
theorem normalize_above_root :
    let path : Path := ⟨"/srv/./..//../"⟩
    let tail := "../a//b/../c"
    path.isAbsolute = true ∧ path.normalize = ⟨"/"⟩ ∧
    (path.normalize.join tail).normalize = (path.join tail).normalize ∧
    (path.join ("../" ++ tail)).normalize = (path.join tail).normalize ∧
    (path.join tail).normalize = ⟨"/a/c"⟩ := by
  intro path tail
  have absolute : path.isAbsolute = true := by decide
  have atRoot : path.normalize = ⟨"/"⟩ := by decide
  obtain ⟨_, _, _, joined, dropped⟩ := normalize_absolute absolute tail
  exact ⟨absolute, atRoot, joined, dropped atRoot, by decide⟩

end RuleCompiler.Path

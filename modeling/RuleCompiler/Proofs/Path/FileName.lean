import Mathlib.Data.List.TakeWhile
import RuleCompiler.Path.Output
import RuleCompiler.Proofs.Path

/-!
Names at the ends of paths. The last segment decides whether a path looks like a directory, and what
its parent is; and a rule's name with an ending is one name, so that a file of that name lies in the
directory that it is joined to.
-/

namespace RuleCompiler

namespace Path

/-! ### Extensions -/

/-- The first character of a name starts no extension. -/
theorem splitExtension_eq_none_iff (name : String) :
    (splitExtension name).2 = none ↔ '.' ∉ name.toList.tail := by
  unfold splitExtension
  cases cut : Text.cutAt '.' name.toList.reverse with
  | none =>
      have absent := Text.cutAt_eq_none_iff.mp cut
      rw [List.mem_reverse] at absent
      exact iff_of_true rfl fun inTail => absent (List.mem_of_mem_tail inTail)
  | some parts =>
      obtain ⟨after, before⟩ := parts
      obtain ⟨split, absent⟩ := Text.eq_append_of_cutAt cut
      have letters : name.toList = before.reverse ++ '.' :: after.reverse := by
        rw [← List.reverse_reverse name.toList, split, List.reverse_append, List.reverse_cons,
          List.append_assoc, List.singleton_append]
      rw [letters]
      -- The last dot is either the first character or has some before it.
      cases before with
      | nil =>
          rw [List.reverse_nil, List.nil_append, List.tail_cons, List.mem_reverse]
          exact iff_of_true rfl absent
      | cons c before =>
          have notEmpty : (c :: before).reverse ≠ [] := by
            rw [List.reverse_cons]
            exact List.append_ne_nil_of_right_ne_nil _ (List.cons_ne_nil c [])
          rw [List.tail_append_of_ne_nil notEmpty]
          exact iff_of_false nofun fun absent =>
            absent (List.mem_append_right _ List.mem_cons_self)

/-! ### The last segment -/

theorem partOf_of_isName {name : String} (isName : IsName name) : partOf name = .name name :=
  if_neg isName.notUp

theorem fileName?_of_segments {path : Path} {before idle : List String} {name : String}
    (segments : path.segments = before ++ name :: idle)
    (areIdle : ∀ segment ∈ idle, isIdle segment = true) (isName : IsName name) :
    path.fileName? = some name := by
  have noSteps : idle.filter (fun segment => !isIdle segment) = [] := by
    rw [List.filter_eq_nil_iff]
    intro segment member
    rw [areIdle segment member]
    exact Bool.false_ne_true
  have steps : path.steps = before.filter (fun segment => !isIdle segment) ++ [name] := by
    unfold Path.steps
    rw [segments, List.filter_append, List.filter_cons_of_pos (by rw [isName.notIdle]; rfl),
      noSteps]
  unfold fileName? parts
  rw [steps, List.map_append, List.map_singleton, ← List.append_assoc, List.getLast?_concat,
    partOf_of_isName isName]

theorem not_trailing_slash {path : Path} {before : List String} {name : String}
    (segments : path.segments = before ++ [name]) (isName : IsName name) :
    path.text.toList.getLast? ≠ some '/' := by
  intro atSlash
  obtain ⟨lead, _, trailing⟩ := pieces_of_trailing_slash atSlash
  have same := segments.symm.trans trailing
  exact isName.ne_empty (List.append_inj_right' same rfl |> List.cons.inj).1

theorem isName_of_fileName? {path : Path} {name : String} (atEnd : path.fileName? = some name) :
    IsName name := by
  unfold fileName? at atEnd
  split at atEnd
  · rename_i last lastEq
    cases atEnd
    have member : PathPart.name name ∈ path.parts := List.mem_of_getLast? lastEq
    unfold parts at member
    rcases List.mem_append.mp member with inLead | inSteps
    · split at inLead
      · cases List.mem_singleton.mp inLead
      · split at inLead
        · cases List.mem_singleton.mp inLead
        · cases inLead
    · obtain ⟨step, isStep, isPart⟩ := List.mem_map.mp inSteps
      obtain ⟨inSegments, notIdle⟩ := List.mem_filter.mp isStep
      unfold partOf at isPart
      split at isPart
      · cases isPart
      · rename_i notUp
        cases isPart
        exact ⟨by simpa using notIdle, notUp, noSlash_of_mem_segments inSegments⟩
  · cases atEnd

theorem getLast?_steps_of_fileName? {path : Path} {name : String}
    (atEnd : path.fileName? = some name) : path.steps.getLast? = some name := by
  unfold fileName? parts at atEnd
  rcases List.eq_nil_or_concat path.steps with none | ⟨before, step, split⟩
  · rw [none] at atEnd
    split at atEnd
    · next lastEq =>
        cases atEnd
        split at lastEq
        · cases lastEq
        · split at lastEq <;> cases lastEq
    · cases atEnd
  · rw [List.concat_eq_append] at split
    rw [split, List.map_append, List.map_singleton, ← List.append_assoc, List.getLast?_concat]
      at atEnd
    unfold partOf at atEnd
    rw [split, List.getLast?_concat]
    split at atEnd
    · next lastEq =>
        cases atEnd
        split at lastEq
        · cases lastEq
        · cases lastEq
          rfl
    · cases atEnd

/-- Behind the name at the end, a path has nothing but idle segments. -/
theorem segments_of_fileName? {path : Path} {name : String} (atEnd : path.fileName? = some name) :
    ∃ before idle, path.segments = before ++ name :: idle ∧
      ∀ segment ∈ idle, isIdle segment = true := by
  obtain ⟨steps, split⟩ := List.getLast?_eq_some_iff.mp (getLast?_steps_of_fileName? atEnd)
  obtain ⟨lead, rest, segments, _, restSteps⟩ := List.filter_eq_append_iff.mp split
  obtain ⟨passed, idle, restEq, _, _, idleSteps⟩ := List.filter_eq_cons_iff.mp restSteps
  refine ⟨lead ++ passed, idle, ?_, fun segment member => ?_⟩
  · rw [segments, restEq, List.append_assoc]
  · have notStep := List.filter_eq_nil_iff.mp idleSteps segment member
    simpa using notStep

/-! ### Parents -/

theorem foldl_walk_of_idle {segments : List String}
    (idle : ∀ segment ∈ segments, isIdle segment = true) (stack : List String) :
    segments.foldl walk stack = stack := by
  induction segments generalizing stack with
  | nil => rfl
  | cons segment rest ih =>
      rw [List.foldl_cons, walk_of_isIdle stack (idle segment List.mem_cons_self)]
      exact ih (fun other member => idle other (List.mem_cons_of_mem segment member)) stack

theorem eq_dropIdle_append (segments : List String) :
    ∃ idle, segments = dropIdle segments ++ idle ∧ ∀ segment ∈ idle, isIdle segment = true := by
  refine ⟨(segments.reverse.takeWhile isIdle).reverse, ?_, ?_⟩
  · unfold dropIdle
    rw [← List.reverse_append, List.takeWhile_append_dropWhile, List.reverse_reverse]
  · intro segment member
    exact List.mem_takeWhile_imp (List.mem_reverse.mp member)

theorem dropIdle_append_of_idle (segments : List String) {idle : List String}
    (areIdle : ∀ segment ∈ idle, isIdle segment = true) :
    dropIdle (segments ++ idle) = dropIdle segments := by
  unfold dropIdle
  rw [List.reverse_append, List.dropWhile_append_of_pos fun segment member =>
    areIdle segment (List.mem_reverse.mp member)]

theorem mem_of_mem_dropIdle {segments : List String} {segment : String}
    (member : segment ∈ dropIdle segments) : segment ∈ segments := by
  obtain ⟨idle, split, _⟩ := eq_dropIdle_append segments
  rw [split]
  exact List.mem_append_left idle member

theorem foldl_walk_dropIdle (segments stack : List String) :
    (dropIdle segments).foldl walk stack = segments.foldl walk stack := by
  obtain ⟨idle, split, isIdle⟩ := eq_dropIdle_append segments
  calc (dropIdle segments).foldl walk stack
      = idle.foldl walk ((dropIdle segments).foldl walk stack) :=
        (foldl_walk_of_idle isIdle _).symm
    _ = segments.foldl walk stack := by rw [← List.foldl_append, ← split]

theorem segments_of_isAbsolute {path : Path} (absolute : path.isAbsolute = true) :
    ∃ more, path.segments = "" :: more := by
  obtain ⟨letters, split⟩ := List.head?_eq_some_iff.mp (eq_of_beq absolute)
  refine ⟨(Text.splitOn '/' letters).map String.ofList, ?_⟩
  unfold segments Text.pieces
  rw [split, Text.splitOn, if_pos rfl]
  rfl

/-- Behind a slash, segments that need not be names are walked from the root. -/
theorem names_of_joined {segments : List String}
    (noSlash : ∀ segment ∈ segments, '/' ∉ segment.toList) :
    (Path.mk ("/" ++ joined segments)).names = (segments.foldl walk []).reverse := by
  have pieces : Text.pieces '/' ("/" ++ joined segments) =
      "" :: Text.pieces '/' (joined segments) :=
    pieces_append_slash "" (joined segments)
  unfold names Path.segments
  rw [pieces, List.foldl_cons, walk_of_isIdle [] isIdle_empty]
  by_cases empty : segments = []
  · rw [empty]
    rfl
  · rw [pieces_joined empty noSlash]

/-- The parent leads to where the segments before the name at the end lead. -/
theorem parent?_of_segments {path : Path} (absolute : path.isAbsolute = true)
    {before idle : List String} {name : String} (segments : path.segments = before ++ name :: idle)
    (areIdle : ∀ segment ∈ idle, isIdle segment = true) (isName : IsName name) :
    ∃ parent : Path, path.parent? = some parent ∧ parent.isAbsolute = true ∧
      parent.names = (before.foldl walk []).reverse := by
  obtain ⟨more, absoluteSegments⟩ := segments_of_isAbsolute absolute
  cases before with
  | nil =>
      rw [absoluteSegments, List.nil_append] at segments
      exact absurd (List.cons.inj segments).1.symm isName.ne_empty
  | cons first rest =>
      obtain ⟨rfl, rfl⟩ := List.cons.inj (segments.symm.trans absoluteSegments)
      have parent : path.parent? = some ⟨"/" ++ joined (dropIdle rest)⟩ := by
        have kept : dropIdle (rest ++ name :: idle) = rest ++ [name] := by
          rw [List.append_cons, dropIdle_append_of_idle _ areIdle, dropIdle_concat rest isName]
        unfold parent?
        rw [absolute, segments]
        dsimp only
        rw [List.cons_append, List.drop_succ_cons, List.drop_zero, kept]
        cases rest with
        | nil => rfl
        | cons second others =>
            simp only [List.cons_append]
            rw [← List.cons_append, List.dropLast_concat, List.nil_append]
      have noSlash : ∀ segment ∈ dropIdle rest, '/' ∉ segment.toList := by
        intro segment member
        have inPath : segment ∈ path.segments := by
          rw [segments]
          apply List.mem_append_left
          exact List.mem_cons_of_mem _ (mem_of_mem_dropIdle member)
        exact noSlash_of_mem_segments inPath
      refine ⟨_, parent, ?_, ?_⟩
      · unfold isAbsolute
        rw [String.toList_append]
        rfl
      · rw [names_of_joined noSlash, foldl_walk_dropIdle, List.foldl_cons,
          walk_of_isIdle [] isIdle_empty]

theorem names_of_segments {path : Path} {before idle : List String} {name : String}
    (segments : path.segments = before ++ name :: idle)
    (areIdle : ∀ segment ∈ idle, isIdle segment = true) (isName : IsName name) :
    path.names = (before.foldl walk []).reverse ++ [name] := by
  unfold names
  rw [segments, List.foldl_append, List.foldl_cons, foldl_walk_of_idle areIdle,
    walk_of_isName _ isName, List.reverse_cons]

/-- A path that ends in a name leads to that name in its parent. -/
theorem parent?_of_fileName? {path : Path} (absolute : path.isAbsolute = true) {name : String}
    (atEnd : path.fileName? = some name) :
    ∃ parent : Path, path.parent? = some parent ∧ parent.isAbsolute = true ∧
      path.names = parent.names ++ [name] := by
  have isName := isName_of_fileName? atEnd
  obtain ⟨before, idle, segments, areIdle⟩ := segments_of_fileName? atEnd
  obtain ⟨parent, isParent, parentAbsolute, parentNames⟩ :=
    parent?_of_segments absolute segments areIdle isName
  refine ⟨parent, isParent, parentAbsolute, ?_⟩
  rw [parentNames, names_of_segments segments areIdle isName]

/-- Of two normalized paths, one is the parent of the other if it lacks only the last name. -/
theorem parent?_eq_some_iff {path directory : Path} (normal : path.IsNormal)
    (directoryNormal : directory.IsNormal) :
    path.parent? = some directory ↔ ∃ name, path.names = directory.names ++ [name] := by
  obtain ⟨names, areNames, rfl⟩ := normal
  obtain ⟨above, areAbove, rfl⟩ := directoryNormal
  rw [names_ofNames areNames, names_ofNames areAbove]
  constructor
  · intro isParent
    rcases List.eq_nil_or_concat names with rfl | ⟨before, name, split⟩
    · cases isParent
    · rw [List.concat_eq_append] at split
      subst split
      rw [parent?_ofNames areNames] at isParent
      have same := ofNames_injective areNames.ofAppend.1 areAbove (Option.some.inj isParent)
      exact ⟨name, congrArg (· ++ [name]) same⟩
  · rintro ⟨name, rfl⟩
    exact parent?_ofNames areNames

/-! ### Names below a path -/

theorem join_ofNames (names : List String) {name : String} (areNames : AreNames (names ++ [name])) :
    (ofNames true names).join name = ofNames true (names ++ [name]) := by
  obtain ⟨above, isName⟩ := areNames.ofAppend
  unfold join
  rw [if_neg isName.relative]
  rcases List.eq_nil_or_concat names with rfl | ⟨before, last, split⟩
  · rfl
  · rw [List.concat_eq_append] at split
    have some : names ≠ [] := by
      rw [split]
      exact List.append_ne_nil_of_right_ne_nil before (List.cons_ne_nil last [])
    have segments : (ofNames true names).segments = ("" :: before) ++ [last] := by
      rw [segments_ofNames above, if_neg some, split]
      rfl
    have lastName : IsName last := above last (by
      rw [split]
      exact List.mem_append_right before List.mem_cons_self)
    have noSlash := not_trailing_slash segments lastName
    have notEmpty : (ofNames true names).text ≠ "" := by
      intro empty
      have letters := toList_ofNames names
      rw [empty] at letters
      cases letters
    rw [if_neg (by simp [notEmpty, noSlash])]
    unfold ofNames joined
    rw [String.intercalate_append_of_ne_nil some (List.cons_ne_nil name []),
      String.intercalate_singleton, String.append_assoc, String.append_assoc, String.append_assoc]

theorem IsNormal.join {path : Path} (normal : path.IsNormal) {name : String}
    (isName : IsName name) : (path.join name).IsNormal := by
  obtain ⟨names, areNames, rfl⟩ := normal
  have longer := areNames.concat isName
  exact ⟨names ++ [name], longer, join_ofNames names longer⟩

theorem absolutize_join {path : Path} (absolute : path.isAbsolute = true)
    (workingDirectory : Path) {name : String} (isName : IsName name) :
    (path.join name).absolutize workingDirectory =
      (path.absolutize workingDirectory).join name := by
  rw [absolutize_of_isAbsolute (isAbsolute_join absolute name), absolutize_of_isAbsolute absolute,
    names_join path isName, join_ofNames _ ((areNames_names path).concat isName)]

/-- Two texts without a slash make a name, unless it is `..` that they make. -/
theorem isName_append {first second : String} (firstSome : first ≠ "") (secondSome : second ≠ "")
    (firstNoSlash : '/' ∉ first.toList) (secondNoSlash : '/' ∉ second.toList)
    (notUp : first ++ second ≠ "..") : IsName (first ++ second) where
  notIdle := by
    have long : 2 ≤ (first ++ second).length := by
      have firstLong := String.length_eq_zero_iff.not.mpr firstSome
      have secondLong := String.length_eq_zero_iff.not.mpr secondSome
      rw [String.length_append]
      omega
    unfold isIdle
    rw [Bool.or_eq_false_iff, beq_eq_false_iff_ne, beq_eq_false_iff_ne]
    constructor
    · intro empty
      rw [empty] at long
      exact absurd long (by decide)
    · intro dot
      rw [dot] at long
      exact absurd long (by decide)
  notUp := notUp
  noSlash := by
    rw [String.toList_append, List.mem_append]
    exact fun inside => inside.elim firstNoSlash secondNoSlash

theorem isName_append_of_long {first second : String} (firstSome : first ≠ "")
    (long : 2 ≤ second.length) (firstNoSlash : '/' ∉ first.toList)
    (secondNoSlash : '/' ∉ second.toList) : IsName (first ++ second) := by
  apply isName_append firstSome _ firstNoSlash secondNoSlash
  · intro up
    have firstLong := String.length_eq_zero_iff.not.mpr firstSome
    have lengths := congrArg String.length up
    rw [String.length_append] at lengths
    have two : "..".length = 2 := rfl
    omega
  · intro empty
    rw [empty] at long
    exact absurd long (by decide)

theorem eq_dot_of_append {first second : String} (firstSome : first ≠ "")
    (up : first ++ ("." ++ second) = "..") : first = "." ∧ second = "" := by
  have firstLong := String.length_eq_zero_iff.not.mpr firstSome
  have lengths := congrArg String.length up
  rw [String.length_append, String.length_append] at lengths
  have one : ".".length = 1 := rfl
  have two : "..".length = 2 := rfl
  have empty : second = "" := String.length_eq_zero_iff.mp (by omega)
  have letters := congrArg String.toList up
  rw [empty, String.toList_append] at letters
  have dot : first.toList = ".".toList := List.append_cancel_right letters
  exact ⟨String.toList_injective dot, empty⟩

end Path

namespace OutputPath

theorem looksLikeDirectory_of_segments {path : Path} {before : List String} {name : String}
    (segments : path.segments = before ++ [name]) (isName : Path.IsName name) :
    looksLikeDirectory path.text = true ↔ '.' ∉ name.toList.tail := by
  have noSlash := Path.not_trailing_slash segments isName
  have atEnd : (Path.mk path.text).fileName? = some name :=
    Path.fileName?_of_segments segments nofun isName
  unfold looksLikeDirectory Path.extension?
  rw [Bool.or_eq_true, atEnd, Option.bind_some, Option.isNone_iff_eq_none,
    Path.splitExtension_eq_none_iff]
  exact ⟨fun looks => looks.resolve_left (by simpa using noSlash), Or.inr⟩

/-- A normalized path looks like a directory when its name has no extension. -/
theorem looksLikeDirectory_of_isNormal {path : Path} (normal : path.IsNormal) :
    looksLikeDirectory path.text = path.extension?.isNone := by
  obtain ⟨names, areNames, rfl⟩ := normal
  rcases List.eq_nil_or_concat names with rfl | ⟨before, name, split⟩
  · rfl
  · rw [List.concat_eq_append] at split
    subst split
    have some : before ++ [name] ≠ [] :=
      List.append_ne_nil_of_right_ne_nil before (List.cons_ne_nil name [])
    have segments : (Path.ofNames true (before ++ [name])).segments = ("" :: before) ++ [name] := by
      rw [Path.segments_ofNames areNames, if_neg some]
      rfl
    have noSlash := Path.not_trailing_slash segments areNames.ofAppend.2
    unfold looksLikeDirectory
    rw [beq_eq_false_iff_ne.mpr noSlash, Bool.false_or]

end OutputPath

namespace RuleName

theorem mem_of_mem_stripSuffix {name : List Char} {c : Char} (member : c ∈ stripSuffix name) :
    c ∈ name := by
  unfold stripSuffix at member
  split at member
  · exact List.mem_of_mem_take member
  · exact member

theorem stem_ne_empty (path : Option Path) (id : String) : stem path id ≠ "" := by
  unfold stem
  dsimp only
  split
  · decide
  · rename_i stripped _
    intro empty
    have letters := congrArg String.toList empty
    rw [String.toList_ofList] at letters
    contradiction

/-- A slash in a rule's name comes from the document's id. -/
theorem slash_not_mem_stem {path : Option Path} {id : String}
    (plain : (path.bind Path.fileName?).isSome = true ∨ '/' ∉ id.toList) :
    '/' ∉ (stem path id).toList := by
  have baseClean : '/' ∉ ((path.bind Path.fileName?).getD id).toList := by
    cases atEnd : path.bind Path.fileName? with
    | none =>
        rw [atEnd] at plain
        exact plain.resolve_left Bool.false_ne_true
    | some name =>
        obtain ⟨_, _, isLast⟩ := Option.bind_eq_some_iff.mp atEnd
        exact (Path.isName_of_fileName? isLast).noSlash
  unfold stem
  dsimp only
  split
  · decide
  · rename_i stripped _
    rw [String.toList_ofList]
    exact fun inside => baseClean (mem_of_mem_stripSuffix inside)

end RuleName

end RuleCompiler

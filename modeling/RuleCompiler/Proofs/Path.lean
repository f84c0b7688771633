import RuleCompiler.Path.Basic
import RuleCompiler.Proofs.Text.Piece

/-!
Normalized absolute paths. Such a path is its names: it is written as the names with slashes before
them, reading it gives the names back, and making any path absolute gives one of this form.
-/

namespace RuleCompiler.Path

/-- A segment that leads from a directory to something in it. -/
structure IsName (segment : String) : Prop where
  notIdle : isIdle segment = false
  notUp : segment ≠ ".."
  noSlash : '/' ∉ segment.toList

def AreNames (names : List String) : Prop :=
  ∀ name ∈ names, IsName name

theorem AreNames.tail {name : String} {names : List String} (areNames : AreNames (name :: names)) :
    AreNames names :=
  fun other member => areNames other (List.mem_cons_of_mem name member)

theorem isIdle_empty : isIdle "" = true := by decide

theorem IsName.ne_empty {name : String} (isName : IsName name) : name ≠ "" := by
  intro empty
  have notIdle := isName.notIdle
  rw [empty, isIdle_empty] at notIdle
  cases notIdle

/-! ### Segments -/

theorem noSlash_of_mem_segments {path : Path} {segment : String}
    (member : segment ∈ path.segments) : '/' ∉ segment.toList := by
  unfold segments Text.pieces at member
  obtain ⟨piece, inside, rfl⟩ := List.mem_map.mp member
  rw [String.toList_ofList]
  exact Text.separator_not_mem_splitOn inside

theorem toList_joined (names : List String) :
    (joined names).toList = ['/'].intercalate (names.map String.toList) := by
  unfold joined
  rw [String.toList_intercalate]
  rfl

theorem pieces_joined {segments : List String} (some : segments ≠ [])
    (noSlash : ∀ segment ∈ segments, '/' ∉ segment.toList) :
    Text.pieces '/' (joined segments) = segments := by
  have clean : ∀ piece ∈ segments.map String.toList, '/' ∉ piece := by
    intro piece member
    obtain ⟨segment, inside, rfl⟩ := List.mem_map.mp member
    exact noSlash segment inside
  have notEmpty : segments.map String.toList ≠ [] :=
    fun empty => some (List.map_eq_nil_iff.mp empty)
  unfold Text.pieces
  rw [toList_joined, Text.splitOn_intercalate notEmpty clean, List.map_map]
  have ident : String.ofList ∘ String.toList = id := funext fun name => String.ofList_toList
  rw [ident, List.map_id]

theorem toList_ofNames (names : List String) :
    (ofNames true names).text.toList = '/' :: (joined names).toList := by
  unfold ofNames
  rw [if_pos rfl, String.toList_append]
  rfl

theorem not_mem_toList_ofNames {c : Char} (notSlash : c ≠ '/') {names : List String}
    (clean : ∀ name ∈ names, c ∉ name.toList) : c ∉ (ofNames true names).text.toList := by
  have joinedClean : c ∉ (joined names).toList := by
    rw [toList_joined]
    induction names with
    | nil => exact List.not_mem_nil
    | cons name rest ih =>
        have notHere := clean name List.mem_cons_self
        have notLater := ih fun other member => clean other (List.mem_cons_of_mem name member)
        cases rest with
        | nil =>
            rw [List.map_cons, List.map_nil, List.intercalate_singleton]
            exact notHere
        | cons next more =>
            rw [List.map_cons] at notLater ⊢
            rw [List.map_cons, List.intercalate_cons_cons, List.mem_append, List.mem_append,
              List.mem_singleton]
            rintro ((here | slash) | later)
            · exact notHere here
            · exact notSlash slash
            · exact notLater later
  rw [toList_ofNames, List.mem_cons]
  rintro (slash | inJoined)
  · exact notSlash slash
  · exact joinedClean inJoined

theorem isAbsolute_ofNames (names : List String) : (ofNames true names).isAbsolute = true := by
  unfold isAbsolute
  rw [toList_ofNames]
  rfl

theorem segments_ofNames {names : List String} (areNames : AreNames names) :
    (ofNames true names).segments = "" :: if names = [] then [""] else names := by
  unfold segments Text.pieces
  rw [toList_ofNames, Text.splitOn, if_pos rfl, List.map_cons]
  by_cases empty : names = []
  · rw [if_pos empty, empty]
    rfl
  · rw [if_neg empty]
    exact congrArg ("" :: ·) (pieces_joined empty fun name member => (areNames name member).noSlash)

/-! ### Names -/

theorem walk_of_isIdle (stack : List String) {segment : String} (idle : isIdle segment = true) :
    walk stack segment = stack := by
  unfold walk
  rw [if_pos idle]

theorem walk_of_isName (stack : List String) {segment : String} (isName : IsName segment) :
    walk stack segment = segment :: stack := by
  unfold walk
  rw [isName.notIdle, if_neg Bool.false_ne_true, if_neg isName.notUp]

theorem areNames_walk {stack : List String} (areNames : AreNames stack) {segment : String}
    (noSlash : '/' ∉ segment.toList) : AreNames (walk stack segment) := by
  unfold walk
  by_cases idle : isIdle segment = true
  · rw [if_pos idle]
    exact areNames
  · rw [if_neg idle]
    by_cases up : segment = ".."
    · rw [if_pos up]
      exact fun name member => areNames name (List.mem_of_mem_tail member)
    · rw [if_neg up]
      intro name member
      rcases List.mem_cons.mp member with atHead | inStack
      · rw [atHead]
        exact ⟨Bool.eq_false_iff.mpr idle, up, noSlash⟩
      · exact areNames name inStack

theorem areNames_foldl_walk {segments stack : List String} (areNames : AreNames stack)
    (noSlash : ∀ segment ∈ segments, '/' ∉ segment.toList) :
    AreNames (segments.foldl walk stack) := by
  induction segments generalizing stack with
  | nil => exact areNames
  | cons segment rest ih =>
      have headClean := noSlash segment List.mem_cons_self
      exact ih (areNames_walk areNames headClean) fun other member =>
        noSlash other (List.mem_cons_of_mem segment member)

theorem areNames_names (path : Path) : AreNames path.names := by
  have start : AreNames [] := fun _ member => absurd member List.not_mem_nil
  have walked : AreNames (path.segments.foldl walk []) :=
    areNames_foldl_walk start fun segment member => noSlash_of_mem_segments member
  exact fun name member => walked name (List.mem_reverse.mp member)

theorem foldl_walk_of_areNames {names : List String} (areNames : AreNames names)
    (stack : List String) : names.foldl walk stack = names.reverse ++ stack := by
  induction names generalizing stack with
  | nil => rfl
  | cons name rest ih =>
      rw [List.foldl_cons, walk_of_isName stack (areNames name List.mem_cons_self),
        ih areNames.tail, List.reverse_cons, List.append_assoc]
      rfl

theorem names_ofNames {names : List String} (areNames : AreNames names) :
    (ofNames true names).names = names := by
  unfold Path.names
  rw [segments_ofNames areNames, List.foldl_cons, walk_of_isIdle [] isIdle_empty]
  by_cases empty : names = []
  · rw [if_pos empty, List.foldl_cons, walk_of_isIdle [] isIdle_empty, empty]
    rfl
  · rw [if_neg empty, foldl_walk_of_areNames areNames, List.append_nil, List.reverse_reverse]

theorem ofNames_injective {first second : List String} (firstNames : AreNames first)
    (secondNames : AreNames second) (same : ofNames true first = ofNames true second) :
    first = second := by
  have names := congrArg Path.names same
  rw [names_ofNames firstNames, names_ofNames secondNames] at names
  exact names

/-! ### Absolute paths -/

theorem isAbsolute_join {path : Path} (absolute : path.isAbsolute = true) (tail : String) :
    (path.join tail).isAbsolute = true := by
  have atSlash : path.text.toList.head? = some '/' := eq_of_beq absolute
  have extended : ∀ more : String, (Path.mk (path.text ++ more)).isAbsolute = true := by
    intro more
    unfold isAbsolute
    rw [String.toList_append, List.head?_append, atSlash]
    rfl
  unfold join
  split
  · rename_i tailAtSlash
    exact beq_iff_eq.mpr tailAtSlash
  · split
    · exact extended tail
    · rw [String.append_assoc]
      exact extended ("/" ++ tail)

def IsNormal (path : Path) : Prop :=
  ∃ names, AreNames names ∧ path = ofNames true names

/-- Seen from an absolute path, every path is made of names. -/
theorem isNormal_absolutize (path : Path) {workingDirectory : Path}
    (absolute : workingDirectory.isAbsolute = true) :
    (path.absolutize workingDirectory).IsNormal := by
  refine ⟨(workingDirectory.join path.text).names, areNames_names _, ?_⟩
  unfold absolutize normalize
  rw [isAbsolute_join absolute]

theorem IsNormal.isAbsolute {path : Path} (normal : path.IsNormal) : path.isAbsolute = true := by
  obtain ⟨names, _, rfl⟩ := normal
  exact isAbsolute_ofNames names

theorem ne_dots {segment : String} (emptyOrName : segment = "" ∨ IsName segment) :
    segment ≠ "." ∧ segment ≠ ".." := by
  rcases emptyOrName with rfl | isName
  · decide
  · refine ⟨?_, isName.notUp⟩
    rintro rfl
    cases isName.notIdle

theorem IsNormal.segments {path : Path} (normal : path.IsNormal) :
    ∀ segment ∈ path.segments, segment ≠ "." ∧ segment ≠ ".." := by
  obtain ⟨names, areNames, rfl⟩ := normal
  intro segment member
  rw [segments_ofNames areNames] at member
  have emptyOrName : segment = "" ∨ segment ∈ names := by
    rcases List.mem_cons.mp member with atStart | later
    · exact Or.inl atStart
    · split at later
      · exact Or.inl (List.mem_singleton.mp later)
      · exact Or.inr later
  exact ne_dots (emptyOrName.imp_right (areNames segment))

/-- An absolute path is made absolute by its names alone. -/
theorem absolutize_of_isAbsolute {path : Path} (absolute : path.isAbsolute = true)
    (workingDirectory : Path) : path.absolutize workingDirectory = ofNames true path.names := by
  have atSlash : path.text.toList.head? = some '/' := eq_of_beq absolute
  unfold absolutize normalize join
  rw [if_pos atSlash]
  exact congrArg (fun lead => ofNames lead path.names) absolute

theorem absolutize_eq_normalize {path : Path} (absolute : path.isAbsolute = true)
    (workingDirectory : Path) : path.absolutize workingDirectory = path.normalize := by
  rw [absolutize_of_isAbsolute absolute, normalize, absolute]

theorem IsNormal.normalize_eq {path : Path} (normal : path.IsNormal) : path.normalize = path := by
  obtain ⟨names, areNames, rfl⟩ := normal
  rw [normalize, isAbsolute_ofNames, names_ofNames areNames]

theorem names_absolutize_of_isAbsolute {path : Path} (absolute : path.isAbsolute = true)
    (workingDirectory : Path) : (path.absolutize workingDirectory).names = path.names := by
  rw [absolutize_of_isAbsolute absolute, names_ofNames (areNames_names path)]

/-! ### Parents -/

theorem dropIdle_concat (segments : List String) {name : String} (isName : IsName name) :
    dropIdle (segments ++ [name]) = segments ++ [name] := by
  have notIdle : ¬ isIdle name = true := by
    rw [isName.notIdle]
    exact Bool.false_ne_true
  unfold dropIdle
  rw [List.reverse_append, List.reverse_singleton, List.singleton_append,
    List.dropWhile_cons_of_neg notIdle, List.reverse_cons, List.reverse_reverse]

theorem dropIdle_of_areNames {names : List String} (areNames : AreNames names) :
    dropIdle names = names := by
  rcases List.eq_nil_or_concat names with rfl | ⟨before, last, split⟩
  · rfl
  · rw [List.concat_eq_append] at split
    subst split
    exact dropIdle_concat before (areNames last (List.mem_append_right before List.mem_cons_self))

theorem AreNames.ofAppend {names : List String} {name : String}
    (areNames : AreNames (names ++ [name])) : AreNames names ∧ IsName name := by
  constructor
  · exact fun other member => areNames other (List.mem_append_left [name] member)
  · exact areNames name (List.mem_append_right names List.mem_cons_self)

theorem AreNames.concat {names : List String} (areNames : AreNames names) {name : String}
    (isName : IsName name) : AreNames (names ++ [name]) := by
  intro other member
  rcases List.mem_append.mp member with before | last
  · exact areNames other before
  · rw [List.mem_singleton.mp last]
    exact isName

theorem parent?_ofNames {names : List String} {name : String}
    (areNames : AreNames (names ++ [name])) :
    (ofNames true (names ++ [name])).parent? = some (ofNames true names) := by
  obtain ⟨above, _⟩ := areNames.ofAppend
  have some : names ++ [name] ≠ [] :=
    List.append_ne_nil_of_right_ne_nil names (List.cons_ne_nil name [])
  have segments : (ofNames true (names ++ [name])).segments = "" :: (names ++ [name]) := by
    rw [segments_ofNames areNames, if_neg some]
  unfold parent?
  rw [isAbsolute_ofNames, segments]
  dsimp only
  rw [List.drop_succ_cons, List.drop_zero, dropIdle_of_areNames areNames]
  cases names with
  | nil => rfl
  | cons first rest =>
      simp only [List.cons_append]
      rw [← List.cons_append, List.dropLast_concat, List.nil_append, dropIdle_of_areNames above]
      rfl

theorem IsNormal.parent?_getD {path : Path} (normal : path.IsNormal) :
    (path.parent?.getD path).IsNormal := by
  obtain ⟨names, areNames, rfl⟩ := normal
  rcases List.eq_nil_or_concat names with empty | ⟨above, name, split⟩
  · subst empty
    exact ⟨[], areNames, rfl⟩
  · rw [List.concat_eq_append] at split
    subst split
    rw [parent?_ofNames areNames, Option.getD_some]
    exact ⟨above, areNames.ofAppend.1, rfl⟩

theorem IsNormal.parent?_isNormal {path : Path} (normal : path.IsNormal)
    (notRoot : path.names ≠ []) :
    ∃ parent : Path, path.parent? = some parent ∧ parent.IsNormal := by
  obtain ⟨names, areNames, rfl⟩ := normal
  rw [names_ofNames areNames] at notRoot
  obtain ⟨above, name, split⟩ := (List.eq_nil_or_concat names).resolve_left notRoot
  rw [List.concat_eq_append] at split
  subst split
  exact ⟨ofNames true above, parent?_ofNames areNames, above, areNames.ofAppend.1, rfl⟩

theorem text_ofNames_append (names : List String) (name : String) :
    ∃ more, (ofNames true (names ++ [name])).text = (ofNames true names).text ++ more := by
  unfold ofNames joined
  by_cases empty : names = []
  · refine ⟨name, ?_⟩
    rw [empty, List.nil_append, String.intercalate_singleton, String.intercalate_nil,
      String.append_empty]
  · refine ⟨"/" ++ name, ?_⟩
    rw [String.intercalate_append_of_ne_nil empty (List.cons_ne_nil name []),
      String.intercalate_singleton, String.append_assoc, String.append_assoc]

/-! ### Joins -/

theorem pieces_append_slash (text tail : String) :
    Text.pieces '/' (text ++ "/" ++ tail) = Text.pieces '/' text ++ Text.pieces '/' tail := by
  have toList : (text ++ "/" ++ tail).toList = text.toList ++ '/' :: tail.toList := by
    rw [String.toList_append, String.toList_append, List.append_assoc]
    rfl
  unfold Text.pieces
  rw [toList, Text.splitOn_append_separator, List.map_append]

/-- What lies behind a slash at the end is empty. -/
theorem pieces_of_trailing_slash {text : String} (atSlash : text.toList.getLast? = some '/') :
    ∃ before, text = before ++ "/" ∧ Text.pieces '/' text = Text.pieces '/' before ++ [""] := by
  obtain ⟨before, split⟩ := List.getLast?_eq_some_iff.mp atSlash
  have textEq : text = String.ofList before ++ "/" := by
    apply String.toList_injective
    rw [split, String.toList_append, String.toList_ofList]
    rfl
  have piecesEmpty : Text.pieces '/' "" = [""] := rfl
  refine ⟨String.ofList before, textEq, ?_⟩
  rw [textEq, ← piecesEmpty, ← pieces_append_slash, String.append_empty]

/-- The segments of a relative path come behind segments that lead where the path leads that it is
joined to. -/
theorem segments_join (path : Path) {tail : String} (relative : tail.toList.head? ≠ some '/') :
    ∃ before, (path.join tail).segments = before ++ Text.pieces '/' tail ∧
      ∀ stack, before.foldl walk stack = path.segments.foldl walk stack := by
  have idle : ∀ stack, walk stack "" = stack := fun stack => walk_of_isIdle stack isIdle_empty
  unfold join segments
  rw [if_neg relative]
  by_cases empty : path.text = ""
  · have piecesEmpty : Text.pieces '/' "" = [""] := rfl
    refine ⟨[], ?_, fun stack => ?_⟩
    · rw [if_pos (by rw [empty]; rfl), empty, String.empty_append]
      rfl
    · rw [empty, piecesEmpty, List.foldl_cons, idle]
  · by_cases atSlash : path.text.toList.getLast? = some '/'
    · obtain ⟨before, text, trailing⟩ := pieces_of_trailing_slash atSlash
      refine ⟨Text.pieces '/' before, ?_, fun stack => ?_⟩
      · rw [if_pos (by rw [atSlash, decide_eq_true rfl, Bool.or_true]), text, pieces_append_slash]
      · rw [trailing, List.foldl_append, List.foldl_cons, idle, List.foldl_nil]
    · refine ⟨Text.pieces '/' path.text, ?_, fun stack => rfl⟩
      rw [if_neg (by simp [empty, atSlash]), pieces_append_slash]

/-- A relative path is walked from where the path that it is joined to leads. -/
theorem foldl_walk_join (path : Path) {tail : String} (relative : tail.toList.head? ≠ some '/')
    (stack : List String) :
    (path.join tail).segments.foldl walk stack =
      (Text.pieces '/' tail).foldl walk (path.segments.foldl walk stack) := by
  obtain ⟨before, segments, walked⟩ := segments_join path relative
  rw [segments, List.foldl_append, walked]

theorem IsName.relative {name : String} (isName : IsName name) :
    name.toList.head? ≠ some '/' :=
  fun atSlash => isName.noSlash (List.mem_of_mem_head? atSlash)

theorem IsName.pieces {name : String} (isName : IsName name) : Text.pieces '/' name = [name] := by
  unfold Text.pieces
  rw [Text.splitOn_of_not_mem isName.noSlash, List.map_singleton, String.ofList_toList]

theorem foldl_walk_join_name (path : Path) {name : String} (isName : IsName name)
    (stack : List String) :
    (path.join name).segments.foldl walk stack = name :: path.segments.foldl walk stack := by
  rw [foldl_walk_join path isName.relative, isName.pieces, List.foldl_cons, List.foldl_nil,
    walk_of_isName _ isName]

theorem names_join (path : Path) {name : String} (isName : IsName name) :
    (path.join name).names = path.names ++ [name] := by
  unfold names
  rw [foldl_walk_join_name path isName, List.reverse_cons]

theorem names_absolutize (path : Path) {workingDirectory : Path}
    (absolute : workingDirectory.isAbsolute = true) :
    (path.absolutize workingDirectory).names = (workingDirectory.join path.text).names := by
  unfold absolutize normalize
  rw [isAbsolute_join absolute, names_ofNames (areNames_names _)]

/-- A name below a path is the last name once the path is made absolute. -/
theorem names_absolutize_join (path : Path) {workingDirectory : Path}
    (absolute : workingDirectory.isAbsolute = true) {name : String} (isName : IsName name) :
    ((path.join name).absolutize workingDirectory).names =
      (path.absolutize workingDirectory).names ++ [name] := by
  rw [names_absolutize _ absolute, names_absolutize _ absolute]
  unfold names
  rw [← List.reverse_cons]
  congr 1
  by_cases atSlash : path.text.toList.head? = some '/'
  · have pathAbsolute : path.isAbsolute = true := beq_iff_eq.mpr atSlash
    have joinedAtSlash : (path.join name).text.toList.head? = some '/' :=
      eq_of_beq (isAbsolute_join pathAbsolute name)
    have alone : workingDirectory.join path.text = path := if_pos atSlash
    have joinedAlone : workingDirectory.join (path.join name).text = path.join name :=
      if_pos joinedAtSlash
    rw [alone, joinedAlone, foldl_walk_join_name path isName]
  · have relative : (path.join name).text.toList.head? ≠ some '/' := by
      unfold join
      rw [if_neg isName.relative]
      cases chars : path.text.toList with
      | nil =>
          have empty : path.text = "" := String.toList_injective chars
          rw [if_pos (by rw [empty]; rfl), empty, String.empty_append]
          exact isName.relative
      | cons first rest =>
          rw [chars] at atSlash
          split <;> simpa [chars] using atSlash
    rw [foldl_walk_join _ relative, foldl_walk_join _ atSlash]
    exact foldl_walk_join_name path isName _

theorem absolutize_join_ne (path : Path) {workingDirectory : Path}
    (absolute : workingDirectory.isAbsolute = true) {name : String} (isName : IsName name) :
    (path.join name).absolutize workingDirectory ≠ path.absolutize workingDirectory := by
  intro same
  have names := congrArg List.length (congrArg Path.names same)
  rw [names_absolutize_join path absolute isName, List.length_append, List.length_singleton]
    at names
  omega

/-! ### Spellings -/

/-- Absolute paths with the same names, however these are reached. -/
structure LeadsAlike (first second : Path) : Prop where
  firstAbsolute : first.isAbsolute = true
  secondAbsolute : second.isAbsolute = true
  names : first.names = second.names

theorem leadsAlike_absolutize {path : Path} (absolute : path.isAbsolute = true)
    (workingDirectory : Path) : LeadsAlike (path.absolutize workingDirectory) path where
  firstAbsolute := by
    rw [absolutize_of_isAbsolute absolute]
    exact isAbsolute_ofNames path.names
  secondAbsolute := absolute
  names := names_absolutize_of_isAbsolute absolute workingDirectory

theorem LeadsAlike.join {first second : Path} (alike : LeadsAlike first second) (tail : String) :
    LeadsAlike (first.join tail) (second.join tail) where
  firstAbsolute := isAbsolute_join alike.firstAbsolute tail
  secondAbsolute := isAbsolute_join alike.secondAbsolute tail
  names := by
    by_cases alone : tail.toList.head? = some '/'
    · unfold Path.join
      rw [if_pos alone, if_pos alone]
    · have walked : first.segments.foldl walk [] = second.segments.foldl walk [] :=
        List.reverse_inj.mp alike.names
      unfold Path.names
      rw [foldl_walk_join first alone, foldl_walk_join second alone, walked]

theorem LeadsAlike.absolutize_eq {first second : Path} (alike : LeadsAlike first second)
    (workingDirectory : Path) :
    first.absolutize workingDirectory = second.absolutize workingDirectory := by
  rw [absolutize_of_isAbsolute alike.firstAbsolute, absolutize_of_isAbsolute alike.secondAbsolute,
    alike.names]

end RuleCompiler.Path

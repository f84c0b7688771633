import RuleCompiler.Proofs.Path.FileName
import RuleCompiler.Proofs.Text.Ending

/-!
The stem of a rule's name. A name is its stem and its suffix, which is the longest of the endings of
rule files that it has with something before it. The endings are looked for in small letters, and
found by their bytes; lowering ASCII letters moves no byte, so that the name is cut where its
lowered form was matched.
-/

namespace RuleCompiler.RuleName

open Text (bytes)

/-! ### Lowered names -/

theorem utf8Size_toLower (c : Char) : c.toLower.utf8Size = c.utf8Size := by
  unfold Char.toLower
  split
  · next capital =>
      obtain ⟨atLeast, atMost⟩ := capital
      rw [ge_iff_le, UInt32.le_iff_toNat_le] at atLeast
      rw [UInt32.le_iff_toNat_le] at atMost
      have firstCapital : ('A'.val).toNat = 65 := rfl
      have lastCapital : ('Z'.val).toNat = 90 := rfl
      have distance : ('a'.val - 'A'.val).toNat = 32 := rfl
      have lastOfOneByte : (127 : UInt32).toNat = 127 := rfl
      have oneByte : c.utf8Size = 1 := by
        rw [Char.utf8Size_eq_one_iff, UInt32.le_iff_toNat_le]
        omega
      rw [oneByte, Char.utf8Size_eq_one_iff, UInt32.le_iff_toNat_le, UInt32.toNat_add]
      omega
  · rfl

theorem length_bytes_lowered (name : List Char) :
    ((lowered name).flatMap String.utf8EncodeChar).length =
      (name.flatMap String.utf8EncodeChar).length := by
  unfold lowered
  induction name with
  | nil => rfl
  | cons c rest ih =>
      rw [List.map_cons, List.flatMap_cons, List.flatMap_cons, List.length_append,
        List.length_append, String.length_utf8EncodeChar, String.length_utf8EncodeChar,
        utf8Size_toLower, ih]

/-- What is found at the end of a lowered name is the lowered form of an ending of the name. -/
theorem exists_ending_of_lowered {name : String} {suffix : String}
    (found : suffix.toList <:+ lowered name.toList) :
    ∃ ending : String, ending.toList <:+ name.toList ∧ lowered ending.toList = suffix.toList := by
  obtain ⟨ending, isEnding, isLowered⟩ := List.suffix_map_iff.mp found
  refine ⟨String.ofList ending, ?_, ?_⟩
  · rw [String.toList_ofList]
    exact isEnding
  · rw [String.toList_ofList]
    exact isLowered.symm

theorem utf8ByteSize_of_lowered {ending suffix : String}
    (isLowered : lowered ending.toList = suffix.toList) :
    ending.utf8ByteSize = suffix.utf8ByteSize := by
  have sizes := length_bytes_lowered ending.toList
  rw [isLowered, ← Text.bytes_eq_flatMap, ← Text.bytes_eq_flatMap, Text.length_bytes,
    Text.length_bytes] at sizes
  exact sizes.symm

theorem length_of_lowered {ending suffix : String}
    (isLowered : lowered ending.toList = suffix.toList) : ending.length = suffix.length := by
  have lengths := congrArg List.length isLowered
  unfold lowered at lengths
  rw [List.length_map, String.length_toList, String.length_toList] at lengths
  exact lengths

/-- A suffix whose bytes end the lowered name is cut off between two characters of the name. -/
theorem isValid_of_bytes_lowered {name suffix : String}
    (found : bytes suffix <:+ bytes (String.ofList (lowered name.toList))) :
    String.Pos.Raw.IsValid name ⟨name.utf8ByteSize - suffix.utf8ByteSize⟩ := by
  rw [Text.bytes_suffix_iff, String.toList_ofList] at found
  obtain ⟨ending, isEnding, isLowered⟩ := exists_ending_of_lowered found
  rw [← utf8ByteSize_of_lowered isLowered]
  exact Text.isValid_of_suffix isEnding

/-! ### Suffixes -/

/-- An ending of a name, with something before it, that is listed but for the case of its letters. -/
structure IsRuleEnding (name ending : String) : Prop where
  inside : ∃ before, before ≠ "" ∧ name = before ++ ending
  listed : String.ofList (lowered ending.toList) ∈ suffixes

/-- The suffix of a name: the longest of its rule endings, or nothing where it has none. -/
inductive IsSuffix (name : String) : String → Prop
  | longest {ending : String} (isEnding : IsRuleEnding name ending)
      (isLongest : ∀ other, IsRuleEnding name other → other.length ≤ ending.length) :
      IsSuffix name ending
  | none (noEnding : ∀ other, ¬ IsRuleEnding name other) : IsSuffix name ""

theorem hasSuffix_iff {name : List Char} {suffix : String} :
    hasSuffix name suffix = true ↔
      suffix.toList <:+ lowered name ∧ suffix.length < name.length := by
  unfold hasSuffix
  rw [Bool.and_eq_true, Text.endsWith_iff, decide_eq_true_eq]

theorem IsRuleEnding.hasSuffix {name ending : String} (isEnding : IsRuleEnding name ending) :
    hasSuffix name.toList (String.ofList (lowered ending.toList)) = true := by
  obtain ⟨before, notEmpty, split⟩ := isEnding.inside
  rw [hasSuffix_iff, String.toList_ofList]
  have letters : name.toList = before.toList ++ ending.toList := by
    rw [split, String.toList_append]
  have beforeLong := List.length_pos_iff.mpr (String.toList_eq_nil_iff.not.mpr notEmpty)
  constructor
  · unfold lowered
    rw [letters, List.map_append]
    exact List.suffix_append _ _
  · rw [letters, List.length_append, String.length_ofList]
    unfold lowered
    rw [List.length_map]
    omega

/-- The part of a name that matches a listed suffix is a rule ending, and what is before it is left
by cutting off as many characters. -/
theorem isRuleEnding_of_hasSuffix {name suffix : String} (listed : suffix ∈ suffixes)
    (has : hasSuffix name.toList suffix = true) :
    ∃ ending : String, IsRuleEnding name ending ∧ ending.length = suffix.length ∧
      name = String.ofList (name.toList.take (name.toList.length - suffix.length)) ++ ending := by
  obtain ⟨found, shorter⟩ := hasSuffix_iff.mp has
  obtain ⟨ending, isEnding, isLowered⟩ := exists_ending_of_lowered found
  have sameLength := length_of_lowered isLowered
  obtain ⟨before, split⟩ := Text.eq_append_of_suffix isEnding
  have letters : name.toList = before.toList ++ ending.toList := by
    rw [split, String.toList_append]
  have lengths : name.toList.length = before.toList.length + suffix.length := by
    rw [letters, List.length_append, String.length_toList (s := ending), sameLength]
  have kept : name.toList.take (name.toList.length - suffix.length) = before.toList := by
    rw [lengths, Nat.add_sub_cancel_right, letters]
    exact List.take_left
  refine ⟨ending, ⟨⟨before, ?_, split⟩, ?_⟩, sameLength, ?_⟩
  · rintro rfl
    rw [String.toList_empty, List.length_nil] at lengths
    omega
  · rw [isLowered, String.ofList_toList]
    exact listed
  · rw [kept, String.ofList_toList]
    exact split

/-- No suffix of the list is an ending of a later one. -/
theorem suffixes_pairwise :
    suffixes.Pairwise fun earlier later => ¬ earlier.toList <:+ later.toList := by
  decide

/-- The first suffix that is found is the longest. -/
theorem longest_of_find? {name : List Char} {suffix : String}
    (first : suffixes.find? (hasSuffix name) = some suffix) {other : String}
    (listed : other ∈ suffixes) (has : hasSuffix name other = true) :
    other.length ≤ suffix.length := by
  obtain ⟨hasFirst, before, after, split, notBefore⟩ := List.find?_eq_some_iff_append.mp first
  rw [split] at listed
  rcases List.mem_append.mp listed with isBefore | later
  · have missing := notBefore other isBefore
    rw [has] at missing
    cases missing
  · rcases List.mem_cons.mp later with same | isAfter
    · rw [same]
    · have apart := suffixes_pairwise
      rw [split] at apart
      have notEnding := (List.pairwise_cons.mp (List.pairwise_append.mp apart).2.1).1 other isAfter
      have ending := (List.suffix_or_suffix_of_suffix (hasSuffix_iff.mp hasFirst).1
        (hasSuffix_iff.mp has).1).resolve_left notEnding
      have shorter := ending.length_le
      rwa [String.length_toList, String.length_toList] at shorter

theorem IsSuffix.unique {name first second : String} (isFirst : IsSuffix name first)
    (isSecond : IsSuffix name second) : first = second := by
  cases isFirst with
  | none noEnding =>
      cases isSecond with
      | none _ => rfl
      | longest isEnding _ => exact absurd isEnding (noEnding second)
  | longest firstEnding firstLongest =>
      cases isSecond with
      | none noEnding => exact absurd firstEnding (noEnding first)
      | longest secondEnding secondLongest =>
          have sameLength : first.length = second.length :=
            Nat.le_antisymm (secondLongest first firstEnding) (firstLongest second secondEnding)
          obtain ⟨before, _, firstSplit⟩ := firstEnding.inside
          obtain ⟨lead, _, secondSplit⟩ := secondEnding.inside
          have letters := congrArg String.toList (firstSplit.symm.trans secondSplit)
          rw [String.toList_append, String.toList_append] at letters
          exact String.toList_injective (List.append_inj_right' letters (by
            rw [String.length_toList, String.length_toList, sameLength]))

/-- A name is what is left of it and its suffix. -/
theorem stripSuffix_isSuffix (name : String) :
    ∃ ending, IsSuffix name ending ∧
      name = String.ofList (stripSuffix name.toList) ++ ending := by
  unfold stripSuffix
  cases first : suffixes.find? (hasSuffix name.toList) with
  | none =>
      refine ⟨"", .none ?_, ?_⟩
      · intro other isEnding
        exact List.find?_eq_none.mp first _ isEnding.listed isEnding.hasSuffix
      · rw [String.ofList_toList, String.append_empty]
  | some suffix =>
      have listed := List.mem_of_find?_eq_some first
      have has := List.find?_some first
      obtain ⟨ending, isEnding, sameLength, split⟩ := isRuleEnding_of_hasSuffix listed has
      refine ⟨ending, .longest isEnding ?_, split⟩
      intro other isOther
      have noLonger := longest_of_find? first isOther.listed isOther.hasSuffix
      rw [String.length_ofList] at noLonger
      unfold lowered at noLonger
      rw [List.length_map, String.length_toList] at noLonger
      rwa [sameLength]

theorem IsSuffix.before_ne_empty {name before ending : String} (isSuffix : IsSuffix name ending)
    (split : name = before ++ ending) (notEmpty : name ≠ "") : before ≠ "" := by
  rintro rfl
  rw [String.empty_append] at split
  cases isSuffix with
  | none _ => exact notEmpty split
  | longest isEnding _ =>
      obtain ⟨lead, leadSome, leadSplit⟩ := isEnding.inside
      have lengths := congrArg String.length (leadSplit.symm.trans split)
      have leadLong := String.length_eq_zero_iff.not.mpr leadSome
      rw [String.length_append] at lengths
      omega

/-! ### Stems -/

/-- The name that a rule is called by: the file name of its document, or else the id. -/
def base (path : Option Path) (id : String) : String :=
  (path.bind Path.fileName?).getD id

theorem stem_of_empty {path : Option Path} {id : String} (empty : base path id = "") :
    stem path id = "rules" := by
  unfold stem
  unfold base at empty
  rw [empty]
  rfl

theorem stem_eq_stripped {path : Option Path} {id : String} (notEmpty : base path id ≠ "") :
    stem path id = String.ofList (stripSuffix (base path id).toList) := by
  obtain ⟨ending, isSuffix, split⟩ := stripSuffix_isSuffix (base path id)
  have some := isSuffix.before_ne_empty split notEmpty
  unfold stem
  unfold base at some ⊢
  dsimp only
  split
  · next none =>
      rw [none] at some
      exact absurd rfl some
  · rfl

/-- A rule's stem is never empty, and with the suffix of the name it makes up the name, unless that
is empty and the stem is `rules`. Wherever a suffix matches, it is cut off between characters. -/
theorem stem_append_suffix (path : Option Path) (id : String) :
    let base := base path id
    ∃ suffix, IsSuffix base suffix ∧ (∀ other, IsSuffix base other → other = suffix) ∧
      stem path id ≠ "" ∧
      (stem path id = "rules" ↔ base = "" ∨ base = "rules" ++ suffix) ∧
      (base ≠ "" → base = stem path id ++ suffix) ∧
      (∀ listed ∈ suffixes, bytes listed <:+ bytes (String.ofList (lowered base.toList)) →
        String.Pos.Raw.IsValid base ⟨base.utf8ByteSize - listed.utf8ByteSize⟩) := by
  intro base
  obtain ⟨suffix, isSuffix, split⟩ := stripSuffix_isSuffix base
  have whole : base ≠ "" → base = stem path id ++ suffix := by
    intro notEmpty
    rw [stem_eq_stripped notEmpty]
    exact split
  refine ⟨suffix, isSuffix, fun other isOther => isOther.unique isSuffix, stem_ne_empty path id,
    ?rules, whole, fun listed _ found => isValid_of_bytes_lowered found⟩
  case rules =>
    by_cases empty : base = ""
    · exact iff_of_true (stem_of_empty empty) (Or.inl empty)
    · rw [or_iff_right empty]
      constructor
      · intro isRules
        rw [← isRules]
        exact whole empty
      · intro isRules
        have letters := congrArg String.toList ((whole empty).symm.trans isRules)
        rw [String.toList_append, String.toList_append] at letters
        exact String.toList_injective (List.append_cancel_right letters)

/-- A suffix in mixed case behind letters of two bytes, and a shorter one that matches as well. -/
theorem stem_of_mixed_case :
    let path : Option Path := some ⟨"/rules/Größe.Rules.MD"⟩
    base path "id" ≠ "" ∧ stem path "id" = "Größe" ∧
    (∃ suffix, IsSuffix (base path "id") suffix ∧ base path "id" = "Größe" ++ suffix) ∧
    (bytes ".rules.md" <:+ bytes (String.ofList (lowered (base path "id").toList)) ∧
      String.Pos.Raw.IsValid (base path "id") ⟨16 - 9⟩) ∧
    (bytes ".md" <:+ bytes (String.ofList (lowered (base path "id").toList)) ∧
      String.Pos.Raw.IsValid (base path "id") ⟨16 - 3⟩) := by
  intro path
  have notEmpty : base path "id" ≠ "" := by decide
  have stemEq : stem path "id" = "Größe" := by decide
  have longer : bytes ".rules.md" <:+ bytes (String.ofList (lowered (base path "id").toList)) := by
    decide
  have shorter : bytes ".md" <:+ bytes (String.ofList (lowered (base path "id").toList)) := by
    decide
  obtain ⟨suffix, isSuffix, _, _, _, whole, valid⟩ := stem_append_suffix path "id"
  refine ⟨notEmpty, stemEq, ⟨suffix, isSuffix, ?_⟩, ⟨longer, ?_⟩, shorter, ?_⟩
  · rw [← stemEq]
    exact whole notEmpty
  · exact valid ".rules.md" (by decide) longer
  · exact valid ".md" (by decide) shorter

end RuleCompiler.RuleName

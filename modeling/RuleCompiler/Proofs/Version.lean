import RuleCompiler.Proofs.Registry.History
import RuleCompiler.Proofs.Text.Blank
import RuleCompiler.Proofs.Text.Decimal
import RuleCompiler.Proofs.Text.Piece

/-!
Versions as they are written. A full version is read exactly from its printed form; the major number
is also read from one numeral, or two with a dot between them, and from nothing else. A version that
is completed with zeros cannot be mistaken for a full one: its first numerals are still the pieces
before its first dots.
-/

namespace RuleCompiler

namespace Version

/-! ### The grammar -/

/-- An identifier is not empty; it has ASCII letters, digits and hyphens. -/
structure IsIdentifier (text : List Char) : Prop where
  nonempty : text ≠ []
  chars : ∀ c ∈ text, c.isAlphanum = true ∨ c = '-'

/-- In a pre-release, an identifier of digits alone has no zero before other digits. -/
structure IsPreRelease (text : List Char) : Prop extends IsIdentifier text where
  numeric : (∀ c ∈ text, c.isDigit = true) → ∀ rest, text = '0' :: rest → rest = []

/-- Each number fits 64 bits, and the identifiers are well formed. -/
structure WellFormed (version : Version) : Prop where
  numbers : ∀ value ∈ [version.major, version.minor, version.patch], value < Nat.pow 2 64
  preRelease : ∀ text ∈ version.preRelease, IsPreRelease text
  build : ∀ text ∈ version.build, IsIdentifier text

/-- Numbers in decimal, with dots between them. -/
def numerals (values : List Nat) : List Char :=
  ['.'].intercalate (values.map (Nat.toDigits 10))

/-- Identifiers after their mark, with dots between them; nothing where there are none. -/
def marked (mark : Char) (identifiers : List (List Char)) : List Char :=
  if identifiers = [] then [] else mark :: ['.'].intercalate identifiers

/-- The printed form of a full version. -/
def render (version : Version) : List Char :=
  numerals [version.major, version.minor, version.patch] ++ marked '-' version.preRelease ++
    marked '+' version.build

/-- A version in writing, with its major number: one numeral, two, or a full version. -/
inductive Written : List Char → Nat → Prop
  | major {major : Nat} : major < Nat.pow 2 64 → Written (numerals [major]) major
  | minor {major minor : Nat} : major < Nat.pow 2 64 → minor < Nat.pow 2 64 →
      Written (numerals [major, minor]) major
  | full {version : Version} : version.WellFormed → Written version.render version.major

/-- The text is this version, with blanks around it and at most one `v` before it. -/
def Carries (text : String) (version : List Char) : Prop :=
  ∃ lead mark tail, text.toList = lead ++ (mark ++ version) ++ tail ∧
    Text.AreBlank lead ∧ Text.AreBlank tail ∧ (mark = [] ∨ mark = ['v'])

/-- The text is a version with this major number. -/
def Reads (text : String) (major : Nat) : Prop :=
  ∃ version, Carries text version ∧ Written version major

/-! ### Numerals -/

theorem hasSuperfluousZero_iff {text : List Char} :
    hasSuperfluousZero text = true ↔ ∃ rest, text = '0' :: rest ∧ rest ≠ [] := by
  unfold hasSuperfluousZero
  split
  · next c rest => exact iff_of_true rfl ⟨c :: rest, rfl, List.cons_ne_nil c rest⟩
  · next short =>
      refine iff_of_false Bool.false_ne_true ?_
      rintro ⟨rest, rfl, nonempty⟩
      obtain ⟨c, others, rfl⟩ := List.exists_cons_of_ne_nil nonempty
      exact short c others rfl

theorem hasSuperfluousZero_toDigits (value : Nat) :
    hasSuperfluousZero (Nat.toDigits 10 value) = false := by
  rcases Nat.eq_zero_or_pos value with rfl | positive
  · rfl
  · rw [Bool.eq_false_iff, ne_eq, hasSuperfluousZero_iff]
    rintro ⟨rest, digits, _⟩
    apply Text.head?_toDigits_ne_zero positive
    rw [digits]
    rfl

theorem toDigits_decimalValue {digits : List Char} (nonempty : digits ≠ [])
    (areDigits : ∀ c ∈ digits, c.isDigit = true) (exact : hasSuperfluousZero digits = false) :
    Nat.toDigits 10 (Text.decimalValue digits) = digits := by
  obtain ⟨c, rest, rfl⟩ := List.exists_cons_of_ne_nil nonempty
  by_cases zero : c = '0'
  · subst zero
    have alone : rest = [] := by
      by_contra others
      exact Bool.eq_false_iff.mp exact (hasSuperfluousZero_iff.mpr ⟨rest, rfl, others⟩)
    rw [alone]
    rfl
  · exact Text.toDigits_decimalValue_of_ne_zero areDigits zero

theorem numeral?_eq_some_iff {digits : List Char} {value : Nat} :
    numeral? digits = some value ↔ digits = Nat.toDigits 10 value ∧ value < Nat.pow 2 64 := by
  have isNumeral_iff :
      (digits.isEmpty || !digits.all Char.isDigit || hasSuperfluousZero digits) = false ↔
        digits ≠ [] ∧ (∀ c ∈ digits, c.isDigit = true) ∧ hasSuperfluousZero digits = false := by
    rw [Bool.or_eq_false_iff, Bool.or_eq_false_iff, List.isEmpty_eq_false_iff, Bool.not_eq_false',
      List.all_eq_true, and_assoc]
  unfold numeral?
  constructor
  · intro read
    split at read
    · cases read
    · next valid =>
        obtain ⟨nonempty, areDigits, exact⟩ := isNumeral_iff.mp (Bool.eq_false_iff.mpr valid)
        dsimp only at read
        split at read
        · next fits =>
            obtain rfl := Option.some.inj read
            exact ⟨(toDigits_decimalValue nonempty areDigits exact).symm, fits⟩
        · cases read
  · rintro ⟨rfl, fits⟩
    have areDigits : ∀ c ∈ Nat.toDigits 10 value, c.isDigit = true :=
      fun c => Nat.isDigit_of_mem_toDigits (by decide) (by decide)
    have valid := isNumeral_iff.mpr
      ⟨Nat.toDigits_ne_nil, areDigits, hasSuperfluousZero_toDigits value⟩
    rw [valid, if_neg Bool.false_ne_true]
    dsimp only
    rw [Text.decimalValue_toDigits, if_pos fits]

theorem exists_rest_of_numerals (value : Nat) (values : List Nat) :
    ∃ rest, numerals (value :: values) = Nat.toDigits 10 value ++ rest := by
  cases values with
  | nil => exact ⟨[], List.intercalate_singleton.trans (List.append_nil _).symm⟩
  | cons next others =>
      unfold numerals
      rw [List.map_cons, List.map_cons, List.intercalate_cons_cons, List.append_assoc]
      exact ⟨_, rfl⟩

theorem mem_numerals {c : Char} {values : List Nat} (member : c ∈ numerals values) :
    c.isDigit = true ∨ c = '.' := by
  rcases Text.mem_intercalate member with isDot | ⟨digits, inside, inDigits⟩
  · exact Or.inr isDot
  · obtain ⟨value, _, rfl⟩ := List.mem_map.mp inside
    exact Or.inl (Nat.isDigit_of_mem_toDigits (by decide) (by decide) inDigits)

theorem dot_not_mem_toDigits (value : Nat) : '.' ∉ Nat.toDigits 10 value := by
  intro member
  have isDigit : '.'.isDigit = true :=
    Nat.isDigit_of_mem_toDigits (by decide) (by decide) member
  exact absurd isDigit (by decide)

theorem splitOn_numerals {values : List Nat} (nonempty : values ≠ []) :
    Text.splitOn '.' (numerals values) = values.map (Nat.toDigits 10) := by
  apply Text.splitOn_intercalate (mt List.map_eq_nil_iff.mp nonempty)
  intro digits member
  obtain ⟨value, _, rfl⟩ := List.mem_map.mp member
  exact dot_not_mem_toDigits value

/-! ### Identifiers -/

theorem isBuildIdentifier_iff {text : List Char} :
    isBuildIdentifier text = true ↔ IsIdentifier text := by
  unfold isBuildIdentifier isIdentifierChar
  rw [Bool.and_eq_true, Bool.not_eq_true', List.isEmpty_eq_false_iff, List.all_eq_true]
  simp only [Bool.or_eq_true, beq_iff_eq]
  exact ⟨fun both => ⟨both.1, both.2⟩, fun isIdentifier => ⟨isIdentifier.1, isIdentifier.2⟩⟩

theorem isPreReleaseIdentifier_iff {text : List Char} :
    isPreReleaseIdentifier text = true ↔ IsPreRelease text := by
  unfold isPreReleaseIdentifier
  rw [Bool.and_eq_true, isBuildIdentifier_iff, Bool.not_eq_true', Bool.and_eq_false_imp,
    List.all_eq_true, Bool.eq_false_iff, ne_eq, hasSuperfluousZero_iff]
  constructor
  · rintro ⟨isIdentifier, exact⟩
    refine ⟨isIdentifier, fun areDigits rest split => ?_⟩
    by_contra others
    exact exact areDigits ⟨rest, split, others⟩
  · intro isPreRelease
    refine ⟨isPreRelease.toIsIdentifier, ?_⟩
    rintro areDigits ⟨rest, split, others⟩
    exact others (isPreRelease.numeric areDigits rest split)

theorem IsIdentifier.not_mem {text : List Char} (isIdentifier : IsIdentifier text) {c : Char}
    (apart : c.isAlphanum = false) (noHyphen : c ≠ '-') : c ∉ text := by
  intro member
  rcases isIdentifier.chars c member with alphanumeric | isHyphen
  · rw [apart] at alphanumeric
    cases alphanumeric
  · exact noHyphen isHyphen

theorem mem_marked {c mark : Char} {identifiers : List (List Char)}
    (member : c ∈ marked mark identifiers) :
    c = mark ∨ c = '.' ∨ ∃ text ∈ identifiers, c ∈ text := by
  unfold marked at member
  split at member
  · cases member
  · rcases List.mem_cons.mp member with isMark | inside
    · exact Or.inl isMark
    · exact Or.inr (Text.mem_intercalate inside)

/-! ### Full versions -/

/-- Take the identifiers behind a mark off the end of a text. -/
def cutMarked? (mark : Char) (wellFormed : List Char → Bool) (text : List Char) :
    Option (List Char × List (List Char)) :=
  match Text.cutAt mark text with
  | some (before, part) => do pure (before, ← identifiers? wellFormed part)
  | none => pure (text, [])

/-- The version whose numerals are the pieces of a text between its dots. -/
def ofNumerals? (core : List Char) (preRelease build : List (List Char)) : Option Version :=
  match Text.splitOn '.' core with
  | [major, minor, patch] => do
      return { major := ← numeral? major, minor := ← numeral? minor, patch := ← numeral? patch,
               preRelease, build }
  | _ => none

theorem cutMarked?_bind {α : Type} (mark : Char) (wellFormed : List Char → Bool)
    (text : List Char) (onward : List Char × List (List Char) → Option α) :
    (match Text.cutAt mark text with
      | some (before, part) =>
          (identifiers? wellFormed part).bind fun identifiers => onward (before, identifiers)
      | none => onward (text, [])) =
      (cutMarked? mark wellFormed text).bind onward := by
  unfold cutMarked?
  cases Text.cutAt mark text with
  | none => rfl
  | some parts =>
      obtain ⟨before, part⟩ := parts
      dsimp only
      cases identifiers? wellFormed part with
      | none => rfl
      | some identifiers => rfl

theorem parse?_eq_bind (text : List Char) :
    parse? text =
      (cutMarked? '+' isBuildIdentifier text).bind fun (rest, build) =>
        (cutMarked? '-' isPreReleaseIdentifier rest).bind fun (core, preRelease) =>
          ofNumerals? core preRelease build := by
  rw [← cutMarked?_bind]
  simp only [← cutMarked?_bind]
  rfl

theorem identifiers?_eq_some_iff {wellFormed : List Char → Bool} {text : List Char}
    {identifiers : List (List Char)} :
    identifiers? wellFormed text = some identifiers ↔
      Text.splitOn '.' text = identifiers ∧ ∀ piece ∈ identifiers, wellFormed piece = true := by
  unfold identifiers?
  dsimp only
  split
  · next all =>
      rw [Option.some_inj]
      constructor
      · rintro rfl
        exact ⟨rfl, List.all_eq_true.mp all⟩
      · exact And.left
  · next bad =>
      refine iff_of_false nofun ?_
      rintro ⟨rfl, all⟩
      exact bad (List.all_eq_true.mpr all)

theorem cutMarked?_eq_some_iff {mark : Char} {wellFormed : List Char → Bool}
    (dotless : ∀ piece, wellFormed piece = true → '.' ∉ piece) {text core : List Char}
    {identifiers : List (List Char)} :
    cutMarked? mark wellFormed text = some (core, identifiers) ↔
      text = core ++ marked mark identifiers ∧ mark ∉ core ∧
        ∀ piece ∈ identifiers, wellFormed piece = true := by
  unfold cutMarked?
  constructor
  · intro cut
    cases found : Text.cutAt mark text with
    | none =>
        rw [found] at cut
        cases cut
        exact ⟨(List.append_nil text).symm, Text.cutAt_eq_none_iff.mp found, nofun⟩
    | some parts =>
        obtain ⟨before, part⟩ := parts
        rw [found] at cut
        obtain ⟨pieces, listed, isPair⟩ := Option.bind_eq_some_iff.mp cut
        cases isPair
        obtain ⟨split, absent⟩ := Text.eq_append_of_cutAt found
        obtain ⟨rfl, all⟩ := identifiers?_eq_some_iff.mp listed
        refine ⟨?_, absent, all⟩
        rw [marked, if_neg (Text.splitOn_ne_nil '.' part), Text.intercalate_splitOn]
        exact split
  · rintro ⟨rfl, absent, all⟩
    by_cases none : identifiers = []
    · subst none
      rw [marked, if_pos rfl, List.append_nil, Text.cutAt_eq_none_iff.mpr absent]
      rfl
    · have split := Text.splitOn_intercalate none fun piece member =>
        dotless piece (all piece member)
      rw [marked, if_neg none, Text.cutAt_append_separator absent]
      dsimp only
      rw [identifiers?_eq_some_iff.mpr ⟨split, all⟩]
      rfl

theorem dotless_of_build {text : List Char} (valid : isBuildIdentifier text = true) :
    '.' ∉ text :=
  (isBuildIdentifier_iff.mp valid).not_mem (by decide) (by decide)

theorem dotless_of_preRelease {text : List Char} (valid : isPreReleaseIdentifier text = true) :
    '.' ∉ text :=
  (isPreReleaseIdentifier_iff.mp valid).not_mem (by decide) (by decide)

theorem eq_render_of_parse? {text : List Char} {version : Version}
    (read : parse? text = some version) : version.WellFormed ∧ text = version.render := by
  rw [parse?_eq_bind] at read
  obtain ⟨⟨rest, build⟩, cutBuild, read⟩ := Option.bind_eq_some_iff.mp read
  obtain ⟨⟨core, preRelease⟩, cutPreRelease, read⟩ := Option.bind_eq_some_iff.mp read
  unfold ofNumerals? at read
  dsimp only at read
  split at read
  · next majorText minorText patchText split =>
      obtain ⟨major, isMajor, read⟩ := Option.bind_eq_some_iff.mp read
      obtain ⟨minor, isMinor, read⟩ := Option.bind_eq_some_iff.mp read
      obtain ⟨patch, isPatch, read⟩ := Option.bind_eq_some_iff.mp read
      cases read
      obtain ⟨rfl, majorFits⟩ := numeral?_eq_some_iff.mp isMajor
      obtain ⟨rfl, minorFits⟩ := numeral?_eq_some_iff.mp isMinor
      obtain ⟨rfl, patchFits⟩ := numeral?_eq_some_iff.mp isPatch
      obtain ⟨textEq, _, builds⟩ := (cutMarked?_eq_some_iff fun _ => dotless_of_build).mp cutBuild
      obtain ⟨restEq, _, preReleases⟩ :=
        (cutMarked?_eq_some_iff fun _ => dotless_of_preRelease).mp cutPreRelease
      have coreEq : core = numerals [major, minor, patch] := by
        rw [← Text.intercalate_splitOn '.' core, split]
        rfl
      refine ⟨⟨?_, ?_, ?_⟩, ?_⟩
      · simp only [List.forall_mem_cons]
        exact ⟨majorFits, minorFits, patchFits, nofun⟩
      · exact fun piece member => isPreReleaseIdentifier_iff.mp (preReleases piece member)
      · exact fun piece member => isBuildIdentifier_iff.mp (builds piece member)
      · rw [textEq, restEq, coreEq]
        rfl
  · cases read

theorem parse?_render {version : Version} (wellFormed : version.WellFormed) :
    parse? version.render = some version := by
  have numeralsLack : ∀ mark : Char, mark.isDigit = false → mark ≠ '.' →
      mark ∉ numerals [version.major, version.minor, version.patch] := by
    intro mark noDigit noDot member
    rcases mem_numerals member with isDigit | isDot
    · rw [noDigit] at isDigit
      cases isDigit
    · exact noDot isDot
  have preReleaseLacks : '+' ∉ marked '-' version.preRelease := by
    intro member
    rcases mem_marked member with isMark | isDot | ⟨text, inside, inText⟩
    · exact absurd isMark (by decide)
    · exact absurd isDot (by decide)
    · exact (wellFormed.preRelease text inside).not_mem (by decide) (by decide) inText
  have cutBuild : cutMarked? '+' isBuildIdentifier version.render =
      some (numerals [version.major, version.minor, version.patch] ++
        marked '-' version.preRelease, version.build) := by
    refine (cutMarked?_eq_some_iff fun _ => dotless_of_build).mpr ⟨rfl, ?_, ?_⟩
    · rw [List.mem_append, not_or]
      exact ⟨numeralsLack '+' (by decide) (by decide), preReleaseLacks⟩
    · exact fun text member => isBuildIdentifier_iff.mpr (wellFormed.build text member)
  have cutPreRelease : cutMarked? '-' isPreReleaseIdentifier
      (numerals [version.major, version.minor, version.patch] ++ marked '-' version.preRelease) =
      some (numerals [version.major, version.minor, version.patch], version.preRelease) := by
    refine (cutMarked?_eq_some_iff fun _ => dotless_of_preRelease).mpr ⟨rfl, ?_, ?_⟩
    · exact numeralsLack '-' (by decide) (by decide)
    · exact fun text member => isPreReleaseIdentifier_iff.mpr (wellFormed.preRelease text member)
  have reads : ∀ value ∈ [version.major, version.minor, version.patch],
      numeral? (Nat.toDigits 10 value) = some value :=
    fun value member => numeral?_eq_some_iff.mpr ⟨rfl, wellFormed.numbers value member⟩
  simp only [List.forall_mem_cons] at reads
  obtain ⟨readMajor, readMinor, readPatch, _⟩ := reads
  rw [parse?_eq_bind, cutBuild, Option.bind_some]
  dsimp only
  rw [cutPreRelease, Option.bind_some]
  unfold ofNumerals?
  rw [splitOn_numerals (List.cons_ne_nil _ _)]
  simp only [List.map_cons, List.map_nil]
  rw [readMajor, readMinor, readPatch]
  rfl

theorem count_dot_numerals {values : List Nat} (nonempty : values ≠ []) :
    (numerals values).count '.' + 1 = values.length := by
  rw [← Text.length_splitOn, splitOn_numerals nonempty, List.length_map]

theorem count_dot_of_parse? {text : List Char} {version : Version}
    (read : parse? text = some version) : 2 ≤ text.count '.' := by
  obtain ⟨_, rfl⟩ := eq_render_of_parse? read
  have dots := count_dot_numerals (List.cons_ne_nil version.major [version.minor, version.patch])
  rw [List.length_cons, List.length_cons, List.length_singleton] at dots
  rw [render, List.count_append, List.count_append]
  omega

/-- The first two pieces of a full version are its first two numerals. -/
theorem splitOn_render (version : Version) :
    ∃ others, others ≠ [] ∧ Text.splitOn '.' version.render =
      Nat.toDigits 10 version.major :: Nat.toDigits 10 version.minor :: others := by
  let rest := Nat.toDigits 10 version.patch ++ marked '-' version.preRelease ++
    marked '+' version.build
  have shape : version.render =
      Nat.toDigits 10 version.major ++ '.' :: (Nat.toDigits 10 version.minor ++ '.' :: rest) := by
    simp [render, numerals, List.intercalate, rest]
  refine ⟨Text.splitOn '.' rest, Text.splitOn_ne_nil '.' rest, ?_⟩
  rw [shape, Text.splitOn_append_separator, Text.splitOn_append_separator,
    Text.splitOn_of_not_mem (dot_not_mem_toDigits version.major),
    Text.splitOn_of_not_mem (dot_not_mem_toDigits version.minor)]
  rfl

/-! ### Partial versions -/

/-- The major number of a text without blanks and `v`. -/
def majorOf? (text : List Char) : Option Nat :=
  match parse? text with
  | some version => some version.major
  | none => (completed? text).bind fun whole => (parse? whole).map Version.major

theorem major?_eq_majorOf? (text : String) :
    major? text = majorOf? (dropLeadingV (Text.trim text.toList)) := by
  unfold major? majorOf?
  dsimp only
  cases parse? (dropLeadingV (Text.trim text.toList)) with
  | some version => rfl
  | none =>
      dsimp only
      cases completed? (dropLeadingV (Text.trim text.toList)) with
      | none => rfl
      | some whole =>
          cases read : parse? whole with
          | none => simp [read]
          | some version => simp [read]

theorem completed?_of_count {text whole : List Char} (isWhole : completed? text = some whole) :
    (text.count '.' = 0 ∧ whole = text ++ '.' :: ['0', '.', '0']) ∨
      (text.count '.' = 1 ∧ whole = text ++ '.' :: ['0']) := by
  unfold completed? at isWhole
  split at isWhole
  · next noDot => exact Or.inl ⟨noDot, (Option.some.inj isWhole).symm⟩
  · next oneDot => exact Or.inr ⟨oneDot, (Option.some.inj isWhole).symm⟩
  · cases isWhole

/-- What is read once it is completed is one numeral or two: what was added has the last pieces. -/
theorem written_of_completed {text whole : List Char} {version : Version}
    (isWhole : completed? text = some whole) (read : parse? whole = some version) :
    Written text version.major := by
  obtain ⟨wellFormed, isRender⟩ := eq_render_of_parse? read
  obtain ⟨others, more, pieces⟩ := splitOn_render version
  have fits := wellFormed.numbers
  simp only [List.forall_mem_cons] at fits
  rw [← isRender] at pieces
  rcases completed?_of_count isWhole with ⟨noDot, rfl⟩ | ⟨oneDot, rfl⟩
  · rw [Text.splitOn_append_separator, Text.splitOn_of_not_mem (List.count_eq_zero.mp noDot)]
      at pieces
    have isMajor : text = numerals [version.major] :=
      (List.cons.inj pieces).1.trans List.intercalate_singleton.symm
    rw [isMajor]
    exact Written.major fits.1
  · have two : (Text.splitOn '.' text).length = text.count '.' + 1 := Text.length_splitOn text
    rw [oneDot] at two
    obtain ⟨first, second, split⟩ := List.length_eq_two.mp two
    rw [Text.splitOn_append_separator, split] at pieces
    obtain ⟨isMajor, pieces⟩ := List.cons.inj pieces
    have isMinor := (List.cons.inj pieces).1
    have isBoth : text = numerals [version.major, version.minor] := by
      rw [← Text.intercalate_splitOn '.' text, split, isMajor, isMinor]
      rfl
    rw [isBoth]
    exact Written.minor fits.1 fits.2.1

theorem majorOf?_of_completed {text : List Char} (partly : text.count '.' < 2) {version : Version}
    (wellFormed : version.WellFormed) (isWhole : completed? text = some version.render) :
    majorOf? text = some version.major := by
  have unread : parse? text = none := by
    rw [Option.eq_none_iff_forall_ne_some]
    intro version read
    exact absurd (count_dot_of_parse? read) (Nat.not_le_of_lt partly)
  rw [majorOf?, unread, isWhole, Option.bind_some, parse?_render wellFormed]
  rfl

theorem majorOf?_eq_some_iff {text : List Char} {major : Nat} :
    majorOf? text = some major ↔ Written text major := by
  constructor
  · intro read
    unfold majorOf? at read
    split at read
    · next version isFull =>
        obtain ⟨wellFormed, rfl⟩ := eq_render_of_parse? isFull
        rw [← Option.some.inj read]
        exact Written.full wellFormed
    · obtain ⟨whole, isWhole, isMajor⟩ := Option.bind_eq_some_iff.mp read
      obtain ⟨version, isFull, rfl⟩ := Option.map_eq_some_iff.mp isMajor
      exact written_of_completed isWhole isFull
  · intro written
    cases written with
    | major fits =>
        have noDot : (numerals [major]).count '.' = 0 := by
          have dots := count_dot_numerals (List.cons_ne_nil major [])
          rw [List.length_singleton] at dots
          omega
        have numbers : ∀ value ∈ [major, 0, 0], value < Nat.pow 2 64 := by
          simp only [List.forall_mem_cons]
          exact ⟨fits, by decide, by decide, nofun⟩
        have wellFormed : ({ major, minor := 0, patch := 0 } : Version).WellFormed :=
          ⟨numbers, nofun, nofun⟩
        refine majorOf?_of_completed (by omega) wellFormed ?_
        unfold completed?
        rw [noDot]
        simp [render, numerals, marked, List.intercalate]
    | @minor _ minor fits minorFits =>
        have oneDot : (numerals [major, minor]).count '.' = 1 := by
          have dots := count_dot_numerals (List.cons_ne_nil major [minor])
          rw [List.length_cons, List.length_singleton] at dots
          omega
        have numbers : ∀ value ∈ [major, minor, 0], value < Nat.pow 2 64 := by
          simp only [List.forall_mem_cons]
          exact ⟨fits, minorFits, by decide, nofun⟩
        have wellFormed : ({ major, minor, patch := 0 } : Version).WellFormed :=
          ⟨numbers, nofun, nofun⟩
        refine majorOf?_of_completed (by omega) wellFormed ?_
        unfold completed?
        rw [oneDot]
        simp [render, numerals, marked, List.intercalate]
    | full wellFormed => rw [majorOf?, parse?_render wellFormed]

/-! ### Blanks and a leading `v` -/

theorem mem_written {text : List Char} {major : Nat} (written : Written text major) {c : Char}
    (member : c ∈ text) : c.isAlphanum = true ∨ c = '.' ∨ c = '-' ∨ c = '+' := by
  have ofNumerals : ∀ {values : List Nat}, c ∈ numerals values →
      c.isAlphanum = true ∨ c = '.' ∨ c = '-' ∨ c = '+' := by
    intro values inside
    rcases mem_numerals inside with isDigit | isDot
    · exact Or.inl (by rw [Char.isAlphanum, isDigit, Bool.or_true])
    · exact Or.inr (Or.inl isDot)
  have ofIdentifier : ∀ {text : List Char}, IsIdentifier text → c ∈ text →
      c.isAlphanum = true ∨ c = '.' ∨ c = '-' ∨ c = '+' := by
    intro text isIdentifier inside
    exact (isIdentifier.chars c inside).imp id fun isHyphen => Or.inr (Or.inl isHyphen)
  cases written with
  | major => exact ofNumerals member
  | minor => exact ofNumerals member
  | @full version wellFormed =>
      rcases List.mem_append.mp member with inFront | inBuild
      · rcases List.mem_append.mp inFront with inNumerals | inPreRelease
        · exact ofNumerals inNumerals
        · rcases mem_marked inPreRelease with isMark | isDot | ⟨text, listed, inText⟩
          · exact Or.inr (Or.inr (Or.inl isMark))
          · exact Or.inr (Or.inl isDot)
          · exact ofIdentifier (wellFormed.preRelease text listed).toIsIdentifier inText
      · rcases mem_marked inBuild with isMark | isDot | ⟨text, listed, inText⟩
        · exact Or.inr (Or.inr (Or.inr isMark))
        · exact Or.inr (Or.inl isDot)
        · exact ofIdentifier (wellFormed.build text listed) inText

/-- The codes of the ASCII letters and digits. -/
theorem code_of_isAlphanum {c : Char} (alphanumeric : c.isAlphanum = true) :
    (65 ≤ c.toNat ∧ c.toNat ≤ 90) ∨ (97 ≤ c.toNat ∧ c.toNat ≤ 122) ∨
      (48 ≤ c.toNat ∧ c.toNat ≤ 57) := by
  rcases Bool.or_eq_true_iff.mp alphanumeric with isAlpha | isDigit
  · rcases Bool.or_eq_true_iff.mp isAlpha with isUpper | isLower
    · obtain ⟨atLeast, atMost⟩ := of_decide_eq_true isUpper
      exact Or.inl ⟨UInt32.le_iff_toNat_le.mp atLeast, UInt32.le_iff_toNat_le.mp atMost⟩
    · obtain ⟨atLeast, atMost⟩ := Bool.and_eq_true_iff.mp isLower
      exact Or.inr (Or.inl ⟨UInt32.le_iff_toNat_le.mp (of_decide_eq_true atLeast),
        UInt32.le_iff_toNat_le.mp (of_decide_eq_true atMost)⟩)
  · exact Or.inr (Or.inr (Char.isDigit_iff_toNat.mp isDigit))

theorem isBlank_of_isAlphanum {c : Char} (alphanumeric : c.isAlphanum = true) :
    Text.isBlank c = false := by
  have code := code_of_isAlphanum alphanumeric
  simp only [Text.isBlank, Bool.or_eq_false_iff, Bool.and_eq_false_iff, decide_eq_false_iff_not,
    beq_eq_false_iff_ne]
  omega

theorem isBlank_of_written {text : List Char} {major : Nat} (written : Written text major)
    {c : Char} (member : c ∈ text) : Text.isBlank c = false := by
  rcases mem_written written member with alphanumeric | rfl | rfl | rfl
  · exact isBlank_of_isAlphanum alphanumeric
  · decide
  · decide
  · decide

theorem exists_digit_of_written {text : List Char} {major : Nat} (written : Written text major) :
    ∃ c rest, text = c :: rest ∧ c.isDigit = true := by
  obtain ⟨c, digits, shape⟩ :=
    List.exists_cons_of_ne_nil (Nat.toDigits_ne_nil (n := major) (b := 10))
  have isDigit : c.isDigit = true := by
    apply Nat.isDigit_of_mem_toDigits (b := 10) (n := major) (by decide) (by decide)
    rw [shape]
    exact List.mem_cons_self
  have starts : ∃ rest, text = Nat.toDigits 10 major ++ rest := by
    cases written with
    | major => exact exists_rest_of_numerals major []
    | @minor _ minor => exact exists_rest_of_numerals major [minor]
    | @full version =>
        obtain ⟨rest, split⟩ :=
          exists_rest_of_numerals version.major [version.minor, version.patch]
        rw [render, split, List.append_assoc, List.append_assoc]
        exact ⟨_, rfl⟩
  obtain ⟨rest, rfl⟩ := starts
  exact ⟨c, digits ++ rest, by rw [shape, List.cons_append], isDigit⟩

theorem exists_mark_of_dropLeadingV (text : List Char) :
    ∃ mark, text = mark ++ dropLeadingV text ∧ (mark = [] ∨ mark = ['v']) := by
  unfold dropLeadingV
  split
  · exact ⟨['v'], rfl, Or.inr rfl⟩
  · exact ⟨[], rfl, Or.inl rfl⟩

theorem major?_eq_some_iff {text : String} {major : Nat} :
    major? text = some major ↔ Reads text major := by
  rw [major?_eq_majorOf?, majorOf?_eq_some_iff]
  constructor
  · intro written
    obtain ⟨lead, tail, split, blankLead, blankTail⟩ := Text.exists_parts_of_trim text.toList
    obtain ⟨mark, marked, isMark⟩ := exists_mark_of_dropLeadingV (Text.trim text.toList)
    rw [marked] at split
    exact ⟨_, ⟨lead, mark, tail, split, blankLead, blankTail, isMark⟩, written⟩
  · rintro ⟨version, ⟨lead, mark, tail, split, blankLead, blankTail, isMark⟩, written⟩
    have clear : ∀ c ∈ mark ++ version, Text.isBlank c = false := by
      intro c member
      rcases List.mem_append.mp member with inMark | inVersion
      · rcases isMark with rfl | rfl
        · cases inMark
        · rw [List.mem_singleton.mp inMark]
          decide
      · exact isBlank_of_written written inVersion
    have trimmed : Text.trim text.toList = mark ++ version := by
      rw [split]
      exact Text.trim_of_clear blankLead (fun c first => clear c (List.mem_of_head? first))
        (fun c last => clear c (List.mem_of_getLast? last)) blankTail
    have dropped : dropLeadingV (mark ++ version) = version := by
      rcases isMark with rfl | rfl
      · obtain ⟨c, rest, rfl, isDigit⟩ := exists_digit_of_written written
        unfold dropLeadingV
        split
        · next isLetter =>
            cases isLetter
            exact absurd isDigit (by decide)
        · rfl
      · rfl
    rw [trimmed, dropped]
    exact written

/-- A text with a hyphen or a plus sign is read only if it is a full version. -/
theorem exists_full_of_reads {text : String} {major : Nat} (reads : Reads text major)
    (extended : '-' ∈ text.toList ∨ '+' ∈ text.toList) :
    ∃ version : Version, version.WellFormed ∧ version.major = major ∧
      Carries text version.render := by
  obtain ⟨written, ⟨lead, mark, tail, split, blankLead, blankTail, isMark⟩, isWritten⟩ := reads
  have inVersion : ∀ c : Char, Text.isBlank c = false → c ≠ 'v' → c ∈ text.toList →
      c ∈ written := by
    intro c notBlank notMark member
    rw [split, List.mem_append, List.mem_append, List.mem_append] at member
    rcases member with (inLead | inMark | inVersion) | inTail
    · rw [blankLead c inLead] at notBlank
      cases notBlank
    · rcases isMark with rfl | rfl
      · cases inMark
      · exact absurd (List.mem_singleton.mp inMark) notMark
    · exact inVersion
    · rw [blankTail c inTail] at notBlank
      cases notBlank
  have notNumerals : ∀ values, written ≠ numerals values := by
    rintro values rfl
    rcases extended with hyphen | plus
    · rcases mem_numerals (inVersion '-' (by decide) (by decide) hyphen) with isDigit | isDot
      · exact absurd isDigit (by decide)
      · exact absurd isDot (by decide)
    · rcases mem_numerals (inVersion '+' (by decide) (by decide) plus) with isDigit | isDot
      · exact absurd isDigit (by decide)
      · exact absurd isDot (by decide)
  cases isWritten with
  | major => exact absurd rfl (notNumerals _)
  | minor => exact absurd rfl (notNumerals _)
  | full wellFormed =>
      exact ⟨_, wellFormed, rfl, lead, mark, tail, split, blankLead, blankTail, isMark⟩

end Version

/-- No handshake with the declared version meets a finding. -/
def Handshake.Compatible (expected declared : String) : Prop :=
  ∀ handshake : Handshake, handshake.sdkVersion = declared →
    Handshake.incompatibilities expected handshake = []

namespace Version

theorem incompatibilities_eq_nil_iff_reads {expected : String} {handshake : Handshake} :
    Handshake.incompatibilities expected handshake = [] ↔
      ∃ major, Reads expected major ∧ Reads handshake.sdkVersion major := by
  rw [Handshake.incompatibilities_eq_nil_iff, SameMajor]
  simp only [major?_eq_some_iff]

theorem compatible_iff_reads {expected declared : String} :
    Handshake.Compatible expected declared ↔
      ∃ major, Reads expected major ∧ Reads declared major := by
  constructor
  · intro compatible
    let handshake : Handshake :=
      { providerId := "", version := "", sdkVersion := declared, capabilities := [] }
    exact incompatibilities_eq_nil_iff_reads.mp (compatible handshake rfl)
  · rintro both handshake rfl
    exact incompatibilities_eq_nil_iff_reads.mpr both

/-- The major number is read exactly from the versions of the grammar, and where there is a
pre-release or a build, only from a full one. Two versions are compatible exactly if both are
versions with one major number, so compatibility is symmetric and transitive. -/
theorem major?_reads_grammar :
    (∀ text major, major? text = some major ↔ Reads text major) ∧
    (∀ text major, major? text = some major → '-' ∈ text.toList ∨ '+' ∈ text.toList →
      ∃ version : Version, version.WellFormed ∧ version.major = major ∧
        Carries text version.render) ∧
    (∀ expected handshake, Handshake.incompatibilities expected handshake = [] ↔
      ∃ major, Reads expected major ∧ Reads handshake.sdkVersion major) ∧
    (∀ expected declared, Handshake.Compatible expected declared →
      Handshake.Compatible declared expected) ∧
    (∀ first second third, Handshake.Compatible first second → Handshake.Compatible second third →
      Handshake.Compatible first third) := by
  refine ⟨fun _ _ => major?_eq_some_iff, ?_, fun _ _ => incompatibilities_eq_nil_iff_reads, ?_, ?_⟩
  · intro text major read
    exact exists_full_of_reads (major?_eq_some_iff.mp read)
  · intro expected declared compatible
    obtain ⟨major, isExpected, isDeclared⟩ := compatible_iff_reads.mp compatible
    exact compatible_iff_reads.mpr ⟨major, isDeclared, isExpected⟩
  · intro first second third compatible onward
    obtain ⟨major, isFirst, isSecond⟩ := compatible_iff_reads.mp compatible
    obtain ⟨other, isSecondToo, isThird⟩ := compatible_iff_reads.mp onward
    -- The second version is read once, so both pairs have the same number.
    have same : other = major := by
      rw [← major?_eq_some_iff] at isSecond isSecondToo
      exact Option.some.inj (isSecondToo.symm.trans isSecond)
    rw [same] at isThird
    exact compatible_iff_reads.mpr ⟨major, isFirst, isThird⟩

example : major? " v1.4 " = some 1 ∧ major? "1.4-beta" = none := by decide

end Version

end RuleCompiler

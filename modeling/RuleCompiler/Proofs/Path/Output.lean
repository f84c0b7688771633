import Mathlib.Data.List.Basic
import RuleCompiler.Proofs.Path.FileName

/-!
Output paths and the text of their base. The base counts as a directory by its text alone, which
tells the same as its normalized form if it ends in a name; a slash or a `..` at its end is lost
when the base is normalized. Two bases that lead alike and count alike give the same output paths.
-/

namespace RuleCompiler

namespace Path

/-- The path ends in a name, and no slash follows it. -/
structure EndsInName (path : Path) : Prop where
  named : path.fileName?.isSome = true
  noSlash : path.text.toList.getLast? ≠ some '/'

theorem fileName?_ofNames {names : List String} {name : String}
    (areNames : AreNames (names ++ [name])) :
    (ofNames true (names ++ [name])).fileName? = some name := by
  have some : names ++ [name] ≠ [] :=
    List.append_ne_nil_of_right_ne_nil names (List.cons_ne_nil name [])
  have segments : (ofNames true (names ++ [name])).segments = ("" :: names) ++ [name] := by
    rw [segments_ofNames areNames, if_neg some]
    rfl
  exact fileName?_of_segments segments nofun areNames.ofAppend.2

theorem fileName?_absolutize {path : Path} (absolute : path.isAbsolute = true) {name : String}
    (atEnd : path.fileName? = some name) (workingDirectory : Path) :
    (path.absolutize workingDirectory).fileName? = some name := by
  obtain ⟨parent, _, _, names⟩ := parent?_of_fileName? absolute atEnd
  have areNames := areNames_names path
  rw [names] at areNames
  rw [absolutize_of_isAbsolute absolute, names]
  exact fileName?_ofNames areNames

theorem extension?_absolutize {path : Path} (absolute : path.isAbsolute = true)
    (named : path.fileName?.isSome = true) (workingDirectory : Path) :
    (path.absolutize workingDirectory).extension? = path.extension? := by
  obtain ⟨name, atEnd⟩ := Option.isSome_iff_exists.mp named
  unfold extension?
  rw [fileName?_absolutize absolute atEnd, atEnd]

theorem EndsInName.join (path : Path) {tail : String} (ends : (Path.mk tail).EndsInName) :
    (path.join tail).EndsInName := by
  obtain ⟨name, atEnd⟩ := Option.isSome_iff_exists.mp ends.named
  have isName := isName_of_fileName? atEnd
  obtain ⟨before, idle, segments, areIdle⟩ := segments_of_fileName? atEnd
  have letters : tail.toList ≠ [] := by
    intro none
    rw [String.toList_eq_nil_iff.mp none] at atEnd
    cases atEnd
  by_cases alone : tail.toList.head? = some '/'
  · unfold Path.join
    rw [if_pos alone]
    exact ends
  · refine ⟨?_, ?_⟩
    · obtain ⟨lead, joinedSegments, _⟩ := segments_join path alone
      have split : (path.join tail).segments = (lead ++ before) ++ name :: idle := by
        rw [joinedSegments, List.append_assoc, ← segments]
        rfl
      rw [fileName?_of_segments split areIdle isName]
      rfl
    · obtain ⟨lead, text⟩ : ∃ lead, (path.join tail).text = lead ++ tail := by
        unfold Path.join
        rw [if_neg alone]
        split
        · exact ⟨_, rfl⟩
        · exact ⟨_, rfl⟩
      rw [text, String.toList_append, List.getLast?_append_of_ne_nil _ letters]
      exact ends.noSlash

end Path

namespace OutputPath

theorem looksLikeDirectory_of_endsInName {path : Path} (ends : path.EndsInName) :
    looksLikeDirectory path.text = path.extension?.isNone := by
  unfold looksLikeDirectory
  rw [beq_eq_false_iff_ne.mpr ends.noSlash, Bool.false_or]

/-- What counts as a file ends in a name that has an extension. -/
theorem endsInName_of_looksLikeFile {path : Path}
    (isFile : looksLikeDirectory path.text = false) :
    path.EndsInName ∧ path.extension?.isSome = true := by
  obtain ⟨noSlash, extended⟩ := Bool.or_eq_false_iff.mp isFile
  have isSome : path.extension?.isSome = true := by
    rw [← Option.not_isNone, extended]
    rfl
  refine ⟨⟨?_, beq_eq_false_iff_ne.mp noSlash⟩, isSome⟩
  unfold Path.extension? at isSome
  exact Option.isSome_of_isSome_bind isSome

theorem isAbsolute_baseDirectory {base : Path} (absolute : base.isAbsolute = true) :
    (baseDirectory base).isAbsolute = true := by
  unfold baseDirectory
  split
  · exact absolute
  · next notDirectory =>
      obtain ⟨ends, _⟩ := endsInName_of_looksLikeFile (Bool.eq_false_iff.mpr notDirectory)
      obtain ⟨name, atEnd⟩ := Option.isSome_iff_exists.mp ends.named
      obtain ⟨parent, isParent, parentAbsolute, _⟩ := Path.parent?_of_fileName? absolute atEnd
      rw [isParent, Option.getD_some]
      exact parentAbsolute

theorem isAbsolute_candidate {base : Path} (absolute : base.isAbsolute = true)
    (configured : Option String) : (candidate base configured).1.isAbsolute = true := by
  unfold candidate
  cases override? configured with
  | none => exact absolute
  | some text => exact Path.isAbsolute_join (isAbsolute_baseDirectory absolute) text

theorem leadsAlike_baseDirectory {first second : Path} (alike : Path.LeadsAlike first second)
    (looks : looksLikeDirectory first.text = looksLikeDirectory second.text) :
    Path.LeadsAlike (baseDirectory first) (baseDirectory second) := by
  unfold baseDirectory
  cases isDirectory : looksLikeDirectory second.text with
  | true =>
      rw [looks, isDirectory, if_pos rfl, if_pos rfl]
      exact alike
  | false =>
      rw [isDirectory] at looks
      obtain ⟨firstEnds, _⟩ := endsInName_of_looksLikeFile looks
      obtain ⟨secondEnds, _⟩ := endsInName_of_looksLikeFile isDirectory
      obtain ⟨firstName, firstAtEnd⟩ := Option.isSome_iff_exists.mp firstEnds.named
      obtain ⟨secondName, secondAtEnd⟩ := Option.isSome_iff_exists.mp secondEnds.named
      obtain ⟨firstParent, isFirst, firstAbsolute, firstNames⟩ :=
        Path.parent?_of_fileName? alike.firstAbsolute firstAtEnd
      obtain ⟨secondParent, isSecond, secondAbsolute, secondNames⟩ :=
        Path.parent?_of_fileName? alike.secondAbsolute secondAtEnd
      have names := alike.names
      rw [firstNames, secondNames] at names
      rw [looks, if_neg Bool.false_ne_true, if_neg Bool.false_ne_true, isFirst, isSecond]
      exact ⟨firstAbsolute, secondAbsolute, (List.append_inj' names rfl).1⟩

/-- Whether a directory exists is not asked. -/
theorem resolve_lexical (workingDirectory : Path) (directoryExists : Path → Bool) (base : Path)
    (configured : Option String) (fallback : String) :
    resolve workingDirectory directoryExists base configured fallback .lexical =
      (if looksLikeDirectory (candidate base configured).2 then
        (candidate base configured).1.join fallback
      else (candidate base configured).1).absolutize workingDirectory := by
  unfold resolve
  have lexical : decide (DirectoryCheck.lexical = .stat) = false := rfl
  dsimp only
  rw [lexical, Bool.false_and, Bool.or_false]

theorem resolve_stat (workingDirectory : Path) (directoryExists : Path → Bool) (base : Path)
    (configured : Option String) (fallback : String) :
    let path := (candidate base configured).1
    let text := (candidate base configured).2
    resolve workingDirectory directoryExists base configured fallback .stat =
      (if looksLikeDirectory text = true ∨ directoryExists path = true then path.join fallback
      else path).absolutize workingDirectory := by
  unfold resolve
  dsimp only
  rw [decide_eq_true rfl, Bool.true_and]
  congr 1
  exact if_congr Bool.or_eq_true_iff rfl rfl

theorem resolve_lexical_of_alike {first second : Path} (alike : Path.LeadsAlike first second)
    (looks : looksLikeDirectory first.text = looksLikeDirectory second.text)
    (workingDirectory : Path) (directoryExists : Path → Bool) (configured : Option String)
    (fallback : String) :
    resolve workingDirectory directoryExists first configured fallback .lexical =
      resolve workingDirectory directoryExists second configured fallback .lexical := by
  have sameText : looksLikeDirectory (candidate first configured).2 =
      looksLikeDirectory (candidate second configured).2 := by
    unfold candidate
    cases override? configured with
    | none => exact looks
    | some text => rfl
  have candidates : Path.LeadsAlike (candidate first configured).1
      (candidate second configured).1 := by
    unfold candidate
    cases override? configured with
    | none => exact alike
    | some text => exact (leadsAlike_baseDirectory alike looks).join text
  rw [resolve_lexical, resolve_lexical, sameText]
  split
  · exact (candidates.join fallback).absolutize_eq workingDirectory
  · exact candidates.absolutize_eq workingDirectory

/-! ### The normalized base -/

section Base

variable {base : Path} (absolute : base.isAbsolute = true) (workingDirectory : Path)

include absolute

theorem looksLikeDirectory_absolutize :
    looksLikeDirectory (base.absolutize workingDirectory).text =
      (base.absolutize workingDirectory).extension?.isNone := by
  apply looksLikeDirectory_of_isNormal
  rw [Path.absolutize_of_isAbsolute absolute]
  exact ⟨base.names, Path.areNames_names base, rfl⟩

/-- A base counts like its normalized form unless it ends in a slash or in `..` behind a name that
has an extension. -/
theorem looksLikeDirectory_absolutize_eq_iff :
    looksLikeDirectory (base.absolutize workingDirectory).text = looksLikeDirectory base.text ↔
      base.EndsInName ∨ (base.absolutize workingDirectory).extension? = none := by
  rw [looksLikeDirectory_absolutize absolute]
  constructor
  · intro same
    cases looks : looksLikeDirectory base.text with
    | false => exact Or.inl (endsInName_of_looksLikeFile looks).1
    | true =>
        rw [looks] at same
        exact Or.inr (Option.isNone_iff_eq_none.mp same)
  · rintro (ends | plain)
    · rw [looksLikeDirectory_of_endsInName ends,
        Path.extension?_absolutize absolute ends.named]
    · rw [plain]
      cases looks : looksLikeDirectory base.text with
      | true => rfl
      | false =>
          obtain ⟨ends, extended⟩ := endsInName_of_looksLikeFile looks
          rw [Path.extension?_absolutize absolute ends.named] at plain
          rw [plain] at extended
          cases extended

/-- A base that is taken for a directory, unlike its normalized form, has its outputs in it. -/
theorem resolve_lexical_of_unlike (directoryExists : Path → Bool)
    (unlike : ¬ (base.EndsInName ∨ (base.absolutize workingDirectory).extension? = none))
    (fallback : String) :
    resolve workingDirectory directoryExists (base.absolutize workingDirectory) none fallback
        .lexical = base.absolutize workingDirectory ∧
      resolve workingDirectory directoryExists base none fallback .lexical =
        (base.join fallback).absolutize workingDirectory := by
  obtain ⟨notEnds, extended⟩ := not_or.mp unlike
  have isFile : looksLikeDirectory (base.absolutize workingDirectory).text = false := by
    rw [looksLikeDirectory_absolutize absolute, Bool.eq_false_iff]
    exact fun plain => extended (Option.isNone_iff_eq_none.mp plain)
  have isDirectory : looksLikeDirectory base.text = true := by
    rw [← Bool.not_eq_false]
    exact fun looks => notEnds (endsInName_of_looksLikeFile looks).1
  have alike := Path.leadsAlike_absolutize absolute workingDirectory
  constructor
  · have own : candidate (base.absolutize workingDirectory) none =
        (base.absolutize workingDirectory, (base.absolutize workingDirectory).text) := rfl
    rw [resolve_lexical, own, isFile, if_neg Bool.false_ne_true]
    exact alike.absolutize_eq workingDirectory
  · have own : candidate base none = (base, base.text) := rfl
    rw [resolve_lexical, own, isDirectory, if_pos rfl]

end Base

end OutputPath

end RuleCompiler

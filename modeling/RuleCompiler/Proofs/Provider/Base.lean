import RuleCompiler.Proofs.Path.Output
import RuleCompiler.Provider.SharedFile

/-!
A provider is handed the normalized base of its outputs. Judged by text alone, that gives the paths
of the base itself if the base ends in a name, as it does for every destination that a provider of
the program has by default.
-/

namespace RuleCompiler

namespace Provider

theorem defaultDestination_endsInName {provider : Provider} (member : provider ∈ builtin) :
    (Path.mk provider.defaultDestination).EndsInName := by
  have all : ∀ provider ∈ builtin,
      (Path.mk provider.defaultDestination).fileName?.isSome = true ∧
        provider.defaultDestination.toList.getLast? ≠ some '/' := by
    decide +kernel
  obtain ⟨named, noSlash⟩ := all provider member
  exact ⟨named, noSlash⟩

end Provider

namespace OutputPath

/-- With an absolute path configured, the base is not looked at. -/
theorem resolve_lexical_of_absolute {configured : Option String} {text : String}
    (isSet : override? configured = some text) (alone : (Path.mk text).isAbsolute = true)
    (workingDirectory : Path) (directoryExists : Path → Bool) (first second : Path)
    (fallback : String) :
    resolve workingDirectory directoryExists first configured fallback .lexical =
      resolve workingDirectory directoryExists second configured fallback .lexical := by
  have candidateEq : ∀ base, candidate base configured = (⟨text⟩, text) := by
    intro base
    unfold candidate Path.join
    rw [isSet]
    dsimp only
    rw [if_pos (eq_of_beq alone)]
  rw [resolve_lexical, resolve_lexical, candidateEq, candidateEq]

/-- Normalizing the base keeps every output path exactly if the base ends in a name or its last
name, once it is normalized, has no extension. -/
theorem resolve_of_normalized_base {base : Path} (absolute : base.isAbsolute = true)
    (workingDirectory : Path) (directoryExists : Path → Bool) :
    let normalized := base.absolutize workingDirectory
    let resolved (start : Path) (configured : Option String) (fallback : String) : Path :=
      resolve workingDirectory directoryExists start configured fallback .lexical
    ((∀ configured fallback,
        resolved normalized configured fallback = resolved base configured fallback) ↔
      base.EndsInName ∨ normalized.extension? = none) ∧
    (∀ configured text fallback, override? configured = some text →
      (Path.mk text).isAbsolute = true →
        resolved normalized configured fallback = resolved base configured fallback) ∧
    (∀ (root : Path) (provider : Provider), base = root.join provider.defaultDestination →
      provider ∈ Provider.builtin ∨ (Path.mk provider.defaultDestination).EndsInName →
        ∀ configured fallback,
          resolved normalized configured fallback = resolved base configured fallback) := by
  intro normalized resolved
  have kept (known : base.EndsInName ∨ normalized.extension? = none) (configured : Option String)
      (fallback : String) :
      resolved normalized configured fallback = resolved base configured fallback :=
    resolve_lexical_of_alike (Path.leadsAlike_absolutize absolute workingDirectory)
      ((looksLikeDirectory_absolutize_eq_iff absolute workingDirectory).mpr known)
      workingDirectory directoryExists configured fallback
  refine ⟨⟨?_, kept⟩, ?_, ?_⟩
  · intro same
    by_contra unlike
    -- Taken for a directory, the base has the fallback in it; its normalized form is the output.
    obtain ⟨asFile, inDirectory⟩ :=
      resolve_lexical_of_unlike absolute workingDirectory directoryExists unlike "x"
    have isName : Path.IsName "x" := ⟨rfl, by decide, by decide⟩
    have pathEq := (asFile.symm.trans (same none "x")).trans inDirectory
    have names := congrArg (fun path => path.names.length) pathEq
    rw [Path.names_absolutize_of_isAbsolute absolute,
      Path.names_absolutize_of_isAbsolute (Path.isAbsolute_join absolute _),
      Path.names_join base isName, List.length_append, List.length_singleton] at names
    omega
  · intro configured text fallback isSet alone
    exact resolve_lexical_of_absolute isSet alone workingDirectory directoryExists normalized base
      fallback
  · intro root provider baseEq ends
    apply kept
    left
    rw [baseEq]
    exact Path.EndsInName.join root (ends.elim Provider.defaultDestination_endsInName id)

theorem resolve_of_normalized_base_of_cursor :
    let base := (Path.mk "/p/./docs/..").join Provider.Cursor.provider.defaultDestination
    base.isAbsolute = true ∧
    Provider.Cursor.provider ∈ Provider.builtin ∧
    base.absolutize ⟨"/"⟩ = ⟨"/p/.cursor/rules"⟩ ∧
    resolve ⟨"/"⟩ (fun _ => false) ⟨"/p/.cursor/rules"⟩ (some " ../x/ ") "a.mdc" .lexical =
      resolve ⟨"/"⟩ (fun _ => false) base (some " ../x/ ") "a.mdc" .lexical := by
  intro base
  have absolute : base.isAbsolute = true := by decide +kernel
  have member : Provider.Cursor.provider ∈ Provider.builtin := List.mem_cons_self
  have normalized : base.absolutize ⟨"/"⟩ = ⟨"/p/.cursor/rules"⟩ := by decide +kernel
  refine ⟨absolute, member, normalized, ?_⟩
  rw [← normalized]
  exact (resolve_of_normalized_base absolute ⟨"/"⟩ fun _ => false).2.2 _ _ rfl (Or.inl member) _ _

/-- A slash at the end of a base is lost, and with it what makes the base a directory. -/
theorem resolve_of_base_with_slash :
    let base : Path := ⟨"/out/rules.d/"⟩
    base.isAbsolute = true ∧
    resolve ⟨"/"⟩ (fun _ => false) base none "a.md" .lexical = ⟨"/out/rules.d/a.md"⟩ ∧
    resolve ⟨"/"⟩ (fun _ => false) (base.absolutize ⟨"/"⟩) none "a.md" .lexical =
      ⟨"/out/rules.d"⟩ := by
  decide +kernel

end OutputPath

end RuleCompiler

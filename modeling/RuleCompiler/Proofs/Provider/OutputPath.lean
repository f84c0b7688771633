import RuleCompiler.Proofs.FileTree.Growth
import RuleCompiler.Proofs.Path.Output
import RuleCompiler.Proofs.Provider.Accounting

/-!
Output paths once more. An output path is settled by texts, and where a provider asks for it, by the
directories that exist. Later, when more of them exist, it is settled in the same way, unless the
output itself has become a directory.
-/

namespace RuleCompiler

namespace Provider

variable {before after : FileTree}

theorem workingPath_grown (grows : FileTree.Grows before after) :
    after.workingPath = before.workingPath :=
  congrArg (Path.ofNames true) grows.workingDirectory

theorem pathUnder_lexical_grown (grows : FileTree.Grows before after) (base : Path)
    (configured : Option String) (fallback : String) :
    pathUnder base configured fallback .lexical after =
      pathUnder base configured fallback .lexical before := by
  unfold pathUnder OutputPath.resolve
  rw [workingPath_grown grows]
  rfl

theorem pathUnder_grown (linkFree : before.LinkFree) (grows : FileTree.Grows before after)
    {base : Path} (normal : base.IsNormal) (configured : Option String) (fallback : String)
    (notDirectory :
      ¬ after.IsDirectoryAt (pathUnder base configured fallback .stat before).names) :
    pathUnder base configured fallback .stat after =
      pathUnder base configured fallback .stat before := by
  have absolute := OutputPath.isAbsolute_candidate normal.isAbsolute configured
  unfold pathUnder OutputPath.resolve at notDirectory ⊢
  rw [workingPath_grown grows]
  generalize OutputPath.candidate base configured = candidate at absolute notDirectory ⊢
  obtain ⟨path, text⟩ := candidate
  dsimp only at absolute notDirectory ⊢
  cases isDirectory : before.isDirectory path with
  | true =>
      rw [FileTree.isDirectory_grown linkFree grows absolute isDirectory]
  | false =>
      rw [isDirectory] at notDirectory
      cases becomes : after.isDirectory path with
      | false => rfl
      | true =>
          -- Taken for a file, the path was the output itself, which is no directory.
          have named := FileTree.isDirectoryAt_names (grows.linkFree linkFree) absolute becomes
          cases looks : OutputPath.looksLikeDirectory text with
          | true => rfl
          | false =>
              rw [looks] at notDirectory
              rw [← Path.names_absolutize_of_isAbsolute absolute before.workingPath] at named
              exact absurd named notDirectory

theorem outputPath_grown {provider : Provider} (member : provider ∈ builtin)
    (linkFree : before.LinkFree) (grows : FileTree.Grows before after) {request : WriteRequest}
    (normal : request.destination.IsNormal)
    (notDirectory : ¬ after.IsDirectoryAt (provider.outputPath before request).names) :
    provider.outputPath after request = provider.outputPath before request := by
  simp only [builtin, List.mem_cons, List.not_mem_nil, or_false] at member
  rcases member with rfl | rfl | rfl | rfl | rfl | rfl | rfl | rfl
  · exact pathUnder_lexical_grown grows _ _ _
  · exact pathUnder_grown linkFree grows normal _ _ notDirectory
  · exact pathUnder_grown linkFree grows normal _ _ notDirectory
  · exact pathUnder_lexical_grown grows _ _ _
  · exact pathUnder_lexical_grown grows _ _ _
  · exact pathUnder_lexical_grown grows _ _ _
  · exact pathUnder_grown linkFree grows normal _ _ notDirectory
  · exact pathUnder_grown linkFree grows normal _ _ notDirectory

namespace Codex

theorem sharedPath_grown {own projectRoot : Path} (config : DestinationConfig)
    (normal : own.IsNormal) (notRoot : own.names ≠ []) (linkFree : before.LinkFree)
    (grows : FileTree.Grows before after)
    (notDirectory : ¬ after.IsDirectoryAt (sharedPath own projectRoot config before).names) :
    sharedPath own projectRoot config after = sharedPath own projectRoot config before := by
  obtain ⟨directory, isParent, directoryNormal⟩ := normal.parent?_isNormal notRoot
  unfold sharedPath at notDirectory ⊢
  rw [isParent, Option.getD_some] at notDirectory ⊢
  exact pathUnder_grown linkFree grows directoryNormal.parent?_getD _ _ notDirectory

end Codex

end Provider

end RuleCompiler

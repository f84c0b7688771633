import RuleCompiler.Proofs.Artifact.Calls
import RuleCompiler.Proofs.Provider.Accounting

/-!
The texts that a built-in provider persists for one write. All it does to the files is to persist
texts at normalized paths, one or, for Codex, two of them; and its answer is what came of these.
-/

namespace RuleCompiler.Provider

/-- A write answers with what came of its calls; when it is refused there are none. -/
def Answers (calls : List PersistCall) : Except ProviderError (List WrittenArtifact) → Prop
  | .ok written => Answered calls (.ok written)
  | .error (.write failure) => Answered calls (.error failure)
  | .error (.compile _) => calls = []
  | .error (.other _) => calls = []

theorem answers_single (path : Path) (contents : String) (mode : WriteMode)
    (answer : Except WriteError WrittenArtifact) :
    Answers [{ path, contents, mode, answer }]
      ((answer.mapError ProviderError.write).map fun told => [told]) := by
  cases answer with
  | ok told =>
      change [Except.ok told] = [Except.ok told]
      rfl
  | error failure => exact ⟨[], [], _, rfl, rfl, rfl⟩

theorem answers_two {own : WrittenArtifact} {ownCall : PersistCall}
    (succeeded : ownCall.answer = .ok own) (path : Path) (contents : String) (mode : WriteMode)
    (answer : Except WriteError WrittenArtifact) :
    Answers [ownCall, { path, contents, mode, answer }]
      ((answer.mapError ProviderError.write).map fun shared => [own, shared]) := by
  cases answer with
  | ok shared =>
      change [ownCall.answer, .ok shared] = [.ok own, .ok shared]
      rw [succeeded]
  | error failure =>
      refine ⟨[ownCall], [own], _, rfl, ?_, rfl⟩
      change [ownCall.answer] = [.ok own]
      rw [succeeded]

/-- A write persists texts at normalized paths and does nothing else to the files. -/
theorem write_persists {provider : Provider} (member : provider ∈ builtin) {request : WriteRequest}
    {workspace after : Workspace} {answer : Except ProviderError (List WrittenArtifact)}
    (ran : (provider.write request).run workspace = (answer, after)) :
    ∃ calls, Persists workspace calls after ∧ Answers calls answer ∧
      ∀ call ∈ calls, call.path.IsNormal := by
  have ownNormal := isNormal_outputPath member workspace.files request
  rcases write_cases member request workspace with
    ⟨findings, refused⟩ |
    ⟨contents, mode, persistAnswer, files, collected, log, persisted, one⟩ |
    ⟨_, own, made, path, contents, persistAnswer, files, collected, log, ownPersisted, shares,
      sharedPersisted, two⟩
  · rw [refused] at ran
    cases ran
    exact ⟨[], .quiet rfl, rfl, fun _ member => absurd member List.not_mem_nil⟩
  · rw [one] at ran
    cases ran
    refine ⟨_, .single persisted, answers_single _ _ _ _, ?_⟩
    intro call member
    rw [List.mem_singleton.mp member]
    exact ownNormal
  · rw [two] at ran
    cases ran
    have sharedNormal : path.IsNormal := by
      rw [shares]
      exact isNormal_pathUnder _ _ _ _ _
    let between : Workspace := { workspace with files := made }
    have first : Persists workspace [_] between := .single ownPersisted
    have second : Persists between [_] { files, collected, log } := .single sharedPersisted
    refine ⟨_, first.append second, answers_two rfl _ _ _ _, ?_⟩
    intro call member
    rcases List.mem_cons.mp member with isOwn | isShared
    · rw [isOwn]
      exact ownNormal
    · rw [List.mem_singleton.mp isShared]
      exact sharedNormal

end RuleCompiler.Provider

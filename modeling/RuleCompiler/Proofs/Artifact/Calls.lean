import RuleCompiler.Proofs.Artifact.Persist

/-!
The texts that are persisted, one after the other. Between two of them anything but the files may
change; so the files afterwards are those that the calls leave, each starting where the one before it
ended.
-/

namespace RuleCompiler

/-- One text that was persisted, and what came of it. -/
structure PersistCall where
  path : Path
  contents : String
  mode : WriteMode
  answer : Except WriteError WrittenArtifact

/-- From one workspace to another, the files are changed by these calls alone. -/
inductive Persists : Workspace → List PersistCall → Workspace → Prop
  | quiet {before after : Workspace} (same : after.files = before.files) : Persists before [] after
  | call {before middle later after : Workspace} {call : PersistCall} {calls : List PersistCall}
      (same : middle.files = before.files)
      (ran : (persist call.path call.contents call.mode).run middle = (call.answer, later))
      (rest : Persists later calls after) : Persists before (call :: calls) after

namespace Persists

variable {before middle after : Workspace} {calls more : List PersistCall}

theorem congr {start final : Workspace} (persists : Persists before calls after)
    (starts : start.files = before.files) (ends : final.files = after.files) :
    Persists start calls final := by
  induction persists generalizing start with
  | quiet same => exact .quiet (ends.trans (same.trans starts.symm))
  | call same ran _ ih => exact .call (same.trans starts.symm) ran (ih rfl ends)

theorem append (first : Persists before calls middle) (second : Persists middle more after) :
    Persists before (calls ++ more) after := by
  induction first with
  | quiet same => exact second.congr same.symm rfl
  | call same ran _ ih => exact .call same ran (ih second)

/-- One call, with the outcome of persisting. -/
theorem single {path : Path} {contents : String} {mode : WriteMode}
    {answer : Except WriteError WrittenArtifact}
    (persisted : Persist.outcome before.files path contents mode = (answer, after.files)) :
    Persists before [{ path, contents, mode, answer }] after := by
  obtain ⟨log, ran⟩ := persist_run path contents mode before
  rw [persisted] at ran
  exact .call rfl ran (.quiet rfl)

end Persists

/-- Calls that all succeeded told of these artifacts; those that ended in a failure stopped there. -/
def Answered (calls : List PersistCall) : Except WriteError (List WrittenArtifact) → Prop
  | .ok written => calls.map PersistCall.answer = written.map Except.ok
  | .error failure => ∃ (earlier : List PersistCall) (told : List WrittenArtifact) (last : PersistCall),
      calls = earlier ++ [last] ∧ earlier.map PersistCall.answer = told.map Except.ok ∧
        last.answer = .error failure

theorem Answered.mem_of_error {calls : List PersistCall} {failure : WriteError}
    (answered : Answered calls (.error failure)) :
    ∃ call ∈ calls, call.answer = .error failure := by
  obtain ⟨earlier, _, last, split, _, failed⟩ := answered
  refine ⟨last, ?_, failed⟩
  rw [split]
  exact List.mem_append_right earlier List.mem_cons_self

end RuleCompiler

import RuleCompiler.Proofs.Compilation.Run
import RuleCompiler.Proofs.Compilation.Stages

/-!
The partials that the engine is given in a run over any destinations, with any providers,
preparations and engine. The partials of the directories are read when the engine is first asked;
from then on the run carries them, so that what is written later does not change them. Those of a
preparation are never carried on.
-/

namespace RuleCompiler

namespace Compiler

section Renderings

variable (compiler : Compiler) (run : RunStamp) (document : Document) (project : ProjectConfig)
  (options : CompileOptions)

end Renderings

/-! ### What the run carries on -/

/-- The partials known to the run stay what they are, whatever the action does to the workspace. -/
def KeepsAmbient {α : Type} (action : RunAction α) : Prop :=
  ∀ state, (action.run state).2.ambient = state.ambient

theorem KeepsAmbient.pure {α : Type} (value : α) : KeepsAmbient (Pure.pure value) :=
  fun _ => rfl

theorem KeepsAmbient.get : KeepsAmbient get :=
  fun _ => rfl

theorem KeepsAmbient.attempt {ε α : Type} (change : ε → DestinationError) (action : Action ε α) :
    KeepsAmbient (RunState.attempt change action) := by
  intro state
  rw [RunState.attempt_run]

/-- What follows an action decides nothing about the known partials if it keeps them. -/
theorem ambient_bind {α β : Type} (action : RunAction α) {onward : α → RunAction β}
    (keeps : ∀ value, KeepsAmbient (onward value)) (state : RunState) :
    ((action >>= onward).run state).2.ambient = (action.run state).2.ambient := by
  rw [run_bind]
  rcases action.run state with ⟨cause | value, after⟩
  · rfl
  · exact keeps value after

theorem KeepsAmbient.bind {α β : Type} {action : RunAction α} {onward : α → RunAction β}
    (keeps : KeepsAmbient action) (next : ∀ value, KeepsAmbient (onward value)) :
    KeepsAmbient (action >>= onward) :=
  fun state => (ambient_bind action next state).trans (keeps state)

variable {compiler : Compiler} {run : RunStamp} {document : Document} {project : ProjectConfig}
  {options : CompileOptions}

end Compiler

end RuleCompiler

import RuleCompiler.Proofs.Compilation.Delivery
import RuleCompiler.Proofs.Compilation.Run

/-!
Failures that come before any effect. A destination that is unknown, cannot be prepared or rendered,
or is refused, leaves files and collections as they were; at most the partials of the directories
have been read early, from files that nobody has changed. So the other destinations of the
compilation end as they would have without it.
-/

namespace RuleCompiler

namespace Compiler

def discovers (document : Document) (project : ProjectConfig) (options : CompileOptions) : Bool :=
  (Templating.decide none document.frontmatter project).enabled && options.partials.isNone

/-- States from which the destinations of a compilation go on alike: files and collections are the
same, and so are the partials of the directories where rendering asks for them. -/
structure GoOnAlike (compiler : Compiler) (document : Document) (project : ProjectConfig)
    (options : CompileOptions) (first second : RunState) : Prop where
  workspace : first.workspace.Alike second.workspace
  seen : discovers document project options = true →
    compiler.seenPartials document first = compiler.seenPartials document second
  ambient : discovers document project options = false → first.ambient = second.ambient

variable {compiler : Compiler} {run again : RunStamp} {document : Document}
  {project : ProjectConfig} {options : CompileOptions} {first second third : RunState}

theorem GoOnAlike.trans (before : compiler.GoOnAlike document project options first second)
    (after : compiler.GoOnAlike document project options second third) :
    compiler.GoOnAlike document project options first third where
  workspace := before.workspace.trans after.workspace
  seen asked := (before.seen asked).trans (after.seen asked)
  ambient unasked := (before.ambient unasked).trans (after.ambient unasked)

theorem GoOnAlike.symm (alike : compiler.GoOnAlike document project options first second) :
    compiler.GoOnAlike document project options second first where
  workspace := alike.workspace.symm
  seen asked := (alike.seen asked).symm
  ambient unasked := (alike.ambient unasked).symm

theorem goOnAlike_of_alike {state : RunState} {workspace : Workspace}
    (alike : workspace.Alike state.workspace) :
    compiler.GoOnAlike document project options { state with workspace } state where
  workspace := alike
  seen _ := by
    unfold seenPartials
    rw [alike.files]
  ambient _ := rfl

theorem seenPartials_of_knownAfter {provider : Provider} (member : provider ∈ Provider.builtin)
    (asked : discovers document project options = true) {state after : RunState}
    (knows : after.ambient = compiler.knownAfter document options
      (settled provider document project).templating state) :
    compiler.seenPartials document after = compiler.seenPartials document state := by
  unfold discovers at asked
  rw [settled_templating member, knownAfter, asked, if_pos rfl] at knows
  unfold seenPartials at knows ⊢
  rw [knows, Option.getD_some]

theorem ambient_of_knownAfter {provider : Provider} (member : provider ∈ Provider.builtin)
    (unasked : discovers document project options = false) {state after : RunState}
    (knows : after.ambient = compiler.knownAfter document options
      (settled provider document project).templating state) :
    after.ambient = state.ambient := by
  unfold discovers at unasked
  rw [settled_templating member, knownAfter, unasked] at knows
  exact knows

theorem GoOnAlike.through {provider : Provider} (member : provider ∈ Provider.builtin)
    (alike : compiler.GoOnAlike document project options first second) {one other : RunState}
    (sameEffects : one.workspace.Alike other.workspace)
    (oneKnows : one.ambient = compiler.knownAfter document options
      (settled provider document project).templating first)
    (otherKnows : other.ambient = compiler.knownAfter document options
      (settled provider document project).templating second) :
    compiler.GoOnAlike document project options one other where
  workspace := sameEffects
  seen asked := by
    rw [seenPartials_of_knownAfter member asked oneKnows,
      seenPartials_of_knownAfter member asked otherKnows]
    exact alike.seen asked
  ambient unasked := by
    rw [ambient_of_knownAfter member unasked oneKnows,
      ambient_of_knownAfter member unasked otherKnows]
    exact alike.ambient unasked

theorem GoOnAlike.told (alike : compiler.GoOnAlike document project options first second)
    (run again : RunStamp) (source : String) (result : DestinationResult) :
    compiler.GoOnAlike document project options
      { first with workspace := (compiler.tellResult run source result first.workspace).2 }
      { second with workspace := (compiler.tellResult again source result second.workspace).2 } :=
  (goOnAlike_of_alike (onlyLogs_tellResult compiler run source result first.workspace)).trans
    (alike.trans
      (goOnAlike_of_alike
        (onlyLogs_tellResult compiler again source result second.workspace)).symm)

end Compiler

end RuleCompiler

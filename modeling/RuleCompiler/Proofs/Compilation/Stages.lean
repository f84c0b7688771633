import RuleCompiler.Proofs.Compilation.Delivery

/-!
The stages of a compilation for one destination, whatever the provider, its preparation and the
engine: what the engine is asked, what the provider is asked to write, and the write.
-/

namespace RuleCompiler

/-- What a template engine is asked. -/
structure RenderCall where
  body : String
  context : Value
  options : RenderOptions

namespace Compiler

section Stages

variable (compiler : Compiler) (run : RunStamp) (document : Document) (project : ProjectConfig)
  (options : CompileOptions) (provider : Provider)

/-- What the engine is asked for a destination; nothing if the body is not a template. -/
def call? (scope : DestinationScope) : RunAction (Option RenderCall) :=
  if scope.templating.enabled then do
    let partials ← compiler.partials document options scope.template
    return some
      { body := document.source.contents
        context := compiler.context run document scope
        options :=
          { helpers := scope.template.helpers
            partials
            strict := scope.template.strict.getD false
            noEscape := scope.template.noEscape.getD true } }
  else return none

/-- A destination up to where its body is rendered: what is settled for it, and what the engine is
asked. -/
def asked : RunAction (DestinationScope × Option RenderCall) := do
  let scope := scopeOf provider document project (← prepare provider document project)
  ExceptT.lift (RunState.act (tellTemplating provider.id scope.templating))
  let call ← compiler.call? run document options scope
  return (scope, call)

/-- The body for a destination: the engine's answer, or what the document has if it is not asked. -/
def answered (scope : DestinationScope) : Option RenderCall → RunAction String
  | some call =>
      RunState.attempt (DestinationError.rendering document.label scope.provider.id)
        (compiler.engine.render call.body call.context call.options)
  | none => return document.source.contents

/-- A destination up to its write: the templating decision, and what the provider is asked to
write. -/
def handed : RunAction (Templating.Decision × WriteRequest) := do
  let (scope, call) ← compiler.asked run document project options provider
  let content ← compiler.answered document scope call
  let workingDirectory := (← get).workspace.files.workingPath
  return (scope.templating, compiler.writeRequest workingDirectory document scope content)

theorem deliver_eq_handed :
    compiler.deliver run document project options provider = (do
      let (templating, request) ← compiler.handed run document project options provider
      let written ← RunState.attempt DestinationError.provider (provider.write request)
      return { written, templating }) := by
  unfold deliver handed asked content call? render
  simp only [bind_assoc, pure_bind]
  congr 1
  funext preparation
  congr 1
  funext told
  split
  · simp only [bind_assoc, pure_bind, answered]
  · simp only [pure_bind, answered]

end Stages

end Compiler

end RuleCompiler

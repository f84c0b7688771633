import RuleCompiler.Template.Render
import RuleCompiler.Workspace

/-!
Template engines. Compilation depends only on what an engine is asked: a body, the value that it is
rendered over, and the options of the rendering.
-/

namespace RuleCompiler

inductive TemplateError where
  | invalidPartial (name : String) (cause : Template.SyntaxError)
  | invalidBody (cause : Template.SyntaxError)
  | failed (cause : Template.RenderError)
  deriving DecidableEq, Repr

def TemplateError.message (wording : Wording) : TemplateError → String
  | .invalidPartial name cause =>
      "Invalid partial '" ++ name ++ "': " ++ wording.template cause.message
  | .invalidBody cause => wording.template cause.message
  | .failed cause => wording.template cause.message

structure RenderOptions where
  helpers : KeyedList Template.HelperFunction := []
  partials : KeyedList String := []
  strict : Bool := false
  noEscape : Bool := false

namespace Template

/-- Read the partials, in the order of their names. -/
def readPartials : List (String × String) → Except TemplateError (KeyedList (List Node))
  | [] => .ok []
  | (name, source) :: partials =>
      match Template.read true source with
      | .error cause => .error (.invalidPartial name cause)
      | .ok nodes => do return (name, nodes) :: (← readPartials partials)

def render (body : String) (context : Value) (options : RenderOptions) :
    Except TemplateError String := do
  let partials ← readPartials options.partials
  match Template.read false body with
  | .error cause => throw (.invalidBody cause)
  | .ok nodes =>
      let setup : Setup :=
        { helpers := options.helpers
          partials
          strict := options.strict
          escape := if options.noEscape then id else escaped }
      match renderOver setup context nodes with
      | .ok text => return text
      | .error cause => throw (.failed cause)

end Template

structure TemplateEngine where
  render : String → Value → RenderOptions → Action TemplateError String

/-- An engine whose answers are settled by what it is asked, and that changes nothing. -/
def TemplateEngine.IsPure (engine : TemplateEngine) : Prop :=
  ∀ body context options, ∃ answer, ∀ workspace,
    (engine.render body context options).run workspace = (answer, workspace)

/-- The engine that reads and renders templates as this library does. It has no partials that a
template defines itself or hands a block to, and no raw blocks. -/
def TemplateEngine.standard : TemplateEngine where
  render := fun body context options => Template.render body context options

end RuleCompiler

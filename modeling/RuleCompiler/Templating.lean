import RuleCompiler.Config.Project

/-!
Deciding whether a body is a template. The first of these decides: a preparation hook, the
document's `rule.template`, the project's `rule.template`, and the compiler that either names the
old way. Without any of them a body is not a template.
-/

namespace RuleCompiler.Templating

inductive Authority where
  | provider
  | frontmatter
  | project
  | legacyCompiler
  | standard
  deriving DecidableEq, Repr

def Authority.name : Authority → String
  | .provider => "provider"
  | .frontmatter => "frontmatter"
  | .project => "project"
  | .legacyCompiler => "legacy-compiler"
  | .standard => "default"

structure Decision where
  enabled : Bool
  authority : Authority
  deriving DecidableEq, Repr

def Decision.toValue (decision : Decision) : Value :=
  .ofFields [("enabled", .bool decision.enabled), ("authority", .string decision.authority.name)]

/-- The legacy compiler that stands for templates. -/
def templateCompiler : String := "handlebars"

/-- The compiler that the document names the old way, at the top or else under `rulesets`. Only
the first value found is looked at. -/
def documentCompiler? (frontmatter : Value) : Option String :=
  ((frontmatter.get? "compiler").or (frontmatter.at? ["rulesets", "compiler"])).bind
    Value.asString?

/-- Either the document or the project names the compiler that stands for templates. -/
def legacyEnabled (frontmatter : Value) (project : ProjectConfig) : Bool :=
  documentCompiler? frontmatter = some templateCompiler ||
    project.legacyCompiler? = some templateCompiler

def decide (force : Option Bool) (frontmatter : Value) (project : ProjectConfig) : Decision :=
  match force with
  | some forced => ⟨forced, .provider⟩
  | none =>
      match (frontmatter.at? ["rule", "template"]).bind Value.asBool? with
      | some flag => ⟨flag, .frontmatter⟩
      | none =>
          match project.ruleTemplate? with
          | some flag => ⟨flag, .project⟩
          | none =>
              if legacyEnabled frontmatter project then ⟨true, .legacyCompiler⟩
              else ⟨false, .standard⟩

end RuleCompiler.Templating

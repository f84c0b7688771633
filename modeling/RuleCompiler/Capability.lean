import RuleCompiler.Diagnostic

/-!
Capabilities: what a provider is able to do. The known ones form a closed set; any other id can
still be described and is then experimental.
-/

namespace RuleCompiler

structure Capability where
  id : String
  description : String
  experimental : Bool := false
  isOptional : Bool := false
  deriving DecidableEq, Repr

namespace Capability

def outputMarkdown := "output.markdown"
def outputMdc := "output.mdc"
def outputXml := "output.xml"
def frontmatterTranslate := "frontmatter.translate"
def ruleGlobs := "rule.globs"
def contentAggregate := "content.aggregate"
def sharedFile := "output.shared-file"
def atomicWrite := "write.atomic"
def templateHelpers := "template.helpers"

def known : List (String × String) :=
  [(outputMarkdown, "Emits markdown rule files"),
   (outputMdc, "Emits Cursor .mdc rule files"),
   (outputXml, "Emits XML-wrapped rule files"),
   (frontmatterTranslate, "Translates document frontmatter into destination metadata"),
   (ruleGlobs, "Scopes rules to file globs"),
   (contentAggregate, "Merges many documents into one artifact"),
   (sharedFile, "Emits a secondary file shared across documents"),
   (atomicWrite, "Persists through a temporary file and rename"),
   (templateHelpers, "Contributes helpers to the templating engine")]

def isKnown (id : String) : Bool :=
  (known.lookup id).isSome

def describe (id : String) : Capability :=
  match known.lookup id with
  | some description => { id, description }
  | none => { id, description := "Unrecognized capability '" ++ id ++ "'", experimental := true }

/-- The finding that a provider lacks a capability which its configuration asks for. -/
def unsupported (provider id : String) : Diagnostic :=
  { code := "capability.unsupported"
    severity := .error
    message := "Provider '" ++ provider ++ "' does not support capability '" ++ id ++ "'"
    expected := some id
    remediation :=
      ["Remove the option requiring '" ++ id ++ "' from the " ++ provider ++ " configuration"] }

def toValue (capability : Capability) : Value :=
  .ofFields
    [("id", .string capability.id),
     ("description", .string capability.description),
     ("experimental", .bool capability.experimental),
     ("optional", .bool capability.isOptional)]

def fields : Record.Field Capability := do
  let id ← Record.required "id" Value.asString?
  let description ← Record.required "description" Value.asString?
  let experimental ← Record.defaulted "experimental" false Value.asBool?
  let isOptional ← Record.defaulted "optional" false Value.asBool?
  return { id, description, experimental, isOptional }

def ofValue? : Value → Option Capability :=
  Record.read fields

end Capability

end RuleCompiler

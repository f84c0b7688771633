import RuleCompiler.Text.Piece
import RuleCompiler.Value

/-!
The project configuration: an object of any shape. It is looked up by key or by dotted path, and a
preparation hook may merge overrides into a copy of it for one destination. Merging goes field by
field through objects, to any depth; everywhere else the overlay replaces what was there.
-/

namespace RuleCompiler

namespace Value

mutual

def mergeOver (base : Value) : (overlay : Value) → Value
  | .object fields =>
      match base with
      | .object old => .object (mergeFieldsOver old fields)
      | _ => .object fields
  | overlay => overlay

/-- The fields of an overlay merged over an object, one after the other. -/
def mergeFieldsOver (base : Fields) : (overlay : List (String × Value)) → Fields
  | [] => base
  | (key, value) :: rest =>
      let merged := match base.get? key with
        | some old => mergeOver old value
        | none => value
      mergeFieldsOver (base.insert key merged) rest

end

end Value

structure ProjectConfig where
  fields : Fields := []
  deriving Repr

namespace ProjectConfig

/-- An object is a configuration; any other value counts as an empty one. -/
def ofValue : Value → ProjectConfig
  | .object fields => { fields }
  | _ => {}

def toValue (config : ProjectConfig) : Value :=
  .object config.fields

def get? (config : ProjectConfig) (key : String) : Option Value :=
  config.fields.get? key

/-- The value at a path whose keys are separated by dots. -/
def lookup? (config : ProjectConfig) (dotted : String) : Option Value :=
  config.toValue.at? (Text.pieces '.' dotted)

def providerBlock? (config : ProjectConfig) (provider : String) : Option Value :=
  config.toValue.at? ["providers", provider]

def ruleTemplate? (config : ProjectConfig) : Option Bool :=
  (config.lookup? "rule.template").bind Value.asBool?

/-- The compiler named the old way, under `rulesets` or else at the top. Only the first value
found is looked at. -/
def legacyCompiler? (config : ProjectConfig) : Option String :=
  ((config.lookup? "rulesets.compiler").or (config.get? "compiler")).bind Value.asString?

def mergedWith (config : ProjectConfig) (overrides : Value) : ProjectConfig :=
  ofValue (config.toValue.mergeOver overrides)

end ProjectConfig

end RuleCompiler

import RuleCompiler.Config.Project

/-!
The configuration of one destination: its blocks in the project configuration and in the
frontmatter, merged key by key, the more specific over the less specific. A nested `config` object
is merged in place, `enabled` is left out, and the older key `path` is kept as `outputPath`.
-/

namespace RuleCompiler

structure DestinationConfig where
  fields : Fields := []
  deriving Repr

namespace DestinationConfig

mutual

/-- Merge the entries of a block, in order. `hasOutputPath` tells whether the block itself has the
key `outputPath`, which then hides its `path`. -/
def mergeEntries (hasOutputPath : Bool) (merged : Fields) : List (String × Value) → Fields
  | [] => merged
  | entry :: rest => mergeEntries hasOutputPath (mergeEntry hasOutputPath merged entry) rest
termination_by structural entries => entries

def mergeEntry (hasOutputPath : Bool) (merged : Fields) : String × Value → Fields
  | (key, value) =>
      if key = "enabled" then merged
      else if key = "config" then mergeNested merged value
      else if key = "path" then
        if hasOutputPath then merged else merged.insert "outputPath" value
      else merged.insert key value
termination_by structural entry => entry

/-- Merge the block under `config`; what is not an object stands as it is. -/
def mergeNested (merged : Fields) : Value → Fields
  | .object nested => mergeEntries (KeyedList.contains nested "outputPath") merged nested
  | value => merged.insert "config" value
termination_by structural value => value

end

def mergeBlock (merged block : Fields) : Fields :=
  mergeEntries (block.contains "outputPath") merged block

/-- The blocks of a destination, the least specific first; values that are not objects say
nothing. -/
def layers (id : String) (frontmatter : Value) (config : ProjectConfig) : List Fields :=
  [config.providerBlock? id,
   frontmatter.at? ["destinations", id],
   frontmatter.at? ["providers", id],
   frontmatter.get? id].filterMap fun layer => layer.bind Value.asObject?

def resolve (id : String) (frontmatter : Value) (config : ProjectConfig) : DestinationConfig :=
  { fields := (layers id frontmatter config).foldl mergeBlock [] }

def toValue (config : DestinationConfig) : Value :=
  .object config.fields

def get? (config : DestinationConfig) (key : String) : Option Value :=
  config.fields.get? key

def string? (config : DestinationConfig) (key : String) : Option String :=
  (config.get? key).bind Value.asString?

def bool? (config : DestinationConfig) (key : String) : Option Bool :=
  (config.get? key).bind Value.asBool?

def outputOverride? (config : DestinationConfig) : Option String :=
  config.string? "outputPath"

def format? (config : DestinationConfig) : Option String :=
  config.string? "format"

end DestinationConfig

end RuleCompiler

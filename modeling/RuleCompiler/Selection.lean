import RuleCompiler.Config.Project

/-!
Choosing destinations. A document may exclude itself, may list its destinations, or else every
registered provider is chosen unless the first setting found for it disables it. The chosen ids are
always registered ones, in the order of registration.
-/

namespace RuleCompiler

inductive Setting where
  | disabled
  /-- A block of options that carries no flag. -/
  | implicit (block : Fields)
  | explicit (block : Fields)
  deriving Repr

/-- Where a setting is found: in a block made for providers, or directly at the top of the
frontmatter, where an empty object says nothing. -/
inductive SettingPlace where
  | provider
  | topLevel
  deriving DecidableEq, Repr

namespace Setting

def isEnabled : Setting → Bool
  | .disabled => false
  | _ => true

def decode (place : SettingPlace) : Value → Option Setting
  | .bool false => some .disabled
  | .bool true => some (.explicit [])
  | .object block =>
      match (KeyedList.get? block "enabled").bind Value.asBool? with
      | some false => some .disabled
      | some true => some (.explicit block)
      | none => if place = .provider || !block.isEmpty then some (.implicit block) else none
  | _ => none

/-- The places that can hold a setting, the most specific first. -/
def places (provider : String) (frontmatter : Value) (config : ProjectConfig) :
    List (SettingPlace × Option Value) :=
  [(.topLevel, frontmatter.get? provider),
   (.provider, frontmatter.at? ["providers", provider]),
   (.provider, config.providerBlock? provider)]

def resolve (provider : String) (frontmatter : Value) (config : ProjectConfig) : Option Setting :=
  (places provider frontmatter config).findSome? fun (place, value) => value.bind (decode place)

end Setting

namespace Selection

/-- The document says that it is no rule. -/
def isExcluded (frontmatter : Value) : Bool :=
  ((frontmatter.at? ["rule", "disabled"]).bind Value.asBool?).getD false

/-- The destinations that the document lists: an array, an object with an array `include`, or an
object with some registered id among its keys. -/
def listed? (frontmatter : Value) (registered : List String) : Option (List String) :=
  match frontmatter.get? "destinations" with
  | some (.array items) => some (registered.filter (Value.strings items).contains)
  | some (.object fields) =>
      match KeyedList.get? fields "include" with
      | some (.array items) => some (registered.filter (Value.strings items).contains)
      | _ =>
          if registered.any (KeyedList.contains fields) then
            some (registered.filter (KeyedList.contains fields))
          else none
  | _ => none

/-- No setting counts as enabled. -/
def isEnabled (frontmatter : Value) (config : ProjectConfig) (provider : String) : Bool :=
  match Setting.resolve provider frontmatter config with
  | some setting => setting.isEnabled
  | none => true

def select (frontmatter : Value) (config : ProjectConfig) (registered : List String) :
    List String :=
  if isExcluded frontmatter then []
  else
    match listed? frontmatter registered with
    | some chosen => chosen
    | none => registered.filter (isEnabled frontmatter config)

end Selection

end RuleCompiler

import RuleCompiler.Value

/-!
Reading records out of values. A record is an object, whose fields are found by name and whose
further fields are ignored, or an array that gives the fields in their order of declaration. A
field is required, may be null or missing, or has a default when it is missing; only in an array
can a field be missing at the end alone, and an array holds nothing after the last field.
-/

namespace RuleCompiler

/-- What is left of a record while its fields are read in order. -/
inductive Record where
  | named (fields : Fields)
  | placed (items : List Value)

namespace Record

abbrev Decoder (α : Type) := Value → Option α

/-- A reader of one field, leaving the record to the next. -/
abbrev Field (α : Type) := StateT Record Option α

/-- Take the next field: absent, or present with its value. -/
def next (name : String) : Field (Option Value) := fun record =>
  match record with
  | .named fields => some (fields.get? name, record)
  | .placed [] => some (none, record)
  | .placed (item :: items) => some (some item, .placed items)

def required {α : Type} (name : String) (decode : Decoder α) : Field α := do
  match ← next name with
  | some value => fun record => (decode value).map (·, record)
  | none => fun _ => none

/-- A field with a value to stand for it when it is missing. -/
def defaulted {α : Type} (name : String) (standIn : α) (decode : Decoder α) : Field α := do
  match ← next name with
  | some value => fun record => (decode value).map (·, record)
  | none => pure standIn

def nullable {α : Type} (decode : Decoder α) : Decoder (Option α)
  | .null => some none
  | value => (decode value).map some

def optional {α : Type} (name : String) (decode : Decoder α) : Field (Option α) :=
  defaulted name none (nullable decode)

def read {α : Type} (fields : Field α) : Decoder α
  | .object entries => (fields (.named entries)).map (·.1)
  | .array items =>
      match fields (.placed items) with
      | some (result, .placed []) => some result
      | _ => none
  | _ => none

def listOf {α : Type} (decode : Decoder α) : Decoder (List α)
  | .array items => items.mapM decode
  | _ => none

/-- A name out of a fixed set: a string, or an object with that only key over null. -/
def choice {α : Type} (named : String → Option α) : Decoder α
  | .string name => named name
  | .object [(name, .null)] => named name
  | _ => none

end Record

/-- The fields of a written record, those without a value left out. -/
def Value.ofPresent (entries : List (String × Option Value)) : Value :=
  .ofFields (entries.filterMap fun (name, value) => value.map (name, ·))

end RuleCompiler

import RuleCompiler.Binary64.Basic
import RuleCompiler.KeyedList

/-!
The values of frontmatter, configuration and reports: scalars, arrays and objects. An object holds
its fields in increasing order of their keys, each key once.
-/

namespace RuleCompiler

/-- An integer keeps its exact value; a number with a fraction or an exponent is binary. -/
inductive Number where
  | integer (value : Int)
  | float (value : Binary64)
  deriving DecidableEq, Repr

def Number.nearest : Number → Binary64
  | .integer value => .ofInt value
  | .float value => value

inductive Value where
  | null
  | bool (value : Bool)
  | number (value : Number)
  | string (text : String)
  | array (items : List Value)
  | object (fields : List (String × Value))
  deriving Repr, Inhabited

/-- The fields of an object, by increasing key. -/
abbrev Fields := KeyedList Value

namespace Value

mutual

def decEq : (left right : Value) → Decidable (left = right)
  | .null, .null => isTrue rfl
  | .bool a, .bool b =>
      if same : a = b then isTrue (same ▸ rfl) else isFalse fun equal => same (Value.bool.inj equal)
  | .number a, .number b =>
      if same : a = b then isTrue (same ▸ rfl)
      else isFalse fun equal => same (Value.number.inj equal)
  | .string a, .string b =>
      if same : a = b then isTrue (same ▸ rfl)
      else isFalse fun equal => same (Value.string.inj equal)
  | .array a, .array b =>
      match decEqItems a b with
      | isTrue same => isTrue (same ▸ rfl)
      | isFalse differ => isFalse fun equal => differ (Value.array.inj equal)
  | .object a, .object b =>
      match decEqFields a b with
      | isTrue same => isTrue (same ▸ rfl)
      | isFalse differ => isFalse fun equal => differ (Value.object.inj equal)
  | .null, .bool _ | .null, .number _ | .null, .string _ | .null, .array _ | .null, .object _
  | .bool _, .null | .bool _, .number _ | .bool _, .string _ | .bool _, .array _
  | .bool _, .object _ | .number _, .null | .number _, .bool _ | .number _, .string _
  | .number _, .array _ | .number _, .object _ | .string _, .null | .string _, .bool _
  | .string _, .number _ | .string _, .array _ | .string _, .object _ | .array _, .null
  | .array _, .bool _ | .array _, .number _ | .array _, .string _ | .array _, .object _
  | .object _, .null | .object _, .bool _ | .object _, .number _ | .object _, .string _
  | .object _, .array _ => isFalse fun equal => by cases equal

def decEqItems : (left right : List Value) → Decidable (left = right)
  | [], [] => isTrue rfl
  | [], _ :: _ => isFalse fun equal => by cases equal
  | _ :: _, [] => isFalse fun equal => by cases equal
  | a :: left, b :: right =>
      match decEq a b, decEqItems left right with
      | isTrue head, isTrue tail => isTrue (head ▸ tail ▸ rfl)
      | isFalse differ, _ => isFalse fun equal => differ (List.cons.inj equal).1
      | _, isFalse differ => isFalse fun equal => differ (List.cons.inj equal).2

def decEqFields : (left right : List (String × Value)) → Decidable (left = right)
  | [], [] => isTrue rfl
  | [], _ :: _ => isFalse fun equal => by cases equal
  | _ :: _, [] => isFalse fun equal => by cases equal
  | (k, a) :: left, (l, b) :: right =>
      if key : k = l then
        match decEq a b, decEqFields left right with
        | isTrue head, isTrue tail => isTrue (key ▸ head ▸ tail ▸ rfl)
        | isFalse differ, _ =>
            isFalse fun equal => differ (Prod.mk.inj (List.cons.inj equal).1).2
        | _, isFalse differ => isFalse fun equal => differ (List.cons.inj equal).2
      else isFalse fun equal => key (Prod.mk.inj (List.cons.inj equal).1).1

end

instance : DecidableEq Value := decEq

def asBool? : Value → Option Bool
  | .bool value => some value
  | _ => none

def asString? : Value → Option String
  | .string text => some text
  | _ => none

def asArray? : Value → Option (List Value)
  | .array items => some items
  | _ => none

def asObject? : Value → Option Fields
  | .object fields => some fields
  | _ => none

/-- The value under a key of an object; other values have no keys. -/
def get? (value : Value) (key : String) : Option Value :=
  match value with
  | .object fields => KeyedList.get? fields key
  | _ => none

def at? (value : Value) : List String → Option Value
  | [] => some value
  | key :: path => (value.get? key).bind fun inner => inner.at? path

def ofFields (entries : List (String × Value)) : Value :=
  .object (KeyedList.ofList entries)

def ofNat (value : Nat) : Value :=
  .number (.integer value)

def ofInt (value : Int) : Value :=
  .number (.integer value)

def ofString? : Option String → Value
  | some text => .string text
  | none => .null

def ofStrings (texts : List String) : Value :=
  .array (texts.map .string)

def strings (items : List Value) : List String :=
  items.filterMap asString?

end Value

end RuleCompiler

import RuleCompiler.Binary64.Decimal
import RuleCompiler.Template.Scope
import RuleCompiler.Text.Case

/-!
Helpers. A function gets its arguments as values, a missing one as null. The operations of
conditions and look-ups also see whether an argument is missing, which strict templates refuse, and
the controls decide how often the body of their block is rendered and over what.
-/

namespace RuleCompiler.Template

/-- A helper as a function of its arguments; it may fail with a message. -/
abbrev HelperFunction := List Value → Except String Value

/-! ### Text and comparison -/

/-- A string as it is, null as nothing, and other values as they are written in JSON. -/
def plainValue : Value → String
  | .string text => text
  | .null => ""
  | other => Json.compact other

def firstText (arguments : List Value) : String :=
  (arguments.head?.map plainValue).getD ""

/-- Numbers of one kind that are equal; the two zeros are. -/
def sameNumber : Number → Number → Bool
  | .integer x, .integer y => x == y
  | .float x, .float y => x == y || (x.isZero && y.isZero)
  | _, _ => false

mutual

/-- Equality of values: an integer never equals a number with a fraction. -/
def sameValue : Value → Value → Bool
  | .null, .null => true
  | .bool x, .bool y => x == y
  | .number x, .number y => sameNumber x y
  | .string x, .string y => x == y
  | .array x, .array y => sameItems x y
  | .object x, .object y => sameFields x y
  | _, _ => false

def sameItems : List Value → List Value → Bool
  | [], [] => true
  | x :: xs, y :: ys => sameValue x y && sameItems xs ys
  | _, _ => false

def sameFields : List (String × Value) → List (String × Value) → Bool
  | [], [] => true
  | (k, x) :: xs, (l, y) :: ys => k == l && sameValue x y && sameFields xs ys
  | _, _ => false

end

def areEqual : List Value → Except String Bool
  | x :: y :: _ => .ok (sameValue x y)
  | _ => .error "expects two arguments"

def onText (change : List Char → List Char) : HelperFunction := fun arguments =>
  .ok (.string (String.ofList (change (firstText arguments).toList)))

def joinItems : HelperFunction := fun arguments =>
  let between := (arguments[1]?.map plainValue).getD ", "
  .ok (.string (match arguments with
    | .array items :: _ => between.intercalate (items.map plainValue)
    | other :: _ => plainValue other
    | [] => ""))

def standardHelpers : KeyedList HelperFunction :=
  KeyedList.ofList
    [("uppercase", onText Text.upper),
     ("lowercase", onText Text.lower),
     ("capitalize", onText Text.capitalized),
     ("eq", fun arguments => do return .bool (← areEqual arguments)),
     ("ne", fun arguments => do return .bool !(← areEqual arguments)),
     ("json", fun arguments => .ok (.string (Json.compact (arguments.head?.getD .null)))),
     ("join", joinItems)]

/-! ### Conditions and look-ups -/

def numberUnits : Number → Int
  | .integer value => value * Nat.pow 2 1074
  | .float value => value.units

/-- The order of a number and the number that a text spells, if it spells one. -/
def numberAgainstText? (number : Number) (text : String) : Option Ordering := do
  let other ← Binary64.ofText? text.toList
  if other.isNan then none else some (compare number.nearest.units other.units)

/-- The order of two values: numbers by size, also where one is spelled as text, texts by their
characters, and false before true. -/
def order? : Value → Value → Option Ordering
  | .number x, .number y => some (compare (numberUnits x) (numberUnits y))
  | .string x, .string y => some (compare x y)
  | .bool x, .bool y => some (compare x y)
  | .number x, .string y => numberAgainstText? x y
  | .string x, .number y => (numberAgainstText? y x).map Ordering.swap
  | _, _ => none

/-- The number of items, of fields, or of bytes in UTF-8. -/
def valueLength : Value → Nat
  | .array items => items.length
  | .object fields => fields.length
  | .string text => text.utf8ByteSize
  | _ => 0

/-- The item or field that the second value names in the first. -/
def lookupIn : Value → Value → Value
  | .array items, .number (.integer index) =>
      if index < 0 then .null else items[index.toNat]?.getD .null
  | .object fields, .string key => (KeyedList.get? fields key).getD .null
  | _, _ => .null

inductive Operation where
  | both
  | either
  | negation
  | above
  | aboveOrSame
  | below
  | belowOrSame
  | length
  | lookup
  deriving DecidableEq, Repr

namespace Operation

def name : Operation → String
  | .both => "and"
  | .either => "or"
  | .negation => "not"
  | .above => "gt"
  | .aboveOrSame => "gte"
  | .below => "lt"
  | .belowOrSame => "lte"
  | .length => "len"
  | .lookup => "lookup"

def all : List Operation :=
  [.both, .either, .negation, .above, .aboveOrSame, .below, .belowOrSame, .length, .lookup]

def ofName? (name : String) : Option Operation :=
  all.find? fun operation => operation.name = name

/-- An argument that must be there; a strict template refuses one without a value too. -/
def required (strict : Bool) (operation : Operation) (arguments : List Found) (place : Nat) :
    Except RenderError Value :=
  match arguments[place]? with
  | some found =>
      if strict && found.value.isNone && operation ≠ .lookup then
        .error (.missingArgument operation.name place)
      else .ok found.get
  | none => .error (.missingArgument operation.name place)

def run (strict : Bool) (operation : Operation) (arguments : List Found) :
    Except RenderError Value := do
  let first ← operation.required strict arguments 0
  match operation with
  | .negation => return .bool !(isTruthy false first)
  | .length => return .ofNat (valueLength first)
  | _ =>
      let second ← operation.required strict arguments 1
      match operation with
      | .both => return .bool (isTruthy false first && isTruthy false second)
      | .either => return .bool (isTruthy false first || isTruthy false second)
      | .above => return .bool (order? first second == some .gt)
      | .aboveOrSame =>
          return .bool (order? first second == some .gt || order? first second == some .eq)
      | .below => return .bool (order? first second == some .lt)
      | .belowOrSame =>
          return .bool (order? first second == some .lt || order? first second == some .eq)
      | _ =>
          let found := lookupIn first second
          if strict && found = .null then throw (.missingValue none) else return found

end Operation

/-! ### Controls -/

inductive Control where
  | whenTrue
  | whenFalse
  | each
  | with
  | raw
  | log
  deriving DecidableEq, Repr

/-- What a control does with its block: render the body in these scopes, one after the other, or
render the other branch. -/
inductive Plan where
  | body (scopes : List Scope)
  | inverse

namespace Control

def ofName? : String → Option Control
  | "if" => some .whenTrue
  | "unless" => some .whenFalse
  | "each" => some .each
  | "with" => some .with
  | "raw" => some .raw
  | "log" => some .log
  | _ => none

def name : Control → String
  | .whenTrue => "if"
  | .whenFalse => "unless"
  | .each => "each"
  | .with => "with"
  | .raw => "raw"
  | .log => "log"

def itemBlock (stored : Bool) (names : List String) (count place : Nat)
    (key : String × Value) (item : Value) : Block :=
  let found : Found := { value := some item, stored }
  { base := item
    stored
    loopValues :=
      [key, ("first", .bool (place == 0)), ("last", .bool (place + 1 == count))]
    names :=
      match names with
      | [name] => [(name, found)]
      | name :: second :: _ => [(second, .made key.2), (name, found)]
      | [] => [] }

def arrayScopes (scope : Scope) (stored : Bool) (names : List String) (items : List Value) :
    List Scope :=
  items.zipIdx.map fun (item, place) =>
    scope.enter (itemBlock stored names items.length place ("index", .ofNat place) item)

def fieldScopes (scope : Scope) (stored : Bool) (names : List String) (fields : Fields) :
    List Scope :=
  fields.zipIdx.map fun ((key, item), place) =>
    scope.enter (itemBlock stored names fields.length place ("key", .string key) item)

/-- A value that has no body to render; a strict template needs another branch then. -/
def absent (strict hasInverse : Bool) : Except RenderError Plan :=
  if hasInverse then .ok .inverse
  else if strict then .error (.missingValue none)
  else .ok (.body [])

def planOver (strict hasInverse : Bool) (scope : Scope) (control : Control) (zeroCounts : Bool)
    (names : List String) (found : Found) : Except RenderError Plan :=
  match control with
  | .whenTrue => .ok (if isTruthy zeroCounts found.get then .body [scope] else .inverse)
  | .whenFalse => .ok (if isTruthy zeroCounts found.get then .inverse else .body [scope])
  | .each =>
      match found.get with
      | .array items =>
          if items.isEmpty && hasInverse then .ok .inverse
          else .ok (.body (arrayScopes scope found.stored names items))
      | .object fields =>
          if fields.isEmpty && hasInverse then .ok .inverse
          else .ok (.body (fieldScopes scope found.stored names fields))
      | _ => absent strict hasInverse
  | .with =>
      if isTruthy false found.get then
        .ok (.body [scope.enter
          { base := found.get
            stored := found.stored
            names := match names with
              | [name] => [(name, found)]
              | _ => [] }])
      else absent strict hasInverse
  | .raw => .ok (.body [scope])
  | .log => .ok (.body [])

def plan (strict hasInverse : Bool) (scope : Scope) (control : Control) (arguments : List Found)
    (options : List (String × Found)) (names : List String) : Except RenderError Plan :=
  let zeroCounts := ((options.lookup "includeZero").bind fun found => found.get.asBool?).getD false
  match control, arguments with
  | .raw, _ | .log, _ => control.planOver strict hasInverse scope zeroCounts names .missing
  | _, found :: _ => control.planOver strict hasInverse scope zeroCounts names found
  | _, [] => .error (.missingArgument control.name 0)

end Control

inductive Helper where
  | function (run : HelperFunction)
  | operation (operation : Operation)
  | control (control : Control)

end RuleCompiler.Template

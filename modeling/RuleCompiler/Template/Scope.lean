import RuleCompiler.Json.Reader
import RuleCompiler.Json.Writer
import RuleCompiler.Template.Basic

/-!
Scopes: the values that a template sees. The current value lies in the innermost block; blocks
further out are reached by steps upward, and names that a block gives to its values are seen in all
blocks inside it.
-/

namespace RuleCompiler.Template

inductive RenderError where
  | unknownHelper (name : String)
  | helperFailed (name message : String)
  | missingArgument (helper : String) (place : Nat)
  | missingValue (reference : Option String)
  | notAnIndex (key : String)
  | unknownPartial (name : String)
  | includesItself (name : String)
  | nestedTooDeep
  /-- What another engine says. -/
  | refused (message : String)
  deriving DecidableEq, Repr

def RenderError.message : RenderError → String
  | .unknownHelper name => "no helper '" ++ name ++ "'"
  | .helperFailed name message => "helper '" ++ name ++ "': " ++ message
  | .missingArgument helper place =>
      "'" ++ helper ++ "' has no argument " ++ toString place
  | .missingValue (some reference) => "no value at '" ++ reference ++ "'"
  | .missingValue none => "no value"
  | .notAnIndex key => "'" ++ key ++ "' is no index of an array"
  | .unknownPartial name => "no partial '" ++ name ++ "'"
  | .includesItself name => "partial '" ++ name ++ "' includes itself"
  | .nestedTooDeep => "partials are nested too deep"
  | .refused message => message

/-- What an argument comes to. A stored value is one of the value that the whole template is
rendered over, in its place. -/
structure Found where
  value : Option Value
  stored : Bool := false

namespace Found

def missing : Found := { value := none }

def made (value : Value) : Found := { value := some value }

def get (found : Found) : Value :=
  found.value.getD .null

end Found

/-- A block: its current value, the variables of its loop, and the names that it gives. -/
structure Block where
  base : Value
  stored : Bool
  loopValues : List (String × Value) := []
  names : List (String × Found) := []

structure Scope where
  root : Value
  innermost : Block
  outer : List Block := []

namespace Scope

def initial (root : Value) : Scope :=
  { root, innermost := { base := root, stored := true } }

def blocks (scope : Scope) : List Block :=
  scope.innermost :: scope.outer

def enter (scope : Scope) (block : Block) : Scope :=
  { scope with innermost := block, outer := scope.blocks }

def alone (scope : Scope) (block : Block) : Scope :=
  { scope with innermost := block, outer := [] }

/-- An index of 64 bits: digits, perhaps after a plus sign. -/
def index? (key : String) : Option Nat :=
  let digits := match key.toList with
    | '+' :: digits => digits
    | digits => digits
  let index := Text.decimalValue digits
  if !digits.isEmpty && digits.all Char.isDigit && index ≤ Json.maxUnsigned then some index
  else none

/-- The value at the end of a path of names. An array takes indices only. -/
def follow (value : Value) : (names : List String) → Except RenderError (Option Value)
  | [] => .ok (some value)
  | name :: names =>
      match value with
      | .array items =>
          match index? name with
          | none => .error (.notAnIndex name)
          | some index =>
              match items[index]? with
              | some item => follow item names
              | none => .ok none
      | .object fields =>
          match KeyedList.get? fields name with
          | some inner => follow inner names
          | none => .ok none
      | _ => .ok none

/-- What a block further in or out calls by this name. -/
def named? (scope : Scope) (name : String) : Option Found :=
  scope.blocks.findSome? fun block => block.names.lookup name

/-- The block so many levels out; the innermost when there is none. -/
def blockAt (scope : Scope) (level : Nat) : Block :=
  scope.blocks[level]?.getD scope.innermost

/-- The value at the end of a route. A name that a block gives is looked for first, in all blocks;
after steps upward it also counts as a field of what it names. -/
def find (scope : Scope) (route : Route) : Except RenderError Found :=
  match route with
  | .loopVariable level name =>
      .ok { value := scope.blocks[level]?.bind fun block => block.loopValues.lookup name }
  | .fromRoot names => do
      return { value := ← follow scope.root names, stored := true }
  | .fromBlock level names => do
      match names.head?.bind scope.named? with
      | some found =>
          let names := if level = 0 then names.tail else names
          return { value := ← follow found.get names, stored := found.stored }
      | none =>
          let block := scope.blockAt level
          return { value := ← follow block.base names, stored := block.stored }

end Scope

/-! ### Values as text and as conditions -/

mutual

def valueText : Value → String
  | .null => ""
  | .bool value => if value then "true" else "false"
  | .number number => number.text
  | .string text => text
  | .array items => "[" ++ ", ".intercalate (itemTexts items) ++ "]"
  | .object _ => "[object]"

def itemTexts : List Value → List String
  | [] => []
  | item :: items => valueText item :: itemTexts items

end

/-- A number that is neither zero nor closer to zero than the smallest normal one. -/
def isNormal : Number → Bool
  | .integer value => value != 0
  | .float value => value.isFinite && value.exponentField != 0

/-- Whether a value counts as true. Zero does when it is said to. -/
def isTruthy (zeroCounts : Bool) : Value → Bool
  | .null => false
  | .bool value => value
  | .number number => zeroCounts || isNormal number
  | .string text => text ≠ ""
  | .array items => !items.isEmpty
  | .object fields => !fields.isEmpty

end RuleCompiler.Template

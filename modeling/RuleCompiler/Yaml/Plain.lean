import RuleCompiler.Yaml.Cursor
import RuleCompiler.Binary64.Decimal

/-!
What plain scalars mean: null, a truth value, an integer, a number, or else the text itself.
Integers may have a sign and may be hexadecimal, octal or binary; digits after a leading zero make
a text. A number too large for the binary format is a text as well.
-/

namespace RuleCompiler.Yaml

def isNullText (text : List Char) : Bool :=
  ["null", "Null", "NULL", "~"].contains (String.ofList text)

def boolOf? (text : List Char) : Option Bool :=
  match String.ofList text with
  | "true" | "True" | "TRUE" => some true
  | "false" | "False" | "FALSE" => some false
  | _ => none

def digitsValue? (base : Nat) (digits : List Char) : Option Nat :=
  if digits.isEmpty then none
  else
    digits.foldlM (fun value c => do
      let digit ← Text.hexDigit? c
      if digit < base then some (value * base + digit) else none) 0

def dropPlus : List Char → List Char
  | '+' :: rest => rest
  | text => text

def startsWithSign : List Char → Bool
  | '+' :: _ | '-' :: _ => true
  | _ => false

/-- A zero with further digits after it, and maybe a sign before it. -/
def isZeroLed (text : List Char) : Bool :=
  let unsigned := match text with
    | '+' :: rest | '-' :: rest => rest
    | _ => text
  match unsigned with
  | '0' :: c :: rest => (c :: rest).all Char.isDigit
  | _ => false

/-- Digits after the mark of their base. -/
def basedValue? : List Char → Option Nat
  | '0' :: 'x' :: digits => digitsValue? 16 digits
  | '0' :: 'o' :: digits => digitsValue? 8 digits
  | '0' :: 'b' :: digits => digitsValue? 2 digits
  | _ => none

def integerOf? (text : List Char) : Option Int :=
  match text with
  | '-' :: digits =>
      match basedValue? digits with
      | some value => some (-(value : Int))
      | none =>
          if isZeroLed text then none else (digitsValue? 10 digits).map fun value => -(value : Int)
  | _ =>
      let digits := dropPlus text
      match basedValue? digits with
      | some value => some value
      | none => if isZeroLed text then none else (digitsValue? 10 digits).map Int.ofNat

def floatOf? (text : List Char) : Option Binary64 :=
  let unsigned := dropPlus text
  if text.head? = some '+' && startsWithSign unsigned then none
  else if [".inf", ".Inf", ".INF"].contains (String.ofList unsigned) then
    some (.infinity false)
  else if ["-.inf", "-.Inf", "-.INF"].contains (String.ofList text) then some (.infinity true)
  else if [".nan", ".NaN", ".NAN"].contains (String.ofList text) then some .nan
  else (Binary64.ofText? unsigned).filter Binary64.isFinite

inductive PlainMeaning where
  | null
  | bool (value : Bool)
  | integer (value : Int)
  | float (value : Binary64)
  | text
  deriving DecidableEq, Repr

/-- Integers past these bounds are too large even to be refused, and are read as numbers. -/
def isWideInteger (value : Int) : Bool :=
  -(Nat.pow 2 127 : Nat) ≤ value && value < Nat.pow 2 128

def plainMeaning (text : List Char) : PlainMeaning :=
  if text.isEmpty || isNullText text then .null
  else
    match boolOf? text with
    | some value => .bool value
    | none =>
        match (integerOf? text).filter isWideInteger with
        | some value => .integer value
        | none =>
            if isZeroLed text then .text
            else
              match floatOf? text with
              | some value => .float value
              | none => .text

/-- The integers that a value can hold. -/
def isStorable (value : Int) : Bool :=
  -(Nat.pow 2 63 : Nat) ≤ value && value < Nat.pow 2 64

end RuleCompiler.Yaml

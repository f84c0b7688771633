/-!
Numerals, the most significant digit first: decimal ones, and hexadecimal ones. Hexadecimal digits are
written in lower case and read in either case; a byte has two.
-/

namespace RuleCompiler.Text

def digitValue (c : Char) : Nat :=
  c.toNat - '0'.toNat

/-- The number that digits spell; zero where there are none. -/
def decimalValue (digits : List Char) : Nat :=
  digits.foldl (fun value c => value * 10 + digitValue c) 0

def hexDigit? (c : Char) : Option Nat :=
  if '0' ≤ c ∧ c ≤ '9' then some (c.toNat - '0'.toNat)
  else if 'a' ≤ c ∧ c ≤ 'f' then some (c.toNat - 'a'.toNat + 10)
  else if 'A' ≤ c ∧ c ≤ 'F' then some (c.toNat - 'A'.toNat + 10)
  else none

def isHexDigit (c : Char) : Bool :=
  (hexDigit? c).isSome

/-- The last `count` digits of a number. -/
def hexDigits (value : Nat) : (count : Nat) → List Char
  | 0 => []
  | count + 1 => hexDigits (value / 16) count ++ [Nat.digitChar (value % 16)]

def hexNumber? (digits : List Char) : Option Nat :=
  digits.foldlM (fun value c => (hexDigit? c).map (value * 16 + ·)) 0

def hexOfBytes (bytes : List UInt8) : String :=
  String.ofList (bytes.flatMap fun byte => hexDigits byte.toNat 2)

/-- The bytes that pairs of digits spell; none when a digit is missing or is no digit. -/
def bytesOfHex? : List Char → Option (List UInt8)
  | [] => some []
  | high :: low :: rest => do
      let value ← hexNumber? [high, low]
      return UInt8.ofNat value :: (← bytesOfHex? rest)
  | [_] => none

end RuleCompiler.Text

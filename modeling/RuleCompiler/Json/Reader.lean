import RuleCompiler.Text.Numeral
import RuleCompiler.Value

/-!
Reading JSON text. Objects may repeat a key, the last one counts; containers nest at most 127 deep.
An integer that fits 64 bits, signed or unsigned, is exact, and any other number is binary: the
first digits that fit 64 bits are taken as an integer and scaled by one power of ten.
-/

namespace RuleCompiler.Json

inductive ReadError where
  | unexpectedEnd
  | unexpected (c : Char)
  | controlInString
  | badEscape
  | numberOutOfRange
  | tooDeep
  | trailing
  deriving DecidableEq, Repr

def isSpace (c : Char) : Bool :=
  c == ' ' || c == '\n' || c == '\t' || c == '\r'

def skipSpace (text : List Char) : List Char :=
  text.dropWhile isSpace

/-- The greatest integer that a number can hold exactly. -/
def maxUnsigned : Nat := Nat.pow 2 64 - 1

/-- Append decimal digits to `value` as long as the result fits 64 bits; also the number of
digits taken. -/
def takeFitting (value : Nat) : List Char → Nat × Nat
  | [] => (value, 0)
  | c :: digits =>
      let next := value * 10 + Text.digitValue c
      if next ≤ maxUnsigned then
        let (final, taken) := takeFitting next digits
        (final, taken + 1)
      else (value, 0)

/-- Scale an integer by a power of ten: one multiplication or division where the power is at
most `10 ^ 308`, and steps of `10 ^ -308` below that. -/
def scaled (fuel : Nat) (value : Binary64) (power : Int) : Except ReadError Binary64 :=
  if power.natAbs ≤ 308 then
    if power ≥ 0 then
      let product := value.times (.ofDecimal false 1 power)
      if product.isFinite then .ok product else .error .numberOutOfRange
    else .ok (value.quotient (.ofDecimal false 1 (-power)))
  else if value.isZero then .ok value
  else if power ≥ 0 then .error .numberOutOfRange
  else
    match fuel with
    | 0 => .ok (.zero false)
    | fuel + 1 => scaled fuel (value.quotient (.ofDecimal false 1 308)) (power + 308)

structure NumberText where
  negative : Bool
  whole : List Char
  fraction : Option (List Char)
  exponent : Option (Bool × List Char)
  deriving Repr

def maxExponent : Nat := Nat.pow 2 31 - 1

def NumberText.writtenExponent (number : NumberText) : Int :=
  match number.exponent with
  | none => 0
  | some (negative, digits) =>
      let value : Int := digits.foldl (fun sum c => min (sum * 10 + Text.digitValue c) (maxExponent + 1)) 0
      if negative then -value else value

def NumberText.value (number : NumberText) : Except ReadError Number := do
  let (whole, taken) := takeFitting 0 number.whole
  let dropped := number.whole.length - taken
  if number.fraction.isNone && number.exponent.isNone && dropped == 0 then
    if !number.negative then return .integer whole
    if whole ≠ 0 ∧ whole ≤ Nat.pow 2 63 then return .integer (-(whole : Int))
  let (significand, places) := takeFitting whole (number.fraction.getD [])
  let exponent := number.writtenExponent
  let magnitude ←
    if exponent.natAbs > maxExponent then
      if significand ≠ 0 ∧ exponent > 0 then .error .numberOutOfRange else pure (.zero false)
    else scaled 8 (.ofNat significand) ((dropped : Int) - (places : Int) + exponent)
  return .float (if number.negative then magnitude.negate else magnitude)

def digitRun (text : List Char) : Except ReadError (List Char × List Char) :=
  match text with
  | [] => .error .unexpectedEnd
  | c :: _ =>
      if c.isDigit then .ok (text.takeWhile Char.isDigit, text.dropWhile Char.isDigit)
      else .error (.unexpected c)

/-- A number and what follows it. A leading zero stands alone. -/
def readNumber (text : List Char) : Except ReadError (Number × List Char) := do
  let (negative, text) := match text with
    | '-' :: rest => (true, rest)
    | _ => (false, text)
  let (whole, text) ← digitRun text
  if let '0' :: second :: _ := whole then throw (.unexpected second)
  let (fraction, text) ← match text with
    | '.' :: rest => do
        let (digits, rest) ← digitRun rest
        pure (some digits, rest)
    | _ => pure (none, text)
  let (exponent, text) ←
    match text with
    | c :: rest =>
        if c == 'e' || c == 'E' then do
          let (negative, rest) := match rest with
            | '+' :: rest => (false, rest)
            | '-' :: rest => (true, rest)
            | _ => (false, rest)
          let (digits, rest) ← digitRun rest
          pure (some (negative, digits), rest)
        else pure (none, text)
    | [] => pure (none, text)
  let value ← NumberText.value { negative, whole, fraction, exponent }
  return (value, text)

def codeUnit? (a b c d : Char) : Option Nat :=
  Text.hexNumber? [a, b, c, d]

def escaped? (c : Char) : Option Char :=
  match c with
  | '"' | '\\' | '/' => some c
  | 'b' => some '\x08'
  | 'f' => some '\x0c'
  | 'n' => some '\n'
  | 'r' => some '\r'
  | 't' => some '\t'
  | _ => none

def isHighHalf (unit : Nat) : Bool :=
  0xD800 ≤ unit && unit ≤ 0xDBFF

def isLowHalf (unit : Nat) : Bool :=
  0xDC00 ≤ unit && unit ≤ 0xDFFF

def pairedChar (high low : Nat) : Char :=
  Char.ofNat (0x10000 + (high - 0xD800) * 0x400 + (low - 0xDC00))

/-- The rest of a string after its opening quote, appended to `read` in reverse, and what follows
the closing quote. A code unit of the upper half needs its lower half next to it. -/
def readString (read : List Char) : List Char → Except ReadError (List Char × List Char)
  | '"' :: rest => .ok (read.reverse, rest)
  | '\\' :: 'u' :: a :: b :: c :: d :: rest =>
      match codeUnit? a b c d with
      | none => .error .badEscape
      | some unit =>
          if isLowHalf unit then .error .badEscape
          else if isHighHalf unit then
            match rest with
            | '\\' :: 'u' :: e :: f :: g :: h :: rest =>
                match codeUnit? e f g h with
                | none => .error .badEscape
                | some low =>
                    if isLowHalf low then readString (pairedChar unit low :: read) rest
                    else .error .badEscape
            | _ => .error .badEscape
          else readString (Char.ofNat unit :: read) rest
  | '\\' :: c :: rest =>
      match escaped? c with
      | some plain => readString (plain :: read) rest
      | none => .error .badEscape
  | c :: rest =>
      if c = '\\' then .error .unexpectedEnd
      else if c.toNat < 0x20 then .error .controlInString
      else readString (c :: read) rest
  | [] => .error .unexpectedEnd

/-- The rest of the text after a word it must start with. -/
def expectWord (word text : List Char) : Except ReadError (List Char) :=
  match word, text with
  | [], rest => .ok rest
  | _ :: _, [] => .error .unexpectedEnd
  | w :: word, c :: rest => if w = c then expectWord word rest else .error (.unexpected c)

mutual

/-- A value and what follows it. `depth` containers may still be opened; `fuel` exceeds the number
of characters left. -/
def readValue (fuel depth : Nat) (text : List Char) : Except ReadError (Value × List Char) :=
  match fuel with
  | 0 => .error .unexpectedEnd
  | fuel + 1 =>
      match skipSpace text with
      | [] => .error .unexpectedEnd
      | 'n' :: rest => do return (.null, ← expectWord ['u', 'l', 'l'] rest)
      | 't' :: rest => do return (.bool true, ← expectWord ['r', 'u', 'e'] rest)
      | 'f' :: rest => do return (.bool false, ← expectWord ['a', 'l', 's', 'e'] rest)
      | '"' :: rest => do
          let (chars, rest) ← readString [] rest
          return (.string (String.ofList chars), rest)
      | '[' :: rest =>
          match depth with
          | 0 => .error .tooDeep
          | depth + 1 =>
              match skipSpace rest with
              | ']' :: rest => .ok (.array [], rest)
              | rest => do
                  let (items, rest) ← readItems fuel depth rest
                  return (.array items, rest)
      | '{' :: rest =>
          match depth with
          | 0 => .error .tooDeep
          | depth + 1 =>
              match skipSpace rest with
              | '}' :: rest => .ok (.object [], rest)
              | rest => do
                  let (entries, rest) ← readFields fuel depth rest
                  return (.ofFields entries, rest)
      | c :: rest =>
          if c == '-' || c.isDigit then do
            let (number, rest) ← readNumber (c :: rest)
            return (.number number, rest)
          else .error (.unexpected c)

def readItems (fuel depth : Nat) (text : List Char) : Except ReadError (List Value × List Char) :=
  match fuel with
  | 0 => .error .unexpectedEnd
  | fuel + 1 => do
      let (item, rest) ← readValue fuel depth text
      match skipSpace rest with
      | ']' :: rest => return ([item], rest)
      | ',' :: rest =>
          let (items, rest) ← readItems fuel depth rest
          return (item :: items, rest)
      | c :: _ => throw (.unexpected c)
      | [] => throw .unexpectedEnd

def readFields (fuel depth : Nat) (text : List Char) :
    Except ReadError (List (String × Value) × List Char) :=
  match fuel with
  | 0 => .error .unexpectedEnd
  | fuel + 1 =>
      match skipSpace text with
      | '"' :: rest => do
          let (key, rest) ← readString [] rest
          match skipSpace rest with
          | ':' :: rest =>
              let (value, rest) ← readValue fuel depth rest
              let entry := (String.ofList key, value)
              match skipSpace rest with
              | '}' :: rest => return ([entry], rest)
              | ',' :: rest =>
                  let (entries, rest) ← readFields fuel depth rest
                  return (entry :: entries, rest)
              | c :: _ => throw (.unexpected c)
              | [] => throw .unexpectedEnd
          | c :: _ => throw (.unexpected c)
          | [] => throw .unexpectedEnd
      | c :: _ => .error (.unexpected c)
      | [] => .error .unexpectedEnd

end

def read (text : String) : Except ReadError Value := do
  let chars := text.toList
  let (value, rest) ← readValue (2 * chars.length + 2) 127 chars
  match skipSpace rest with
  | [] => return value
  | _ => throw .trailing

end RuleCompiler.Json

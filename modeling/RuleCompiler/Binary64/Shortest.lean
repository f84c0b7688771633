import RuleCompiler.Binary64.Basic

/-!
The shortest decimal text of a finite binary number: the fewest digits that read back as the same
number, and of those the nearest. It is written in positional notation while the point stands
within sixteen places to the right or five to the left of the first digit, with a digit after
the point; otherwise with a signed exponent.
-/

namespace RuleCompiler.Binary64

/-- A positive decimal number `digits · 10 ^ power`. -/
structure Decimal where
  digits : Nat
  power : Int
  deriving DecidableEq, Repr

def decimalLength (value : Nat) : Nat :=
  (Nat.toDigits 10 value).length

/-- The power of ten of the first digit of `num / den`, both positive. -/
def leadingPower (num den : Nat) : Int :=
  if den ≤ num then (decimalLength (num / den) : Int) - 1
  else
    let length := decimalLength (den / num)
    if num * Nat.pow 10 (length - 1) = den then 1 - (length : Int) else -(length : Int)

/-- The reals that round to a number, over one denominator; `closed` says whether its ends do. -/
structure Interval where
  low : Nat
  middle : Nat
  high : Nat
  den : Nat
  closed : Bool
  deriving Repr

/-- Half a unit on either side, a quarter below a power of two; the ends round to it exactly
when its significand is even. -/
def interval (x : Binary64) : Interval :=
  let significand := x.significand
  let below := if x.fraction = 0 ∧ x.scale > 0 then 1 else 2
  let (factor, den) :=
    if x.scale ≥ 1076 then (Nat.pow 2 (x.scale - 1076), 1) else (1, Nat.pow 2 (1076 - x.scale))
  { low := (4 * significand - below) * factor
    middle := 4 * significand * factor
    high := (4 * significand + 2) * factor
    den := den
    closed := significand % 2 == 0 }

/-- Does `candidate · 10 ^ power` round to the number of the interval? -/
def Interval.holds (range : Interval) (candidate : Nat) (power : Int) : Bool :=
  let value := if power ≥ 0 then candidate * Nat.pow 10 power.toNat * range.den else candidate * range.den
  let unit := if power ≥ 0 then 1 else Nat.pow 10 (-power).toNat
  if range.closed then range.low * unit ≤ value && value ≤ range.high * unit
  else range.low * unit < value && value < range.high * unit

/-- The point of the grid of step `10 ^ power` that is nearest to the number among its two
neighbours there, if one of them rounds to it; a tie goes to the even neighbour. -/
def Interval.onGrid? (range : Interval) (power : Int) : Option Nat :=
  let num := if power ≥ 0 then range.middle else range.middle * Nat.pow 10 (-power).toNat
  let den := if power ≥ 0 then range.den * Nat.pow 10 power.toNat else range.den
  let floor := num / den
  let nearest := roundQuotient num den
  let other := if nearest = floor then floor + 1 else floor
  if range.holds nearest power then some nearest
  else if range.holds other power then some other
  else none

def Decimal.stripZeros : Nat → Decimal → Decimal
  | 0, d => d
  | fuel + 1, d =>
      if d.digits ≠ 0 ∧ d.digits % 10 = 0 then
        stripZeros fuel { digits := d.digits / 10, power := d.power + 1 }
      else d

/-- The shortest decimal that rounds to a finite number other than zero. Seventeen digits always
suffice. -/
def shortest (x : Binary64) : Decimal :=
  let range := x.interval
  let first := leadingPower range.middle range.den
  let found : Option Decimal := (List.range 17).findSome? fun (more : Nat) =>
    let power := first - (more : Int)
    (range.onGrid? power).map fun digits => { digits := digits, power := power }
  (found.getD { digits := x.significand, power := 0 }).stripZeros 20

/-- The digits with a point after the first `places` of them. -/
def withPoint (digits : List Char) (places : Nat) : List Char :=
  digits.take places ++ '.' :: digits.drop places

def Decimal.chars (d : Decimal) : List Char :=
  let digits := Nat.toDigits 10 d.digits
  let point : Int := digits.length + d.power
  if 0 ≤ d.power ∧ point ≤ 16 then
    digits ++ List.replicate d.power.toNat '0' ++ ['.', '0']
  else if 0 < point ∧ point ≤ 16 then withPoint digits point.toNat
  else if -5 < point ∧ point ≤ 0 then
    ['0', '.'] ++ List.replicate (-point).toNat '0' ++ digits
  else
    let mantissa := if digits.length = 1 then digits else withPoint digits 1
    let exponent := point - 1
    let sign := if exponent < 0 then '-' else '+'
    mantissa ++ ['e', sign] ++ Nat.toDigits 10 exponent.natAbs

/-- The text of a finite number; a zero keeps its sign. -/
def text (x : Binary64) : String :=
  let magnitude := if x.isZero then ['0', '.', '0'] else x.shortest.chars
  String.ofList (if x.isNegative then '-' :: magnitude else magnitude)

end RuleCompiler.Binary64

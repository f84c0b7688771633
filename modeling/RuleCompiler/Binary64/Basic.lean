/-!
Binary floating point with 53-bit significands, as exact integer arithmetic on bit patterns. A
finite number is `± significand · 2 ^ exponent`; every operation here is the exact rational
result rounded to the nearest such number, a tie going to the even significand.
-/

namespace RuleCompiler

/-- A double-precision number, given by its interchange bits. -/
structure Binary64 where
  bits : UInt64
  deriving DecidableEq, Repr

namespace Binary64

def isNegative (x : Binary64) : Bool :=
  x.bits ≥ 0x8000000000000000

def magnitudeBits (x : Binary64) : Nat :=
  x.bits.toNat % Nat.pow 2 63

def exponentField (x : Binary64) : Nat :=
  x.magnitudeBits / Nat.pow 2 52

def fraction (x : Binary64) : Nat :=
  x.magnitudeBits % Nat.pow 2 52

def isFinite (x : Binary64) : Bool :=
  x.exponentField < 2047

def isNan (x : Binary64) : Bool :=
  !x.isFinite && x.fraction != 0

def isZero (x : Binary64) : Bool :=
  x.magnitudeBits == 0

def significand (x : Binary64) : Nat :=
  if x.exponentField = 0 then x.fraction else Nat.pow 2 52 + x.fraction

/-- A finite number is `significand · 2 ^ (scale - 1074)`; the smallest scale serves two
exponent fields. -/
def scale (x : Binary64) : Nat :=
  x.exponentField - 1

/-- A finite number in units of `2 ^ -1074`, which is exact. Infinity counts more of them than any
finite number. -/
def units (x : Binary64) : Int :=
  let magnitude : Int := (x.significand * Nat.pow 2 x.scale : Nat)
  if x.isNegative then -magnitude else magnitude

def ofMagnitude (negative : Bool) (magnitude : Nat) : Binary64 :=
  ⟨UInt64.ofNat (if negative then magnitude + Nat.pow 2 63 else magnitude)⟩

def infinity (negative : Bool) : Binary64 :=
  ofMagnitude negative (2047 * Nat.pow 2 52)

def nan : Binary64 :=
  ofMagnitude false (2047 * Nat.pow 2 52 + Nat.pow 2 51)

def zero (negative : Bool) : Binary64 :=
  ofMagnitude negative 0

/-- The nearest integer to `num / den`, a half going to the even neighbour. -/
def roundQuotient (num den : Nat) : Nat :=
  let floor := num / den
  let rest := 2 * (num % den)
  if rest < den then floor
  else if den < rest then floor + 1
  else floor + floor % 2

/-- The scale at which `num / den` keeps 53 bits, and never below the smallest one. The
quotient of the bit lengths is off by at most one. -/
def scaleOf (num den : Nat) : Nat :=
  let guess : Int := (num.log2 : Int) - (den.log2 : Int) - 53 + 1074
  let scaled : Bool :=
    if guess ≥ 1074 then den * Nat.pow 2 (guess - 1074 + 53).toNat ≤ num
    else den * Nat.pow 2 53 ≤ num * Nat.pow 2 (1074 - guess).toNat
  (if scaled then guess + 1 else guess).toNat

/-- The number nearest to `num / den`, for a positive `den`; infinity past the largest. A
significand rounded up to `2 ^ 53` carries into the exponent field by itself. -/
def ofRatio (negative : Bool) (num den : Nat) : Binary64 :=
  if num = 0 then zero negative
  else
    let scale := scaleOf num den
    let rounded :=
      if scale ≥ 1074 then roundQuotient num (den * Nat.pow 2 (scale - 1074))
      else roundQuotient (num * Nat.pow 2 (1074 - scale)) den
    let magnitude := scale * Nat.pow 2 52 + rounded
    if magnitude ≥ 2047 * Nat.pow 2 52 then infinity negative else ofMagnitude negative magnitude

def ofNat (value : Nat) : Binary64 :=
  ofRatio false value 1

def ofInt (value : Int) : Binary64 :=
  ofRatio (value < 0) value.natAbs 1

def negate (x : Binary64) : Binary64 :=
  ofMagnitude (!x.isNegative) x.magnitudeBits

def times (x y : Binary64) : Binary64 :=
  ofRatio (x.isNegative != y.isNegative) (x.units.natAbs * y.units.natAbs) (Nat.pow 2 2148)

/-- The quotient of two finite numbers, rounded once; the divisor is not zero. -/
def quotient (x y : Binary64) : Binary64 :=
  ofRatio (x.isNegative != y.isNegative) x.units.natAbs y.units.natAbs

/-- The number nearest to `digits · 10 ^ power`. Powers far outside the range of the format
are settled without computing them. -/
def ofDecimal (negative : Bool) (digits : Nat) (power : Int) : Binary64 :=
  if digits = 0 then zero negative
  else
    let size : Int := digits.log2 / 3 + 1
    if power > 400 then infinity negative
    else if power + size < -400 then zero negative
    else if power ≥ 0 then ofRatio negative (digits * Nat.pow 10 power.toNat) 1
    else ofRatio negative digits (Nat.pow 10 (-power).toNat)

end Binary64

end RuleCompiler

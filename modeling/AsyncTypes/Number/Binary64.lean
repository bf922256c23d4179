/-!
# Double-precision numbers as exact rationals

A double is kept as its sixty-four bits, so that two doubles can be told apart
and computed with in the logic.  Every finite one is `± significand * 2 ^ exponent`
exactly, and a positive rational is turned into the nearest double with ties to
the even significand.
-/

namespace AsyncTypes.Number

/-- A double-precision number, by its bits. -/
structure Binary64 where
  bits : UInt64
deriving DecidableEq, Inhabited

namespace Binary64

/-! ## Parts -/

/-- The sign bit is set; `-0.0` is negative. -/
def isNegative (x : Binary64) : Bool :=
  x.bits >>> 63 == 1

/-- The eleven exponent bits. -/
def exponentField (x : Binary64) : Nat :=
  ((x.bits >>> 52) &&& 0x7ff).toNat

/-- The fifty-two fraction bits. -/
def fraction (x : Binary64) : Nat :=
  (x.bits &&& 0xfffffffffffff).toNat

/-- Not a number. -/
def isNaN (x : Binary64) : Bool :=
  x.exponentField == 0x7ff && x.fraction != 0

/-- Either infinity. -/
def isInfinite (x : Binary64) : Bool :=
  x.exponentField == 0x7ff && x.fraction == 0

/-- Neither an infinity nor not a number. -/
def isFinite (x : Binary64) : Bool :=
  x.exponentField != 0x7ff

/-- Either zero. -/
def isZero (x : Binary64) : Bool :=
  x.exponentField == 0 && x.fraction == 0

/-- The integer significand of a finite double. -/
def significand (x : Binary64) : Nat :=
  if x.exponentField == 0 then x.fraction else x.fraction + Nat.pow 2 52

/-- The power of two that scales the significand. -/
def exponent (x : Binary64) : Int :=
  (max x.exponentField 1 : Nat) - 1075

/-- Numerator and denominator of the magnitude of a finite double. -/
def magnitude (x : Binary64) : Nat × Nat :=
  if 0 ≤ x.exponent then (x.significand * Nat.pow 2 x.exponent.toNat, 1)
  else (x.significand, Nat.pow 2 (-x.exponent).toNat)

/-! ## Construction -/

/-- The double with these bits and this sign. -/
def withSign (negative : Bool) (magnitudeBits : Nat) : Binary64 :=
  ⟨UInt64.ofNat (magnitudeBits + if negative then Nat.pow 2 63 else 0)⟩

/-- Either zero. -/
def zeroOf (negative : Bool) : Binary64 :=
  withSign negative 0

/-- Either infinity. -/
def infinity (negative : Bool) : Binary64 :=
  withSign negative (0x7ff * Nat.pow 2 52)

/-- Not a number. -/
def nan : Binary64 :=
  withSign false (0x7ff8 * Nat.pow 2 48)

/-- The integer nearest to a quotient, the even one of two that are equally near. -/
def roundHalfEven (numerator denominator : Nat) : Nat :=
  let quotient := numerator / denominator
  let rest := 2 * (numerator % denominator)
  if rest < denominator then quotient
  else if denominator < rest then quotient + 1
  else quotient + quotient % 2

/-- A quotient divided by a power of two. -/
def scaled (numerator denominator : Nat) (power : Int) : Nat × Nat :=
  if 0 ≤ power then (numerator, denominator * Nat.pow 2 power.toNat)
  else (numerator * Nat.pow 2 (-power).toNat, denominator)

/-- The power of two that leaves a quotient a significand of fifty-three bits, or
the least power there is. -/
def scalePower (numerator denominator : Nat) : Int :=
  let guess : Int := (numerator.log2 : Int) - denominator.log2 - 52
  let (top, bottom) := scaled numerator denominator guess
  max (if top / bottom < Nat.pow 2 52 then guess - 1 else guess) (-1074)

/-- The double nearest to a quotient of natural numbers, with a sign. -/
def ofQuotient (negative : Bool) (numerator denominator : Nat) : Binary64 :=
  if numerator == 0 then zeroOf negative
  else
    let power := scalePower numerator denominator
    let (top, bottom) := scaled numerator denominator power
    let rounded := roundHalfEven top bottom
    let field := if rounded < Nat.pow 2 52 then rounded
      else (power + 1075).toNat * Nat.pow 2 52 + (rounded - Nat.pow 2 52)
    if 0x7ff * Nat.pow 2 52 ≤ field then infinity negative else withSign negative field

/-- The double nearest to an integer. -/
def ofInt (value : Int) : Binary64 :=
  ofQuotient (value < 0) value.natAbs 1

/-! ## Comparison -/

/-- A finite double without a fraction, as an integer. -/
def toInt? (x : Binary64) : Option Int :=
  if x.isFinite then
    let (top, bottom) := x.magnitude
    if top % bottom == 0 then
      let whole : Int := (top / bottom : Nat)
      some (if x.isNegative then -whole else whole)
    else none
  else none

/-- Numerical equality: the zeros are equal and nothing equals not-a-number. -/
def sameNumber (x y : Binary64) : Bool :=
  if x.isNaN || y.isNaN then false
  else x.bits == y.bits || (x.isZero && y.isZero)

/-- The number is below zero. -/
def isBelowZero (x : Binary64) : Bool :=
  !x.isNaN && !x.isZero && x.isNegative

end Binary64

end AsyncTypes.Number

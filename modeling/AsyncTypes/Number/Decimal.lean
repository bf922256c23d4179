import AsyncTypes.Number.Binary64

/-!
# Decimal numerals of doubles

Reading takes the double nearest to a decimal numeral.  Writing takes the fewest
digits that read back as the same double, and of those the nearest to it.
-/

namespace AsyncTypes.Number

/-- The decimal digits of a natural number, most significant first. -/
def digitsOf (value : Nat) : List Char :=
  Nat.toDigits 10 value

/-- A positive decimal `0.d₁d₂… * 10 ^ point`, by its digits. -/
structure Numeral where
  digits : List Char
  point : Int

namespace Binary64

/-- The double nearest to `mantissa * 10 ^ power`. Powers that lead beyond every
double are answered without computing them. -/
def ofDecimal (negative : Bool) (mantissa : Nat) (power : Int) : Binary64 :=
  if mantissa == 0 then zeroOf negative
  else
    let size : Int := (digitsOf mantissa).length + power
    if 310 < size then infinity negative
    else if size < -330 then zeroOf negative
    else if 0 ≤ power then ofQuotient negative (mantissa * Nat.pow 10 power.toNat) 1
    else ofQuotient negative mantissa (Nat.pow 10 (-power).toNat)

/-- A quotient multiplied by a power of ten. -/
def shifted (fraction : Nat × Nat) (power : Int) : Nat × Nat :=
  if 0 ≤ power then (fraction.1 * Nat.pow 10 power.toNat, fraction.2)
  else (fraction.1, fraction.2 * Nat.pow 10 (-power).toNat)

/-- The least `point` with the quotient below `10 ^ point`. -/
def decimalPoint (fraction : Nat × Nat) : Int :=
  let whole := fraction.1 / fraction.2
  if whole ≠ 0 then (digitsOf whole).length
  else
    let inverse := fraction.2 / fraction.1
    let guess : Int := 1 - (digitsOf inverse).length
    let (top, bottom) := shifted fraction (-guess)
    if bottom ≤ top then guess + 1 else guess

/-- The numeral of `count` digits next to a positive finite double that reads back
as it, if there is one; the nearer of two, the even one of two equally near. -/
def numeralOf? (x : Binary64) (point : Int) (count : Nat) : Option Nat :=
  let power := point - count
  let (top, bottom) := shifted x.magnitude (-power)
  let low := top / bottom
  let readsBack (candidate : Nat) : Bool := ofDecimal x.isNegative candidate power == x
  let rest := 2 * (top % bottom)
  let lowFirst := rest < bottom || (rest == bottom && low % 2 == 0)
  let nearer := if lowFirst then low else low + 1
  let farther := if lowFirst then low + 1 else low
  if readsBack nearer then some nearer
  else if readsBack farther then some farther
  else none

/-- The fewest digits that read back as a positive finite double. -/
def shortest (x : Binary64) : Numeral :=
  let point := decimalPoint x.magnitude
  let found := (List.range 17).findSome? fun index =>
    (numeralOf? x point (index + 1)).map fun mantissa => (mantissa, index + 1)
  match found with
  | some (mantissa, count) =>
      let digits := digitsOf mantissa
      ⟨(digits.reverse.dropWhile (· == '0')).reverse, point + digits.length - count⟩
  | none => ⟨[], 0⟩

/-- A positive finite double rounded to `count` significant digits. -/
def significantDigits (x : Binary64) (count : Nat) : Numeral :=
  let point := decimalPoint x.magnitude
  let (top, bottom) := shifted x.magnitude (count - point)
  let digits := digitsOf (roundHalfEven top bottom)
  ⟨digits.take count, point + digits.length - count⟩

end Binary64

end AsyncTypes.Number

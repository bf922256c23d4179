import AsyncTypes.Number.Decimal

/-!
# Layouts of numbers

The shortest layout writes a double with the fewest digits that read back; it is
positional from `1e-04` up to below `1e+16`.  The compact layout keeps six
significant digits and is positional up to below `1e+06`.  The fixed layout keeps
two places.
-/

namespace AsyncTypes.Number

/-- The text of a list of zeros. -/
def zeros (count : Nat) : List Char :=
  List.replicate count '0'

/-- An exponent: a sign and at least two digits. -/
def exponentText (exponent : Int) : List Char :=
  let digits := digitsOf exponent.natAbs
  (if exponent < 0 then '-' else '+') :: (zeros (2 - digits.length) ++ digits)

namespace Numeral

/-- Digits around the decimal point, with nothing after it when no digit is left. -/
def positional (numeral : Numeral) : List Char × List Char :=
  if numeral.point ≤ 0 then (['0'], zeros (-numeral.point).toNat ++ numeral.digits)
  else
    let whole := numeral.point.toNat
    (numeral.digits.take whole ++ zeros (whole - numeral.digits.length),
      numeral.digits.drop whole)

/-- A whole part and a fraction, joined by a point unless the fraction is empty. -/
def joined (parts : List Char × List Char) : List Char :=
  if parts.2.isEmpty then parts.1 else parts.1 ++ '.' :: parts.2

/-- One digit, the other digits after a point, and the exponent. -/
def scientific (numeral : Numeral) : List Char :=
  joined (numeral.digits.take 1, numeral.digits.drop 1) ++
    'e' :: exponentText (numeral.point - 1)

/-- The exponent form is used below `1e-04` and from `10 ^ limit` on. -/
def isScientific (numeral : Numeral) (limit : Int) : Bool :=
  numeral.point - 1 < -4 || limit ≤ numeral.point - 1

end Numeral

namespace Binary64

/-- A sign for negative numbers, minus zero included. -/
def signText (x : Binary64) : List Char :=
  if x.isNegative then ['-'] else []

/-- The names of the numbers that have no digits. -/
structure SpecialNames where
  nan : String
  infinity : String

/-- The names in running text. -/
def plainNames : SpecialNames :=
  ⟨"nan", "inf"⟩

/-- The names in a JSON text. -/
def jsonNames : SpecialNames :=
  ⟨"NaN", "Infinity"⟩

/-- The fewest digits that read back, with `.0` after a whole number. -/
def shortestText (names : SpecialNames) (x : Binary64) : String :=
  if x.isNaN then names.nan
  else
    let body :=
      if x.isInfinite then names.infinity.toList
      else if x.isZero then "0.0".toList
      else
        let numeral := x.shortest
        if numeral.isScientific 16 then numeral.scientific
        else
          let parts := numeral.positional
          Numeral.joined (parts.1, if parts.2.isEmpty then ['0'] else parts.2)
    String.ofList (x.signText ++ body)

/-- Six significant digits without the zeros at the end. -/
def compactText (x : Binary64) : String :=
  if x.isZero then String.ofList (x.signText ++ ['0'])
  else
    let rounded := x.significantDigits 6
    let numeral : Numeral :=
      ⟨(rounded.digits.reverse.dropWhile (· == '0')).reverse, rounded.point⟩
    let body :=
      if numeral.isScientific 6 then numeral.scientific else Numeral.joined numeral.positional
    String.ofList (x.signText ++ body)

/-- Two places after the point. -/
def fixedText (x : Binary64) : String :=
  let (top, bottom) := x.magnitude
  let hundredths := roundHalfEven (top * 100) bottom
  let digits := digitsOf hundredths
  let padded := zeros (3 - digits.length) ++ digits
  let places := padded.length - 2
  String.ofList (x.signText ++ padded.take places ++ '.' :: padded.drop places)

end Binary64

end AsyncTypes.Number

import AsyncTypes.Unicode.Blank
import AsyncTypes.Unicode.Digit
import AsyncTypes.Text.Split

/-!
# Integers in running text

A liberal numeral: blanks around it, one sign, decimal digits of any script, and
single underscores between digits.  In base two, eight and sixteen the numeral may
carry its marker (`0b`, `0o`, `0x`), and an underscore may follow the marker.
-/

namespace AsyncTypes.Number

/-- The value of a digit in bases up to sixteen. -/
def digitValue? (c : Char) : Option Nat :=
  match Unicode.decimalValue? c with
  | some value => some value
  | none =>
      if 'a' ≤ c && c ≤ 'f' then some (c.toNat - 'a'.toNat + 10)
      else if 'A' ≤ c && c ≤ 'F' then some (c.toNat - 'A'.toNat + 10)
      else none

/-- The value of a digit that is allowed in a base. -/
def digitIn? (base : Nat) (c : Char) : Option Nat :=
  (digitValue? c).filter (· < base)

/-- The value of digits with single underscores between them. -/
def natural? (base : Nat) (text : List Char) : Option Nat :=
  (Text.split '_' text).foldlM
    (fun total group =>
      if group.isEmpty then none
      else group.foldlM (fun sum c => (digitIn? base c).map (sum * base + ·)) total) 0

/-- The letter of a base's marker. -/
def marker? : Nat → Option Char
  | 2 => some 'b'
  | 8 => some 'o'
  | 16 => some 'x'
  | _ => none

/-- A numeral without the marker of its base, and the underscore after it. -/
def dropMarker (base : Nat) (text : List Char) : List Char :=
  match text with
  | '0' :: letter :: rest =>
      if (marker? base).any fun mark => mark == letter.toLower then
        match rest with
        | '_' :: more => more
        | _ => rest
      else text
  | _ => text

/-- A sign in front of a numeral, and the numeral. -/
def takeSign : List Char → Bool × List Char
  | '-' :: rest => (true, rest)
  | '+' :: rest => (false, rest)
  | text => (false, text)

/-- The integer that a text denotes in a base. -/
def integer? (base : Nat) (text : List Char) : Option Int :=
  let (negative, body) := takeSign (Unicode.trim text)
  (natural? base (dropMarker base body)).map fun value =>
    if negative then -(value : Int) else value

/-- How many digits a numeral has. -/
def countDigits (text : List Char) : Nat :=
  (text.filter fun c => (digitValue? c).isSome).length

end AsyncTypes.Number

/-!
# Bytes in base 64

Four characters of the alphabet stand for three bytes.  Other characters are passed
over, and padding ends the text once it fills a group.
-/

namespace AsyncTypes.Yaml.Base64

/-- The value of a character of the alphabet. -/
def valueOf? (c : Char) : Option Nat :=
  if 'A' ≤ c && c ≤ 'Z' then some (c.toNat - 'A'.toNat)
  else if 'a' ≤ c && c ≤ 'z' then some (c.toNat - 'a'.toNat + 26)
  else if '0' ≤ c && c ≤ '9' then some (c.toNat - '0'.toNat + 52)
  else if c == '+' then some 62
  else if c == '/' then some 63
  else none

/-- The whole bytes of the values of a group. -/
def bytesOf : List Nat → List UInt8
  | [a, b] => [UInt8.ofNat (a * 4 + b / 16)]
  | [a, b, c] => [UInt8.ofNat (a * 4 + b / 16), UInt8.ofNat (b % 16 * 16 + c / 4)]
  | [a, b, c, d] =>
      [UInt8.ofNat (a * 4 + b / 16), UInt8.ofNat (b % 16 * 16 + c / 4),
        UInt8.ofNat (c % 4 * 64 + d)]
  | _ => []

/-- The bytes that a text stands for.  `group` holds the values of the group that was
begun, and `pads` counts the padding right before the text. -/
def decodeFrom (group : List Nat) (pads : Nat) : List Char → Option (List UInt8)
  | [] => if group.isEmpty then some [] else none
  | '=' :: rest =>
      if group.length < 2 then decodeFrom group pads rest
      else if 4 ≤ group.length + pads + 1 then some (bytesOf group)
      else decodeFrom group (pads + 1) rest
  | c :: rest =>
      match valueOf? c with
      | none => decodeFrom group pads rest
      | some value =>
          let filled := group ++ [value]
          if filled.length = 4 then (decodeFrom [] 0 rest).map (bytesOf filled ++ ·)
          else decodeFrom filled 0 rest

/-- The bytes that a text stands for; none when a group is left open, or when the text
leaves ASCII. -/
def decode (text : List Char) : Option (List UInt8) :=
  if text.all (·.toNat < 0x80) then decodeFrom [] 0 text else none

end AsyncTypes.Yaml.Base64

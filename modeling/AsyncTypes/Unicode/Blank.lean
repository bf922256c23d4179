import AsyncTypes.Unicode.Ranges

/-!
# Blanks

White space in the wide sense: the ASCII blanks, the four ASCII separators
`0x1c` to `0x1f`, the next-line control and the spaces and separators of
Unicode.
-/

namespace AsyncTypes.Unicode

/-- Blanks beyond ASCII. -/
def blankRanges : List (Nat × Nat) :=
  [
    (0x85, 0x85), (0xa0, 0xa0), (0x1680, 0x1680), (0x2000, 0x200a), (0x2028, 0x2029),
    (0x202f, 0x202f), (0x205f, 0x205f), (0x3000, 0x3000)]

/-- The ASCII blanks: tab to carriage return, the four separators and the space. -/
def isAsciiBlank (c : Char) : Bool :=
  (0x09 ≤ c.toNat && c.toNat ≤ 0x0d) || (0x1c ≤ c.toNat && c.toNat ≤ 0x20)

/-- A character that separates words of running text. -/
def isBlank (c : Char) : Bool :=
  hasProperty isAsciiBlank blankRanges c

/-- Text without the blanks at its start. -/
def trimStart (text : List Char) : List Char :=
  text.dropWhile isBlank

/-- Text without the blanks at its end. -/
def trimEnd (text : List Char) : List Char :=
  (text.reverse.dropWhile isBlank).reverse

/-- Text without the blanks at either end. -/
def trim (text : List Char) : List Char :=
  trimEnd (trimStart text)

end AsyncTypes.Unicode

/-!
# Sets of code points as closed ranges

A property of characters is given by the closed ranges of code points that have
it.  ASCII is always answered by an explicit test, so the tables of this folder
start at `0x80`.  They hold the data of Unicode 14.
-/

namespace AsyncTypes.Unicode

/-- Some range of the list holds the code point. -/
def inRanges (ranges : List (Nat × Nat)) (code : Nat) : Bool :=
  ranges.any fun range => range.1 ≤ code && code ≤ range.2

/-- Membership is membership in one of the ranges. -/
theorem inRanges_iff {ranges : List (Nat × Nat)} {code : Nat} :
    inRanges ranges code = true ↔
      ∃ range ∈ ranges, range.1 ≤ code ∧ code ≤ range.2 := by
  simp [inRanges]

/-- A character's property, by an explicit test on ASCII and by a table beyond it. -/
def hasProperty (ascii : Char → Bool) (ranges : List (Nat × Nat)) (c : Char) : Bool :=
  if c.toNat < 0x80 then ascii c else inRanges ranges c.toNat

end AsyncTypes.Unicode

import AsyncTypes.Value.Basic

/-!
# How deep a value nests

The depth of a value counts the mappings and lists on the longest way into it.
Everything else has depth zero.
-/

namespace AsyncTypes.Value

mutual

/-- The number of mappings and lists on the longest way into a value. -/
def depth : Value → Nat
  | .list items => depthOfItems items + 1
  | .map entries => depthOfEntries entries + 1
  | _ => 0

/-- The greatest depth of some items. -/
def depthOfItems : List Value → Nat
  | [] => 0
  | item :: rest => max (depth item) (depthOfItems rest)

/-- The greatest depth of the values of some entries. -/
def depthOfEntries : List (Scalar × Value) → Nat
  | [] => 0
  | (_, value) :: rest => max (depth value) (depthOfEntries rest)

end

end AsyncTypes.Value

import AsyncTypes.Pointer.Basic
import AsyncTypes.Number.Integer
import AsyncTypes.Value.Basic

/-!
# Following a pointer through a document

Both walks take one key after another and end where a key leads nowhere or to
null.  They differ at lists.  The extraction reads an index as an integer of any
spelling, counted from the end when it is negative.  The validation takes only
keys made of digits, and stumbles over a digit that has no place in a decimal
numeral.
-/

namespace AsyncTypes.Pointer

/-- The longest numeral that is read as an index, in digits. -/
def maxIndexDigits : Nat := 4300

/-! ## The walk of the extraction -/

/-- The item at an index; a negative index counts from the end. -/
def itemAt? (items : List Value) (index : Int) : Option Value :=
  if 0 ≤ index then items[index.toNat]?
  else if -index ≤ items.length then items[items.length - (-index).toNat]?
  else none

/-- The index that a key spells. -/
def index? (key : String) : Option Int :=
  if Number.countDigits key.toList ≤ maxIndexDigits then Number.integer? 10 key.toList
  else none

/-- The value one step further. -/
def step? : Value → String → Option Value
  | .map entries, key => Entries.lookup entries (.string key)
  | .list items, key => (index? key).bind (itemAt? items)
  | _, _ => none

/-- A value that is not null. -/
def present? (value : Value) : Option Value :=
  if value.isNull then none else some value

/-- The value at the end of some keys, none of whose steps may lead to null. -/
def follow? : Value → List String → Option Value
  | value, [] => some value
  | value, key :: rest => ((step? value key).bind present?).bind fun next => follow? next rest

/-- The value that a local pointer leads to. -/
def walk? (document : Value) (pointer : String) : Option Value :=
  (keys? pointer).bind (follow? document)

/-- What is said about a pointer that leads nowhere. -/
def deadEnd (pointer : String) : String :=
  if (keys? pointer).isSome then s!"Unresolvable $ref (key not found): {pointer}"
  else s!"Unsupported $ref format (not a local pointer): {pointer}"

/-! ## The walk of the validation -/

/-- Why a key made of digits is no index. -/
inductive IndexFault
  | notDecimal (key : String)
  | tooLong (digits : Nat)
deriving DecidableEq

/-- The key is a non-empty run of digits. -/
def isDigits (key : String) : Bool :=
  !key.toList.isEmpty && key.toList.all Unicode.isDigit

/-- The index that a run of digits spells. -/
def digitIndex (key : String) : Except IndexFault Nat :=
  if maxIndexDigits < key.toList.length then .error (.tooLong key.toList.length)
  else
    match Number.natural? 10 key.toList with
    | some index => .ok index
    | none => .error (.notDecimal key)

/-- The value one step further. -/
def lookupStep : Value → String → Except IndexFault (Option Value)
  | .map entries, key => .ok (Entries.lookup entries (.string key))
  | .list items, key =>
      if isDigits key then (digitIndex key).map fun index => items[index]?
      else .ok none
  | _, _ => .ok none

/-- The value at the end of some keys, none of whose steps may lead to null. -/
def lookupKeys : Value → List String → Except IndexFault (Option Value)
  | value, [] => .ok (some value)
  | value, key :: rest => do
      match (← lookupStep value key).bind present? with
      | some next => lookupKeys next rest
      | none => .ok none

/-- The value that a local pointer leads to. -/
def lookup (document : Value) (pointer : String) : Except IndexFault (Option Value) :=
  match keys? pointer with
  | some keys => lookupKeys document keys
  | none => .ok none

end AsyncTypes.Pointer

import AsyncTypes.Validation.Rule

/-!
# Findings in order of their places

Findings are sorted by their paths, step by step; findings at one place keep their
order.  Steps of different sorts, such as a text and a number, cannot be compared,
and then the sorting breaks down.  Which comparison does so first depends on the
method: the ascending or strictly descending run at the start is kept, and every
further finding is put in its place by halving.
-/

namespace AsyncTypes

/-! ## Order of scalars -/

namespace Scalar

/-- A number as a quotient; the infinities lie beyond every double. -/
def quotient? : Scalar → Option (Int × Nat)
  | .bool value => some (if value then 1 else 0, 1)
  | .int value => some (value, 1)
  | .float value =>
      if value.isNaN then none
      else
        let (top, bottom) := if value.isInfinite then (Nat.pow 2 1100, 1) else value.magnitude
        some (if value.isNegative then -(top : Int) else top, bottom)
  | _ => none

/-- The scalar is a number, perhaps not-a-number. -/
def isNumber : Scalar → Bool
  | .bool _ | .int _ | .float _ => true
  | _ => false

/-- One list of bytes comes before another. -/
def bytesBefore (first second : List UInt8) : Bool :=
  first.map UInt8.toNat < second.map UInt8.toNat

/-- Why two scalars have no order. -/
def incomparable (first second : Scalar) : String :=
  s!"'<' not supported between instances of '{first.kind}' and '{second.kind}'"

/-- One scalar comes before another. -/
def before (first second : Scalar) : Except String Bool :=
  if first.isNumber && second.isNumber then
    match first.quotient?, second.quotient? with
    | some (top, bottom), some (otherTop, otherBottom) =>
        .ok (top * otherBottom < otherTop * bottom)
    | _, _ => .ok false
  else
    match first, second with
    | .string here, .string there => .ok (here < there)
    | .bytes here, .bytes there => .ok (bytesBefore here there)
    | .date here, .date there => .ok (here.dayNumber < there.dayNumber)
    | .dateTime here, .dateTime there =>
        match here.offset, there.offset with
        | some near, some far => .ok (here.instant near < there.instant far)
        | none, none => .ok (here.instant 0 < there.instant 0)
        | _, _ => .error "can't compare offset-naive and offset-aware datetimes"
    | .date _, .dateTime _ => .error "can't compare datetime.datetime to datetime.date"
    | .dateTime _, .date _ => .error "can't compare datetime.datetime to datetime.date"
    | _, _ => .error (incomparable first second)

end Scalar

namespace Validation

/-- One path comes before another. -/
def pathBefore : List Scalar → List Scalar → Except String Bool
  | _, [] => .ok false
  | [], _ :: _ => .ok true
  | first :: here, second :: there =>
      if first.sameKey second then pathBefore here there else first.before second

/-! ## Sorting -/

section

variable {α : Type} (before : α → α → Except String Bool)

/-- The ascending run at the start of a list, after an item, and what follows it. -/
def ascendingRun : α → List α → Except String (List α × List α)
  | _, [] => .ok ([], [])
  | last, item :: rest => do
      if ← before item last then return ([], item :: rest)
      else
        let (run, others) ← ascendingRun item rest
        return (item :: run, others)

/-- The strictly descending run at the start of a list, after an item, and what follows
it. -/
def descendingRun : α → List α → Except String (List α × List α)
  | _, [] => .ok ([], [])
  | last, item :: rest => do
      if ← before item last then
        let (run, others) ← descendingRun item rest
        return (item :: run, others)
      else return ([], item :: rest)

/-- The run at the start of a list in ascending order, and what follows it. -/
def firstRun : List α → Except String (List α × List α)
  | first :: second :: rest => do
      if ← before second first then
        let (run, others) ← descendingRun before second rest
        return ((first :: second :: run).reverse, others)
      else
        let (run, others) ← ascendingRun before second rest
        return (first :: second :: run, others)
  | short => .ok (short, [])

/-- The place of an item in a sorted list, between two bounds, by halving.  Halving
ends after as many steps as the list is long. -/
def placeBetween (sorted : List α) (item : α) : Nat → Nat → Nat → Except String Nat
  | 0, low, _ => .ok low
  | budget + 1, low, high =>
      if low < high then
        let middle := low + (high - low) / 2
        match sorted[middle]? with
        | none => .ok low
        | some other => do
            if ← before item other then placeBetween sorted item budget low middle
            else placeBetween sorted item budget (middle + 1) high
      else .ok low

/-- Put items into a sorted list, one after another. -/
def insertAll (sorted : List α) : List α → Except String (List α)
  | [] => .ok sorted
  | item :: rest => do
      let place ← placeBetween before sorted item sorted.length 0 sorted.length
      insertAll (sorted.take place ++ item :: sorted.drop place) rest

/-- A list in ascending order; items without order between them keep theirs. -/
def sortBy (items : List α) : Except String (List α) := do
  let (run, others) ← firstRun before items
  insertAll before run others

end

/-- Findings in order of their paths. -/
def sortFindings (findings : List Finding) : Except String (List Finding) :=
  sortBy (fun first second => pathBefore first.path second.path) findings

end Validation

end AsyncTypes

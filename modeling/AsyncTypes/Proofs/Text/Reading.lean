import Mathlib.Data.List.Basic

/-!
# Readings of a text

A reading takes something away from the start of a text, or ends with a fault.  What it leaves
is an end of the text, and the fault is one that the text is to blame for.  Both are told in one
statement, since a reading that is made of several goes on at what the one before has left.
-/

namespace AsyncTypes.Text

variable {ε α β : Type} {blame : List Char → ε → Prop} {left : α → List Char}
variable {further : β → List Char} {text : List Char} {result : Except ε α}

/-- A reading leaves an end of the text, or a fault that the text is to blame for. -/
def ReadsWithin (blame : List Char → ε → Prop) (left : α → List Char) (text : List Char) :
    Except ε α → Prop
  | .ok found => left found <:+ text
  | .error fault => blame text fault

@[simp]
theorem readsWithin_ok {found : α} :
    ReadsWithin blame left text (.ok found) ↔ left found <:+ text :=
  Iff.rfl

@[simp]
theorem readsWithin_pure {found : α} :
    ReadsWithin blame left text (pure found : Except ε α) ↔ left found <:+ text :=
  Iff.rfl

@[simp]
theorem readsWithin_error {fault : ε} :
    ReadsWithin blame left text (.error fault) ↔ blame text fault :=
  Iff.rfl

namespace ReadsWithin

/-- A reading goes on where the one before has ended. -/
theorem bind {next : α → Except ε β} (reads : ReadsWithin blame left text result)
    (goesOn : ∀ found, left found <:+ text → ReadsWithin blame further text (next found)) :
    ReadsWithin blame further text (result >>= next) := by
  cases result with
  | ok found => exact goesOn found reads
  | error fault => exact reads

/-- What was read is turned into something else that leaves as much. -/
theorem map {change : α → β} (reads : ReadsWithin blame left text result)
    (kept : ∀ found, further (change found) = left found) :
    ReadsWithin blame further text (result.map change) := by
  cases result with
  | ok found =>
      show further (change found) <:+ text
      rw [kept]
      exact reads
  | error fault => exact reads

/-- Both branches of a reading keep to the text. -/
theorem ite {condition : Prop} [Decidable condition] {other : Except ε α}
    (reads : ReadsWithin blame left text result) (otherwise : ReadsWithin blame left text other) :
    ReadsWithin blame left text (if condition then result else other) := by
  split
  · exact reads
  · exact otherwise

end ReadsWithin

end AsyncTypes.Text

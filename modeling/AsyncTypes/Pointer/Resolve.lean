import AsyncTypes.Pointer.Walk
import AsyncTypes.Value.Worklist
import AsyncTypes.Value.Text
import AsyncTypes.Log

/-!
# Resolving references to objects

A reference is resolved by following its pointer, and again as long as the target
is itself a reference.  A chain that returns to a pointer ends in a placeholder,
one that leads nowhere in an empty mapping, and a target that is not a mapping is
wrapped in one.  So the result of resolving is always a mapping.

Every pointer of a chain after the first is held by a reference of the document,
so one more link than there are distinct pointers in it is never needed.
-/

namespace AsyncTypes.Pointer

/-- A debugging entry of the extraction. -/
def debug (text : String) : Logged Unit :=
  .note .debug .extraction text

/-- A warning of the extraction. -/
def warn (text : String) : Logged Unit :=
  .note .warning .extraction text

/-- The value that a pointer leads to, with a warning when there is none. -/
def walk (document : Value) (pointer : String) : Logged (Option Value) :=
  match walk? document pointer with
  | some target => ⟨some target, []⟩
  | none => ⟨none, (warn (deadEnd pointer)).log⟩

/-- Warnings do not change where a pointer leads. -/
@[simp]
theorem value_walk (document : Value) (pointer : String) :
    (walk document pointer).value = walk? document pointer := by
  unfold walk
  split <;> simp_all

/-- What stands for a chain of references that runs in a circle. -/
def circularPlaceholder : Value :=
  .record [
    ("_circular_ref", .bool true),
    ("_warning", .string "Circular $ref detected; resolution stopped to prevent infinite loop.")]

/-- More links than a chain without repetition can have. -/
def chainBudget (document : Value) : Nat :=
  document.references.length + 2

/-- The object at the end of a chain that starts with a pointer; `visited` holds the
pointers before it. -/
def resolveChain (document : Value) : Nat → List String → String → Logged Value
  | 0, _, _ => return circularPlaceholder
  | budget + 1, visited, pointer => do
      if visited.contains pointer then
        debug s!"Circular $ref detected: {pointer}"
        return circularPlaceholder
      match ← walk document pointer with
      | none => return .map []
      | some target =>
          if target.isMap then
            match target.reference? with
            | some next =>
                debug s!"Following nested $ref: {pointer} -> {next}"
                resolveChain document budget (pointer :: visited) next
            | none => return target
          else
            debug s!"Resolved $ref {pointer} to a non-dict value; wrapping."
            return .record [("_resolved_value", target)]

/-- The object that a pointer leads to. -/
def resolve (document : Value) (pointer : String) : Logged Value :=
  resolveChain document (chainBudget document) [] pointer

/-- A reference resolved; any other value as it is. -/
def dereference (document value : Value) : Logged Value :=
  match value.reference? with
  | some pointer => resolve document pointer
  | none => return value

end AsyncTypes.Pointer

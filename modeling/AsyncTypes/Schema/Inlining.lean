import AsyncTypes.Schema.Conversion
import AsyncTypes.Pointer.Walk
import AsyncTypes.Log

/-!
# Putting targets in the place of references

A pointer is replaced by the node of its target, and so are the pointers met on the
way.  The trail holds the pointers whose targets are being converted.  A pointer of
the trail is cut to the empty node, and a trail of the longest allowed length keeps
further pointers as references.

Results are remembered.  A result that was reached without a cut and without the
bound does not depend on the trail and is shared by every place; any other is
remembered together with its trail.
-/

namespace AsyncTypes

/-- A set of pointers, as a list in ascending order without repetition. -/
abbrev Trail := List String

namespace Trail

/-- A trail with one more pointer. -/
def insert (pointer : String) : Trail → Trail
  | [] => [pointer]
  | first :: rest =>
      if pointer = first then first :: rest
      else if pointer < first then pointer :: first :: rest
      else first :: insert pointer rest

/-- The trail of some pointers. -/
def ofList (pointers : List String) : Trail :=
  pointers.foldl (fun trail pointer => insert pointer trail) []

/-- A trail grows by a pointer that it does not hold. -/
theorem length_insert_of_not_mem {pointer : String} {trail : Trail}
    (fresh : pointer ∉ trail) : (insert pointer trail).length = trail.length + 1 := by
  induction trail with
  | nil => rfl
  | cons first rest ih =>
      simp only [List.mem_cons, not_or] at fresh
      simp only [insert, fresh.1, if_false]
      split
      · rfl
      · simp [ih fresh.2]

end Trail

/-- What the inlining of one document remembers. -/
structure Inlining where
  shared : List (String × SchemaNode)
  byTrail : List ((String × Trail) × SchemaNode)
  trailDependent : Nat
  log : List Log.Entry
deriving Inhabited

namespace Inlining

/-- Nothing is remembered yet. -/
def fresh : Inlining :=
  ⟨[], [], 0, []⟩

/-- The longest trail that is followed. -/
def maxTrail : Nat := 10

/-- The result that every place shares. -/
def sharedNode? (inlining : Inlining) (pointer : String) : Option SchemaNode :=
  (inlining.shared.find? fun entry => entry.1 == pointer).map (·.2)

/-- The result for a trail. -/
def nodeAlong? (inlining : Inlining) (pointer : String) (trail : Trail) : Option SchemaNode :=
  (inlining.byTrail.find? fun entry => entry.1 == (pointer, trail)).map (·.2)

/-- A result that depends on the trail is being used. -/
def countDependent (inlining : Inlining) : Inlining :=
  { inlining with trailDependent := inlining.trailDependent + 1 }

/-- Write an entry. -/
def note (level : Log.Level) (text : String) (inlining : Inlining) : Inlining :=
  { inlining with log := inlining.log ++ [⟨level, .extraction, text⟩] }

/-- Remember a result for every place. -/
def share (pointer : String) (node : SchemaNode) (inlining : Inlining) : Inlining :=
  { inlining with shared := inlining.shared ++ [(pointer, node)] }

/-- Remember a result for a trail. -/
def keepAlong (pointer : String) (trail : Trail) (node : SchemaNode)
    (inlining : Inlining) : Inlining :=
  { inlining with byTrail := inlining.byTrail ++ [((pointer, trail), node)] }

/-- Cut a pointer that is being converted. -/
def cut (pointer : String) : StateM Inlining SchemaNode := do
  modify fun inlining =>
    (inlining.note .debug s!"Circular $ref detected: {pointer}").countDependent
  return .empty

/-- Keep a pointer at the end of the longest trail. -/
def stop (pointer : String) (trail : Trail) : StateM Inlining SchemaNode := do
  modify fun inlining =>
    (inlining.note .debug
      s!"Inlining stopped at {pointer} after {trail.length} nested pointers.").countDependent
  return .reference pointer

/-- The mapping that a pointer leads to, with a warning when it leads nowhere. -/
def target (document : Value) (pointer : String) : StateM Inlining (Option Value) := do
  match Pointer.walk? document pointer with
  | some value => return if value.isMap then some value else none
  | none =>
      modify (note .warning (Pointer.deadEnd pointer))
      return none

/-- The node for a pointer met along a trail; `room` more pointers may join the trail. -/
def inlineWithin (document : Value) : Nat → Trail → String → StateM Inlining SchemaNode
  | room, trail, pointer => do
      if trail.contains pointer then cut pointer
      else
        match room with
        | 0 => stop pointer trail
        | room + 1 =>
            let before ← get
            match before.sharedNode? pointer with
            | some node => return node
            | none =>
                match before.nodeAlong? pointer trail with
                | some node =>
                    modify countDependent
                    return node
                | none =>
                    match ← target document pointer with
                    | none =>
                        modify (share pointer (.reference pointer))
                        return .reference pointer
                    | some schema =>
                        let node ← SchemaNode.convert
                          (inlineWithin document room (trail.insert pointer)) schema .null
                        let after ← get
                        if after.trailDependent = before.trailDependent then
                          modify (share pointer node)
                        else
                          modify (keepAlong pointer trail node)
                        return node

/-- The node for a pointer met along a trail, when trails may grow to `longest`. -/
def inline (document : Value) (longest : Nat) (trail : Trail) (pointer : String) :
    StateM Inlining SchemaNode :=
  inlineWithin document (longest - trail.length) trail pointer

/-- The node for a schema met along a trail, with its references inlined. -/
def convertAlong (document : Value) (trail : Trail) (schema raw : Value) :
    StateM Inlining SchemaNode :=
  SchemaNode.convert (inline document maxTrail trail) schema raw

/-- A schema with its references inlined, starting with nothing remembered. -/
def convertFresh (document : Value) (trail : Trail) (schema raw : Value) : Logged SchemaNode :=
  let (node, inlining) := (convertAlong document trail schema raw).run fresh
  ⟨node, inlining.log⟩

end Inlining

end AsyncTypes

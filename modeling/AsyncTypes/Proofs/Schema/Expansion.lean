import Mathlib.Logic.Relation
import AsyncTypes.Schema.Inlining
import AsyncTypes.Proofs.Schema.Script

/-!
# Inlining without remembering

The plain conversion puts targets in the place of pointers and remembers nothing: a pointer
of the trail is cut, and a trail of the longest length keeps further pointers as references.
A pointer expands when no chain of pointers that starts with it comes back to itself or to
the trail where the conversion began.  Its expansion follows every chain to its end.
-/

namespace AsyncTypes

namespace Trail

theorem mem_insert {pointer other : String} {trail : Trail} :
    other ∈ insert pointer trail ↔ other = pointer ∨ other ∈ trail := by
  induction trail with
  | nil => rw [insert, List.mem_singleton, List.mem_nil_iff, or_false]
  | cons first rest ih =>
      rw [insert]
      split
      case isTrue same => rw [List.mem_cons, same, or_self_left]
      case isFalse =>
        split
        · rw [List.mem_cons]
        · rw [List.mem_cons, ih, List.mem_cons, or_left_comm]

end Trail

namespace Inlining

open SchemaNode (met rebuild Congruent)

/-! ## The plain conversion -/

/-- The mapping that a pointer leads to. -/
def target? (document : Value) (pointer : String) : Option Value :=
  (Pointer.walk? document pointer).filter Value.isMap

/-- The node for a pointer met along a trail when nothing is remembered; `room` more
pointers may join the trail. -/
def plainWithin (document : Value) : Nat → Trail → String → SchemaNode
  | room, trail, pointer =>
      if trail.contains pointer then .empty
      else
        match room with
        | 0 => .reference pointer
        | room + 1 =>
            match target? document pointer with
            | none => .reference pointer
            | some schema =>
                ((SchemaNode.convert (σ := Unit)
                  (fun further => return plainWithin document room (trail.insert pointer) further)
                  schema .null).run ()).1

/-- The node for a schema met along a trail when nothing is remembered and trails may grow
to `longest`. -/
def plainAlong (document : Value) (longest : Nat) (trail : Trail) (schema : Value) : SchemaNode :=
  ((SchemaNode.convert (σ := Unit)
    (fun pointer => return plainWithin document (longest - trail.length) trail pointer)
    schema .null).run ()).1

section

variable {document : Value} {room : Nat} {trail : Trail} {pointer : String}

theorem plainWithin_cut (held : pointer ∈ trail) :
    plainWithin document room trail pointer = .empty := by
  cases room <;> rw [plainWithin, if_pos (List.contains_iff_mem.mpr held)]

theorem plainWithin_stop (fresh : pointer ∉ trail) :
    plainWithin document 0 trail pointer = .reference pointer := by
  rw [plainWithin, if_neg (mt List.contains_iff_mem.mp fresh)]

theorem plainWithin_dead (fresh : pointer ∉ trail) (leads : target? document pointer = none) :
    plainWithin document room trail pointer = .reference pointer := by
  cases room with
  | zero => exact plainWithin_stop fresh
  | succ room =>
      rw [plainWithin, if_neg (mt List.contains_iff_mem.mp fresh)]
      simp only [leads]

theorem plainWithin_live {schema : Value} (fresh : pointer ∉ trail)
    (leads : target? document pointer = some schema) :
    plainWithin document (room + 1) trail pointer =
      rebuild schema .null
        ((met schema .null).map (plainWithin document room (trail.insert pointer))) := by
  rw [plainWithin, if_neg (mt List.contains_iff_mem.mp fresh), ← SchemaNode.run_convert_pure]
  simp only [leads]

end

/-! ## Expansions -/

/-- The target of a pointer asks for another one. -/
def Meets (document : Value) (pointer next : String) : Prop :=
  ∃ schema, target? document pointer = some schema ∧ next ∈ met schema .null

/-- The node follows every chain of pointers to its end, without a cut and without a bound.
No chain comes to a pointer of `base`. -/
inductive Expands (document : Value) (base : Trail) : String → SchemaNode → Prop
  | dead {pointer : String} (outside : pointer ∉ base)
      (leads : target? document pointer = none) :
      Expands document base pointer (.reference pointer)
  | live {pointer : String} {schema : Value} {nodes : List SchemaNode}
      (outside : pointer ∉ base) (leads : target? document pointer = some schema)
      (count : nodes.length = (met schema .null).length)
      (expand : ∀ pair ∈ (met schema .null).zip nodes, Expands document base pair.1 pair.2) :
      Expands document base pointer (rebuild schema .null nodes)

/-- Entries at one index are paired. -/
theorem mem_zip_getElem {α β : Type} {first : List α} {second : List β} {index : Nat}
    (inFirst : index < first.length) (inSecond : index < second.length) :
    (first[index], second[index]) ∈ first.zip second := by
  have paired : index < (first.zip second).length := by
    rw [List.length_zip]
    exact Nat.lt_min.mpr ⟨inFirst, inSecond⟩
  exact List.mem_iff_getElem.mpr ⟨index, paired, List.getElem_zip⟩

namespace Expands

variable {document : Value} {base : Trail} {pointer : String} {node : SchemaNode}

theorem not_mem (expands : Expands document base pointer node) : pointer ∉ base := by
  cases expands with
  | dead outside => exact outside
  | live outside => exact outside

/-- The chains from a pointer that expands have an end. -/
theorem acc (expands : Expands document base pointer node) :
    Acc (fun next pointer => Meets document pointer next) pointer := by
  induction expands with
  | dead _ leads =>
      refine ⟨_, fun next meets => ?_⟩
      obtain ⟨schema, found, -⟩ := meets
      rw [leads] at found
      contradiction
  | @live pointer schema nodes _ leads count _ ih =>
      refine ⟨_, fun next meets => ?_⟩
      obtain ⟨target, found, asked⟩ := meets
      obtain rfl : schema = target := Option.some.inj (leads.symm.trans found)
      obtain ⟨index, inside, rfl⟩ := List.getElem_of_mem asked
      have given : index < nodes.length := count ▸ inside
      exact ih _ (mem_zip_getElem inside given)

theorem not_cyclic (expands : Expands document base pointer node) :
    ¬Relation.TransGen (Meets document) pointer pointer := by
  have ends := expands.acc.transGen
  induction ends with
  | intro pointer _ ih =>
      intro cycle
      exact ih pointer (Relation.transGen_swap.mpr cycle) expands cycle

/-- A pointer has one expansion at most. -/
theorem unique (expands : Expands document base pointer node) {other : SchemaNode}
    (also : Expands document base pointer other) : node = other := by
  induction expands generalizing other with
  | @dead pointer _ leads =>
      cases also with
      | dead => rfl
      | live _ found =>
          rw [leads] at found
          contradiction
  | @live pointer schema nodes _ leads count _ ih =>
      cases also with
      | dead _ found =>
          rw [leads] at found
          contradiction
      | @live _ target others _ found counted expand =>
          obtain rfl : schema = target := Option.some.inj (leads.symm.trans found)
          refine congrArg (rebuild schema .null) (List.ext_getElem (count.trans counted.symm) ?_)
          intro index inside other
          have asked : index < (met schema .null).length := count ▸ inside
          exact ih _ (mem_zip_getElem asked inside) (expand _ (mem_zip_getElem asked other))

end Expands

/-! ## What the plain conversion asks for -/

/-- The plain conversion of a schema asks for a pointer along a trail that has room left. -/
inductive Asks (document : Value) (longest : Nat) (base : Trail) (schema : Value) :
    Nat → Trail → String → Prop
  | first {pointer : String} (asked : pointer ∈ met schema .null) :
      Asks document longest base schema (longest - base.length) base pointer
  | next {room : Nat} {trail : Trail} {pointer further : String} {target : Value}
      (asks : Asks document longest base schema (room + 1) trail pointer)
      (fresh : pointer ∉ trail) (leads : target? document pointer = some target)
      (asked : further ∈ met target .null) :
      Asks document longest base schema room (trail.insert pointer) further

/-- The plain conversion keeps a pointer that leads somewhere as a reference, since the trail
has no room for it. -/
def HitsBound (document : Value) (longest : Nat) (base : Trail) (schema : Value) : Prop :=
  ∃ trail pointer, Asks document longest base schema 0 trail pointer ∧ pointer ∉ trail ∧
    target? document pointer ≠ none

section

variable {document schema : Value} {longest room : Nat} {base trail : Trail} {pointer : String}

theorem Asks.room_eq (asks : Asks document longest base schema room trail pointer) :
    room = longest - trail.length := by
  induction asks with
  | first => rfl
  | next _ fresh _ _ ih =>
      rw [Trail.length_insert_of_not_mem fresh]
      omega

theorem Asks.base_subset (asks : Asks document longest base schema room trail pointer) :
    base ⊆ trail := by
  induction asks with
  | first => exact List.Subset.refl base
  | next _ _ _ _ ih => exact fun other held => Trail.mem_insert.mpr (.inr (ih held))

/-- The pointers of a trail lead to the one that is asked for. -/
theorem Asks.reaches (asks : Asks document longest base schema room trail pointer) :
    ∀ held ∈ trail, held ∈ base ∨ Relation.TransGen (Meets document) held pointer := by
  induction asks with
  | first => exact fun held inside => .inl inside
  | @next room trail pointer further target _ _ leads asked ih =>
      have meets : Meets document pointer further := ⟨target, leads, asked⟩
      intro held inside
      obtain rfl | earlier := Trail.mem_insert.mp inside
      · exact .inr (.single meets)
      · exact (ih held earlier).imp_right (·.tail meets)

/-- A pointer that expands is on no trail along which it is asked for. -/
theorem Expands.fresh {node : SchemaNode} (expands : Expands document base pointer node)
    (asks : Asks document longest base schema room trail pointer) : pointer ∉ trail :=
  fun held => (asks.reaches pointer held).elim expands.not_mem expands.not_cyclic

end

/-! ## Kept references and their expansions -/

/-- The second node is the first one with the expansions of some pointers in the place of
references to them. -/
inductive Filled (document : Value) (base : Trail) : SchemaNode → SchemaNode → Prop
  | expansion {pointer : String} {node : SchemaNode}
      (expands : Expands document base pointer node) :
      Filled document base (.reference pointer) node
  | reference (pointer : String) : Filled document base (.reference pointer) (.reference pointer)
  | schema (annotations : Annotations) (values : List Value)
      {composition other : Composition SchemaNode} {shape further : Shape SchemaNode}
      (branches : composition.Alike (Filled document base) other)
      (parts : shape.Alike (Filled document base) further) :
      Filled document base (.schema annotations values composition shape)
        (.schema annotations values other further)

theorem Filled.congruent (document : Value) (base : Trail) :
    Congruent (Filled document base) :=
  ⟨.reference, fun annotations values _ _ _ _ => .schema annotations values⟩

/-- A relation holds between the references that the plain conversion keeps for want of room
and the expansions of these pointers. -/
def Bridges (relation : SchemaNode → SchemaNode → Prop) (document : Value) (longest : Nat)
    (base : Trail) (schema : Value) : Prop :=
  ∀ trail pointer node, Asks document longest base schema 0 trail pointer →
    target? document pointer ≠ none → Expands document base pointer node →
      relation (.reference pointer) node

/-- The plain conversion gives the expansion of a pointer, up to what it keeps for want of
room. -/
theorem Expands.alike {document schema : Value} {longest room : Nat} {base trail : Trail}
    {pointer : String} {node : SchemaNode} {relation : SchemaNode → SchemaNode → Prop}
    (congruent : Congruent relation) (bridges : Bridges relation document longest base schema)
    (expands : Expands document base pointer node)
    (asks : Asks document longest base schema room trail pointer) :
    relation (plainWithin document room trail pointer) node := by
  -- Both follow the same chains; the plain conversion stops where its trail is full.
  induction expands generalizing room trail with
  | @dead pointer outside leads =>
      rw [plainWithin_dead (Expands.fresh (.dead outside leads) asks) leads]
      exact congruent.reference pointer
  | @live pointer target nodes outside leads count expand ih =>
      have expands : Expands document base pointer _ := .live outside leads count expand
      have fresh := expands.fresh asks
      cases room with
      | zero =>
          rw [plainWithin_stop fresh]
          exact bridges trail pointer _ asks (leads ▸ Option.some_ne_none target) expands
      | succ room =>
          rw [plainWithin_live fresh leads]
          refine congruent.rebuild target .null (List.length_map _) ?_
          refine List.forall₂_map_left_iff.mpr (List.forall₂_iff_zip.mpr ⟨count.symm, ?_⟩)
          intro next other paired
          exact ih _ paired (asks.next fresh leads (List.of_mem_zip paired).1)

end Inlining

end AsyncTypes

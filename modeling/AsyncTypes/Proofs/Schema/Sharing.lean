import AsyncTypes.Extraction.Messages
import AsyncTypes.Proofs.Schema.Expansion

/-!
# Inlining with remembered nodes

A node is shared when its conversion met neither a cut nor the bound, and then it is the
expansion of its pointer.  A place that finds it takes the whole expansion, also where the
trail has no room for it.  So the conversion differs from the plain one in nothing but
references that the plain one keeps at the bound.
-/

namespace AsyncTypes

namespace Inlining

open SchemaNode (met rebuild Congruent)

/-! ## One step -/

section

variable {document : Value} {room : Nat} {trail : Trail} {pointer : String}

theorem run_target_none (leads : target? document pointer = none) (before : Inlining) :
    ∃ log, (target document pointer).run before = (none, { before with log := log }) := by
  rw [target?, Option.filter_eq_none_iff] at leads
  rw [target]
  cases found : Pointer.walk? document pointer with
  | none => exact ⟨_, rfl⟩
  | some value =>
      have other := leads value found
      simp only [other]
      exact ⟨_, rfl⟩

theorem run_target_some {schema : Value} (leads : target? document pointer = some schema)
    (before : Inlining) : (target document pointer).run before = (some schema, before) := by
  rw [target?, Option.filter_eq_some_iff] at leads
  rw [target, leads.1]
  simp only [leads.2]
  rfl

theorem inlineWithin_cut (held : pointer ∈ trail) (before : Inlining) :
    ∃ log, (inlineWithin document room trail pointer).run before =
      (.empty, { before with trailDependent := before.trailDependent + 1, log := log }) := by
  cases room <;> rw [inlineWithin, if_pos (List.contains_iff_mem.mpr held)] <;> exact ⟨_, rfl⟩

theorem inlineWithin_stop (fresh : pointer ∉ trail) (before : Inlining) :
    ∃ log, (inlineWithin document 0 trail pointer).run before =
      (.reference pointer,
        { before with trailDependent := before.trailDependent + 1, log := log }) := by
  rw [inlineWithin, if_neg (mt List.contains_iff_mem.mp fresh)]
  exact ⟨_, rfl⟩

theorem inlineWithin_shared {before : Inlining} {node : SchemaNode} (fresh : pointer ∉ trail)
    (known : before.sharedNode? pointer = some node) :
    (inlineWithin document (room + 1) trail pointer).run before = (node, before) := by
  rw [inlineWithin, if_neg (mt List.contains_iff_mem.mp fresh), StateT.run_bind]
  simp only [StateT.run_get, pure_bind, known]
  rfl

section

variable {before : Inlining} (fresh : pointer ∉ trail)
  (unshared : before.sharedNode? pointer = none)
include fresh unshared

theorem inlineWithin_along {node : SchemaNode}
    (known : before.nodeAlong? pointer trail = some node) :
    (inlineWithin document (room + 1) trail pointer).run before =
      (node, before.countDependent) := by
  rw [inlineWithin, if_neg (mt List.contains_iff_mem.mp fresh), StateT.run_bind]
  simp only [StateT.run_get, pure_bind, unshared, known]
  rfl

variable (unknown : before.nodeAlong? pointer trail = none)
include unknown

theorem inlineWithin_dead (leads : target? document pointer = none) :
    ∃ log, (inlineWithin document (room + 1) trail pointer).run before =
      (.reference pointer, { before with log := log }.share pointer (.reference pointer)) := by
  obtain ⟨log, run⟩ := run_target_none leads before
  refine ⟨log, ?_⟩
  rw [inlineWithin, if_neg (mt List.contains_iff_mem.mp fresh), StateT.run_bind]
  simp only [StateT.run_get, pure_bind, unshared, unknown, StateT.run_bind, run]
  rfl

theorem inlineWithin_live {schema : Value} (leads : target? document pointer = some schema) :
    (inlineWithin document (room + 1) trail pointer).run before =
      let ran := ((met schema .null).mapM
        (inlineWithin document room (trail.insert pointer))).run before
      let node := rebuild schema .null ran.1
      (node,
        if ran.2.trailDependent = before.trailDependent then ran.2.share pointer node
        else ran.2.keepAlong pointer trail node) := by
  rw [inlineWithin, if_neg (mt List.contains_iff_mem.mp fresh), StateT.run_bind]
  simp only [StateT.run_get, pure_bind, unshared, unknown, StateT.run_bind,
    run_target_some leads, SchemaNode.convert_eq]
  let ran := ((met schema .null).mapM
    (inlineWithin document room (trail.insert pointer))).run before
  let node := rebuild schema .null ran.1
  -- The two writes stand under one condition on the counter, on both sides.
  change StateT.run (if ran.2.trailDependent = before.trailDependent then
      (do modify (share pointer node); return node)
    else (do modify (keepAlong pointer trail node); return node) : StateM Inlining SchemaNode)
      ran.2 = (node, if ran.2.trailDependent = before.trailDependent then
        ran.2.share pointer node else ran.2.keepAlong pointer trail node)
  split
  · rfl
  · rfl

end

end

/-! ## What is remembered -/

/-- What is remembered is right: a shared node is an expansion, and a node that is kept for a
trail is related to the plain one. -/
structure Remembers (relation : SchemaNode → SchemaNode → Prop) (document : Value)
    (longest : Nat) (base : Trail) (inlining : Inlining) : Prop where
  shared : ∀ entry ∈ inlining.shared, Expands document base entry.1 entry.2
  byTrail : ∀ entry ∈ inlining.byTrail,
    relation (plainWithin document (longest - entry.1.2.length) entry.1.2 entry.1.1) entry.2

/-- A pointer is answered rightly.  The count of dependent results stands still only when the
answer is the expansion of the pointer. -/
structure Answers (relation : SchemaNode → SchemaNode → Prop) (document : Value)
    (longest : Nat) (base : Trail) (plain : SchemaNode) (pointer : String) (before : Inlining)
    (ran : SchemaNode × Inlining) : Prop where
  alike : relation plain ran.1
  remembers : Remembers relation document longest base ran.2
  grows : before.trailDependent ≤ ran.2.trailDependent
  complete : ran.2.trailDependent = before.trailDependent → Expands document base pointer ran.1

/-- Pointers are answered rightly, one after another. -/
structure AnswersAll (relation : SchemaNode → SchemaNode → Prop) (document : Value)
    (longest : Nat) (base : Trail) (plains : List SchemaNode) (pointers : List String)
    (before : Inlining) (ran : List SchemaNode × Inlining) : Prop where
  alike : List.Forall₂ relation plains ran.1
  remembers : Remembers relation document longest base ran.2
  grows : before.trailDependent ≤ ran.2.trailDependent
  complete : ran.2.trailDependent = before.trailDependent →
    ∀ pair ∈ pointers.zip ran.1, Expands document base pair.1 pair.2

section

variable {relation : SchemaNode → SchemaNode → Prop} {document schema : Value}
  {longest room : Nat} {base trail : Trail} {pointer : String} {inlining : Inlining}

theorem Remembers.fresh : Remembers relation document longest base .fresh :=
  ⟨by simp [Inlining.fresh], by simp [Inlining.fresh]⟩

/-- A shared node that is found stands with its pointer. -/
theorem mem_of_sharedNode? {node : SchemaNode}
    (known : inlining.sharedNode? pointer = some node) : (pointer, node) ∈ inlining.shared := by
  obtain ⟨entry, found, rfl⟩ := Option.map_eq_some_iff.mp known
  have named := List.find?_some found
  obtain rfl : entry.1 = pointer := eq_of_beq named
  exact List.mem_of_find?_eq_some found

theorem Remembers.along {node : SchemaNode}
    (remembers : Remembers relation document longest base inlining)
    (known : inlining.nodeAlong? pointer trail = some node) :
    relation (plainWithin document (longest - trail.length) trail pointer) node := by
  obtain ⟨entry, found, rfl⟩ := Option.map_eq_some_iff.mp known
  have named := List.find?_some found
  have related := remembers.byTrail entry (List.mem_of_find?_eq_some found)
  rwa [show entry.1 = (pointer, trail) from eq_of_beq named] at related

theorem Remembers.share {node : SchemaNode}
    (remembers : Remembers relation document longest base inlining)
    (expands : Expands document base pointer node) :
    Remembers relation document longest base (inlining.share pointer node) := by
  refine ⟨fun entry held => ?_, remembers.byTrail⟩
  obtain earlier | new := List.mem_append.mp held
  · exact remembers.shared entry earlier
  · obtain rfl := List.mem_singleton.mp new
    exact expands

theorem Remembers.keepAlong {node : SchemaNode}
    (remembers : Remembers relation document longest base inlining)
    (alike : relation (plainWithin document (longest - trail.length) trail pointer) node) :
    Remembers relation document longest base (inlining.keepAlong pointer trail node) := by
  refine ⟨remembers.shared, fun entry held => ?_⟩
  obtain earlier | new := List.mem_append.mp held
  · exact remembers.byTrail entry earlier
  · obtain rfl := List.mem_singleton.mp new
    exact alike

/-! ## A whole conversion -/

/-- Pointers are answered rightly when each of them is. -/
theorem answersAll_mapM {inline : String → StateM Inlining SchemaNode}
    {plain : String → SchemaNode} {pointers : List String}
    (each : ∀ pointer ∈ pointers, ∀ before, Remembers relation document longest base before →
      Answers relation document longest base (plain pointer) pointer before
        ((inline pointer).run before))
    (before : Inlining) (remembers : Remembers relation document longest base before) :
    AnswersAll relation document longest base (pointers.map plain) pointers before
      ((pointers.mapM inline).run before) := by
  induction pointers generalizing before with
  | nil =>
      rw [List.mapM_nil]
      exact ⟨.nil, remembers, Nat.le_refl _, fun _ pair held => nomatch held⟩
  | cons pointer rest ih =>
      rw [List.mapM_cons]
      have here := each pointer List.mem_cons_self before remembers
      have later := ih (fun other inside => each other (List.mem_cons_of_mem pointer inside))
        ((inline pointer).run before).2 here.remembers
      refine ⟨.cons here.alike later.alike, later.remembers,
        Nat.le_trans here.grows later.grows, ?_⟩
      intro still pair held
      -- The count grows in neither part when it stands still in the whole.
      have stillLater := Nat.le_antisymm (still ▸ here.grows) later.grows
      have stillHere := Nat.le_antisymm (still ▸ later.grows) here.grows
      obtain rfl | held := List.mem_cons.mp held
      · exact here.complete stillHere
      · exact later.complete stillLater pair held

/-- An answer that counts as dependent need not be an expansion. -/
theorem answers_of_counted {plain node : SchemaNode} {before : Inlining}
    (alike : relation plain node) (remembers : Remembers relation document longest base before)
    (log : List Log.Entry) :
    Answers relation document longest base plain pointer before
      (node, { before with trailDependent := before.trailDependent + 1, log := log }) :=
  ⟨alike, ⟨remembers.shared, remembers.byTrail⟩, Nat.le_succ _,
    fun still => absurd still (Nat.succ_ne_self _)⟩

theorem answers_cut (congruent : Congruent relation) (held : pointer ∈ trail) {before : Inlining}
    (remembers : Remembers relation document longest base before) :
    Answers relation document longest base (plainWithin document room trail pointer) pointer
      before ((inlineWithin document room trail pointer).run before) := by
  obtain ⟨log, run⟩ := inlineWithin_cut held before
  rw [plainWithin_cut held, run]
  exact answers_of_counted congruent.empty remembers log

/-- Every pointer that the plain conversion asks for is answered rightly. -/
theorem answers_inlineWithin (congruent : Congruent relation)
    (bridges : Bridges relation document longest base schema)
    (asks : Asks document longest base schema room trail pointer) (before : Inlining)
    (remembers : Remembers relation document longest base before) :
    Answers relation document longest base (plainWithin document room trail pointer) pointer
      before ((inlineWithin document room trail pointer).run before) := by
  -- The room falls with every pointer of a chain; what is remembered goes through all of them.
  induction room generalizing trail pointer before with
  | zero =>
      by_cases held : pointer ∈ trail
      · exact answers_cut congruent held remembers
      · obtain ⟨log, run⟩ := inlineWithin_stop held before
        rw [plainWithin_stop held, run]
        exact answers_of_counted (congruent.reference pointer) remembers log
  | succ room ih =>
      by_cases held : pointer ∈ trail
      · exact answers_cut congruent held remembers
      cases shared : before.sharedNode? pointer with
      | some node =>
          -- Here the plain conversion may have no room left for the end of a chain.
          have expands := remembers.shared _ (mem_of_sharedNode? shared)
          rw [inlineWithin_shared held shared]
          exact ⟨expands.alike congruent bridges asks, remembers, Nat.le_refl _, fun _ => expands⟩
      | none =>
          cases along : before.nodeAlong? pointer trail with
          | some node =>
              rw [inlineWithin_along held shared along, asks.room_eq]
              exact answers_of_counted (remembers.along along) remembers before.log
          | none =>
              have outside : pointer ∉ base := fun inside => held (asks.base_subset inside)
              cases leads : target? document pointer with
              | none =>
                  have expands : Expands document base pointer _ := .dead outside leads
                  obtain ⟨log, run⟩ := inlineWithin_dead held shared along leads
                  have warned : Remembers relation document longest base
                      { before with log := log } := ⟨remembers.shared, remembers.byTrail⟩
                  rw [plainWithin_dead held leads, run]
                  exact ⟨congruent.reference pointer, warned.share expands, Nat.le_refl _,
                    fun _ => expands⟩
              | some target =>
                  have all := answersAll_mapM
                    (fun next asked => ih (asks.next held leads asked)) before remembers
                  have count := SchemaNode.length_run_mapM
                    (inlineWithin document room (trail.insert pointer)) (met target .null) before
                  have alike := congruent.rebuild target .null (List.length_map _) all.alike
                  rw [← plainWithin_live held leads] at alike
                  have complete := fun still =>
                    Expands.live outside leads count (all.complete still)
                  rw [inlineWithin_live held shared along leads]
                  dsimp only
                  split
                  case isTrue still =>
                    exact ⟨alike, all.remembers.share (complete still), all.grows, complete⟩
                  case isFalse =>
                    exact ⟨alike, all.remembers.keepAlong (asks.room_eq ▸ alike), all.grows,
                      complete⟩

/-- The conversion of a schema is related to the plain one. -/
theorem alike_convertAlong (congruent : Congruent relation)
    (bridges : Bridges relation document maxTrail base schema) :
    relation (plainAlong document maxTrail base schema)
      (convertFresh document base schema .null).value := by
  have all := answersAll_mapM (fun next asked => answers_inlineWithin congruent bridges
    (.first asked)) .fresh .fresh
  have alike := congruent.rebuild schema .null (List.length_map _) all.alike
  rw [plainAlong, SchemaNode.run_convert_pure]
  rw [convertFresh, convertAlong, SchemaNode.convert_eq]
  exact alike

end

end Inlining

/-! ## Remembered nodes in the trees of a document -/

namespace Extraction

open Inlining

/-- With remembered nodes, the tree of a schema is the plain one, except that expansions may
stand in the place of references that the bound keeps.  It is the plain one when the bound
keeps no reference that leads somewhere, whatever is cut. -/
theorem inlined_fills_plain (document : Value) (trail : Trail) (schema : Value) :
    Filled document trail (plainAlong document maxTrail trail schema)
        (schemaAlong document .inlined trail schema).value ∧
      (¬HitsBound document maxTrail trail schema →
        (schemaAlong document .inlined trail schema).value =
          plainAlong document maxTrail trail schema) := by
  refine ⟨?filled, fun inside => ?equal⟩
  case filled =>
    have bridges : Bridges (Filled document trail) document maxTrail trail schema :=
      fun _ _ _ _ _ expands => .expansion expands
    exact alike_convertAlong (Filled.congruent document trail) bridges
  case equal =>
    have bridges : Bridges Eq document maxTrail trail schema :=
      fun chain pointer _ asks leads expands =>
        absurd ⟨chain, pointer, asks, expands.fresh asks, leads⟩ inside
    exact (alike_convertAlong SchemaNode.congruent_eq bridges).symm

/-- A reference to a component schema. -/
def refer (name : String) : Value :=
  .record [("$ref", .string (Pointer.schemaRoot ++ name))]

/-- A list of what another component schema describes. -/
def listOf (name : String) : Value :=
  .record [("type", .string "array"), ("items", refer name)]

/-- A document with some component schemas. -/
def withSchemas (schemas : List (String × Value)) : Value :=
  .record [("components", .record [("schemas", .record schemas)])]

/-- A schema with two properties. -/
def twoProperties (first second : String) : Value :=
  .record [("properties", .record [("first", refer first), ("second", refer second)])]

/-- A component schema that describes lists of itself. -/
def nestedLists : Value :=
  withSchemas [("Nest", listOf "Nest")]

theorem nestedLists_fills_plain :
    ¬HitsBound nestedLists maxTrail [] (twoProperties "Nest" "Nest") ∧
      (schemaAlong nestedLists .inlined [] (twoProperties "Nest" "Nest")).value =
        plainAlong nestedLists maxTrail [] (twoProperties "Nest" "Nest") := by
  let nest := Pointer.schemaRoot ++ "Nest"
  have asked : (target? nestedLists nest).map (SchemaNode.met · .null) = some [nest] := by
    decide +kernel
  -- The pointer is asked for once with an empty trail, and then it is cut.
  have known : ∀ {room trail pointer},
      Asks nestedLists maxTrail [] (twoProperties "Nest" "Nest") room trail pointer →
        pointer = nest ∧ (trail = [] ∧ room = 10 ∨ nest ∈ trail) := by
    intro room trail pointer asks
    induction asks with
    | first held =>
        have first : SchemaNode.met (twoProperties "Nest" "Nest") .null = [nest, nest] := by
          decide +kernel
        rw [first] at held
        exact ⟨by simpa using held, .inl ⟨rfl, rfl⟩⟩
    | @next _ _ _ _ target _ _ leads held ih =>
        obtain ⟨rfl, -⟩ := ih
        rw [leads] at asked
        have single : SchemaNode.met target .null = [nest] := Option.some.inj asked
        rw [single] at held
        exact ⟨List.mem_singleton.mp held, .inr (Trail.mem_insert.mpr (.inl rfl))⟩
  have inside : ¬HitsBound nestedLists maxTrail [] (twoProperties "Nest" "Nest") := by
    rintro ⟨trail, pointer, asks, fresh, -⟩
    obtain ⟨rfl, ⟨-, more⟩ | held⟩ := known asks
    · contradiction
    · exact fresh held
  exact ⟨inside, (inlined_fills_plain nestedLists [] _).2 inside⟩

/-- A chain of references to a list of lists, so long that no more than this list joins the
trail of the component where it begins. -/
def longChain : Value :=
  withSchemas [("Sheet", twoProperties "Table" "A"), ("Table", listOf "Row"), ("Row", listOf "Cell"),
    ("Cell", .record [("type", .string "string")]), ("A", refer "B"), ("B", refer "C"),
    ("C", refer "D"), ("D", refer "E"), ("E", refer "F"), ("F", refer "G"), ("G", refer "H"),
    ("H", refer "Table")]

/-- The pointer to the items of the second of two properties. -/
def secondItems? (node : SchemaNode) : Option String := do
  let properties ← (← node.shape?).properties
  let second ← properties[1]?
  let items ← (← second.2.shape?).items
  match items with
  | .reference pointer => some pointer
  | .schema _ _ _ _ => none

/-- The first property leaves a node that the second one takes, beyond the bound. -/
theorem longChain_differs :
    (schemaAlong longChain .inlined [Pointer.schemaRoot ++ "Sheet"]
        (twoProperties "Table" "A")).value ≠
      plainAlong longChain maxTrail [Pointer.schemaRoot ++ "Sheet"] (twoProperties "Table" "A") := by
  have kept : secondItems? (plainAlong longChain maxTrail [Pointer.schemaRoot ++ "Sheet"]
      (twoProperties "Table" "A")) = some (Pointer.schemaRoot ++ "Row") := by decide +kernel
  have filled : secondItems? (schemaAlong longChain .inlined [Pointer.schemaRoot ++ "Sheet"]
      (twoProperties "Table" "A")).value = none := by decide +kernel
  intro same
  rw [same] at filled
  exact Option.some_ne_none _ (kept.symm.trans filled)

end Extraction

end AsyncTypes

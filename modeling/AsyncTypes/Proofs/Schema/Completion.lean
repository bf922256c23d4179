import AsyncTypes.Proofs.Schema.Sharing
import AsyncTypes.Proofs.Schema.Source

/-!
# Inlining to completion

A trail holds pointers of references of the document, each once, and perhaps the pointer of the
component where it begins.  So in a document with few references no trail becomes full: every
chain of pointers is followed until it leads nowhere or comes back to its trail, and the only
references that inlining leaves are those whose pointers lead to no mapping.

Inlining also comes to an end in every document, whatever circles its pointers form.  It is stated
as a derivation of the answer from the rules of a call, in which nothing but the trail and what is
remembered decides which calls are made.
-/

namespace AsyncTypes

namespace Trail

variable {pointer : String} {trail : Trail}

/-- A trail with one more pointer holds this pointer and those before, in some order. -/
theorem perm_insert (fresh : pointer ∉ trail) : (insert pointer trail).Perm (pointer :: trail) := by
  induction trail with
  | nil => exact .refl _
  | cons first rest ih =>
      rw [List.mem_cons, not_or] at fresh
      rw [insert, if_neg fresh.1]
      split
      · exact .refl _
      · exact ((ih fresh.2).cons first).trans (.swap pointer first rest)

end Trail

/-! ## Pointers that nodes hold -/

namespace SchemaNode

variable {kept : String → Prop}

/-- Of two nodes, the second one holds no pointer but those that are kept, if the first one
does. -/
def StaysWithin (kept : String → Prop) (first second : SchemaNode) : Prop :=
  first.Within kept → second.Within kept

variable {first second : List SchemaNode}

/-- Nodes that stay within, one for one, are within when all nodes before them are. -/
theorem within_of_forall₂ (alike : List.Forall₂ (StaysWithin kept) first second)
    (within : ∀ node ∈ first, node.Within kept) : ∀ node ∈ second, node.Within kept := by
  induction alike with
  | nil => exact within
  | cons here _ ih =>
      obtain ⟨head, tail⟩ := List.forall_mem_cons.mp within
      exact List.forall_mem_cons.mpr ⟨here head, ih tail⟩

theorem within_of_branchesAlike {first second : Option (List SchemaNode)}
    (alike : Option.Rel (List.Forall₂ (StaysWithin kept)) first second)
    (within : ∀ node ∈ Composition.branches first, node.Within kept) :
    ∀ node ∈ Composition.branches second, node.Within kept := by
  cases alike with
  | none => exact within
  | some nodes => exact within_of_forall₂ nodes within

theorem within_of_compositionAlike {first second : Composition SchemaNode}
    (alike : first.Alike (StaysWithin kept) second)
    (within : ∀ node ∈ first.allBranches, node.Within kept) :
    ∀ node ∈ second.allBranches, node.Within kept := by
  obtain ⟨underAll, underAny, underOne⟩ := alike
  simp only [Composition.mem_allBranches] at within ⊢
  rintro node (all | any | one)
  · exact within_of_branchesAlike underAll (fun node listed => within node (.inl listed)) node all
  · exact within_of_branchesAlike underAny
      (fun node listed => within node (.inr (.inl listed))) node any
  · exact within_of_branchesAlike underOne
      (fun node listed => within node (.inr (.inr listed))) node one

/-- The parts of properties that are alike stay within one for one, and so do the other parts of
shapes. -/
theorem forall₂_of_propertiesAlike {first second : List (String × SchemaNode)}
    (alike : PropertiesAlike (StaysWithin kept) first second) :
    List.Forall₂ (StaysWithin kept) (first.map (·.2)) (second.map (·.2)) := by
  induction alike with
  | nil => exact .nil
  | cons name here _ ih => exact .cons here ih

theorem forall₂_of_shapeAlike {first second : Shape SchemaNode}
    (alike : first.Alike (StaysWithin kept) second) :
    List.Forall₂ (StaysWithin kept) first.parts second.parts := by
  obtain ⟨types, required, sameProperties, sameItems, sameRest⟩ := alike
  refine List.rel_append (List.rel_append ?_ ?_) ?_
  · cases sameProperties with
    | none => exact .nil
    | some properties => exact forall₂_of_propertiesAlike properties
  · cases sameItems with
    | none => exact .nil
    | some items => exact .cons items .nil
  · cases sameRest with
    | absent => exact .nil
    | allowed flag => exact .nil
    | schema node => exact .cons node .nil

/-- Nodes that are built alike stay within when their parts do. -/
theorem congruent_staysWithin (kept : String → Prop) : Congruent (StaysWithin kept) := by
  constructor
  · exact fun _ within => within
  · intro annotations values composition other shape further branches parts within
    rw [within_schema_iff] at within ⊢
    intro part listed
    rcases List.mem_append.mp listed with branch | inside
    · exact within_of_compositionAlike branches
        (fun node held => within node (List.mem_append_left _ held)) part branch
    · exact within_of_forall₂ (forall₂_of_shapeAlike parts)
        (fun node held => within node (List.mem_append_right _ held)) part inside

end SchemaNode

namespace Inlining

open SchemaNode (met rebuild StaysWithin)

variable {document schema : Value} {base trail : Trail} {known : List String} {pointer : String}

/-! ## Documents with few references -/

/-- A pointer that leads to no mapping. -/
def Dead (document : Value) (pointer : String) : Prop :=
  target? document pointer = none

section

variable (within : document.Within (· ∈ known)) (few : known.length < maxTrail)
  (short : base.length ≤ 1)

include few short in
/-- A trail of known pointers has room for one more. -/
theorem length_lt_of_fresh (distinct : trail.Nodup) (inside : trail ⊆ base ++ known)
    (isKnown : pointer ∈ known) (fresh : pointer ∉ trail) : trail.length < maxTrail := by
  have longer : (pointer :: trail).Nodup := List.nodup_cons.mpr ⟨fresh, distinct⟩
  have held : pointer :: trail ⊆ base ++ known :=
    List.cons_subset.mpr ⟨List.mem_append_right _ isKnown, inside⟩
  have fits := (longer.subperm held).length_le
  rw [List.length_cons, List.length_append] at fits
  omega

include within few short

/-- With nothing remembered, the references that are left are dead. -/
theorem within_plainWithin (room : Nat) (trail : Trail) (pointer : String)
    (fill : room + trail.length = maxTrail) (distinct : trail.Nodup)
    (inside : trail ⊆ base ++ known) (isKnown : pointer ∈ known) :
    (plainWithin document room trail pointer).Within (Dead document) := by
  induction room generalizing trail pointer with
  | zero =>
      by_cases held : pointer ∈ trail
      · rw [plainWithin_cut held]
        exact SchemaNode.within_empty
      · -- The bound is not reached: there are not enough pointers for a full trail.
        have room := length_lt_of_fresh few short distinct inside isKnown held
        omega
  | succ room ih =>
      by_cases held : pointer ∈ trail
      · rw [plainWithin_cut held]
        exact SchemaNode.within_empty
      cases leads : target? document pointer with
      | none =>
          rw [plainWithin_dead held leads]
          exact SchemaNode.within_reference_iff.mpr leads
      | some target =>
          have reached := (Option.filter_eq_some_iff.mp leads).1
          have targetWithin := within.mono (Pointer.partOf_of_walk? reached)
          have permuted := Trail.perm_insert held
          have further : ∀ next ∈ known, SchemaNode.Gives (SchemaNode.Within (Dead document))
              (return plainWithin document room (trail.insert pointer) next :
                StateM Unit SchemaNode) := by
            intro next nextKnown
            refine .pure (ih _ next ?_ ?_ ?_ nextKnown)
            · rw [permuted.length_eq, List.length_cons]
              omega
            · exact permuted.nodup_iff.mpr (List.nodup_cons.mpr ⟨held, distinct⟩)
            · exact List.Subset.trans permuted.subset
                (List.cons_subset.mpr ⟨List.mem_append_right _ isKnown, inside⟩)
          rw [plainWithin, if_neg (mt List.contains_iff_mem.mp held)]
          simp only [leads]
          exact SchemaNode.gives_convert further target .null targetWithin
            (Value.within_scalar .null) ()

theorem within_plainAlong (schemaWithin : schema.Within (· ∈ known)) :
    (plainAlong document maxTrail base schema).Within (Dead document) := by
  have distinct : base.Nodup := by
    match base, short with
    | [], _ => exact List.nodup_nil
    | [own], _ => exact List.nodup_singleton own
  have asked : ∀ next ∈ known, SchemaNode.Gives (SchemaNode.Within (Dead document))
      (return plainWithin document (maxTrail - base.length) base next :
        StateM Unit SchemaNode) := by
    intro next nextKnown
    refine .pure (within_plainWithin within few short _ base next ?_ distinct
      (List.subset_append_left _ _) nextKnown)
    omega
  exact SchemaNode.gives_convert asked schema .null schemaWithin (Value.within_scalar .null) ()

/-- With remembered nodes, too: a node that takes the place of a reference takes that of a
pointer that leads somewhere. -/
theorem within_convertFresh (schemaWithin : schema.Within (· ∈ known)) :
    (convertFresh document base schema .null).value.Within (Dead document) := by
  have bridges : Bridges (StaysWithin (Dead document)) document maxTrail base schema := by
    intro trail pointer node _ leads _ dead
    exact absurd (SchemaNode.within_reference_iff.mp dead) leads
  exact alike_convertAlong (SchemaNode.congruent_staysWithin _) bridges
    (within_plainAlong within few short schemaWithin)

end

/-! ## Calls -/

mutual

/-- A pointer that is met along a trail is answered, and so are the pointers that its target asks
for.  What the log says is left open. -/
inductive Answered (document : Value) (longest : Nat) :
    Trail → String → Inlining → SchemaNode × Inlining → Prop
  | cut {trail : Trail} {pointer : String} (before : Inlining) (log : List Log.Entry)
      (held : pointer ∈ trail) :
      Answered document longest trail pointer before
        (.empty, { before with trailDependent := before.trailDependent + 1, log := log })
  | stop {trail : Trail} {pointer : String} (before : Inlining) (log : List Log.Entry)
      (fresh : pointer ∉ trail) (full : longest ≤ trail.length) :
      Answered document longest trail pointer before
        (.reference pointer,
          { before with trailDependent := before.trailDependent + 1, log := log })
  | shared {trail : Trail} {pointer : String} {before : Inlining} {node : SchemaNode}
      (fresh : pointer ∉ trail) (room : trail.length < longest)
      (known : before.sharedNode? pointer = some node) :
      Answered document longest trail pointer before (node, before)
  | along {trail : Trail} {pointer : String} {before : Inlining} {node : SchemaNode}
      (fresh : pointer ∉ trail) (room : trail.length < longest)
      (unshared : before.sharedNode? pointer = none)
      (known : before.nodeAlong? pointer trail = some node) :
      Answered document longest trail pointer before (node, before.countDependent)
  | dead {trail : Trail} {pointer : String} {before : Inlining} (log : List Log.Entry)
      (fresh : pointer ∉ trail) (room : trail.length < longest)
      (unshared : before.sharedNode? pointer = none)
      (unknown : before.nodeAlong? pointer trail = none)
      (leads : target? document pointer = none) :
      Answered document longest trail pointer before
        (.reference pointer, { before with log := log }.share pointer (.reference pointer))
  | live {trail : Trail} {pointer : String} {before : Inlining} {schema : Value}
      {ran : List SchemaNode × Inlining} (fresh : pointer ∉ trail)
      (room : trail.length < longest) (unshared : before.sharedNode? pointer = none)
      (unknown : before.nodeAlong? pointer trail = none)
      (leads : target? document pointer = some schema)
      (parts : AnsweredAll document longest (trail.insert pointer) (met schema .null) before ran) :
      Answered document longest trail pointer before
        (rebuild schema .null ran.1,
          if ran.2.trailDependent = before.trailDependent then
            ran.2.share pointer (rebuild schema .null ran.1)
          else ran.2.keepAlong pointer trail (rebuild schema .null ran.1))

/-- Pointers that are met along a trail are answered, one after another. -/
inductive AnsweredAll (document : Value) (longest : Nat) :
    Trail → List String → Inlining → List SchemaNode × Inlining → Prop
  | nil (trail : Trail) (before : Inlining) :
      AnsweredAll document longest trail [] before ([], before)
  | cons {trail : Trail} {pointer : String} {rest : List String} {before : Inlining}
      {here : SchemaNode × Inlining} {later : List SchemaNode × Inlining}
      (first : Answered document longest trail pointer before here)
      (others : AnsweredAll document longest trail rest here.2 later) :
      AnsweredAll document longest trail (pointer :: rest) before (here.1 :: later.1, later.2)

end

/-- Pointers are answered when each of them is. -/
theorem answeredAll_mapM {longest : Nat} {inline : String → StateM Inlining SchemaNode}
    (each : ∀ pointer before,
      Answered document longest trail pointer before ((inline pointer).run before))
    (pointers : List String) (before : Inlining) :
    AnsweredAll document longest trail pointers before ((pointers.mapM inline).run before) := by
  induction pointers generalizing before with
  | nil =>
      rw [List.mapM_nil]
      exact .nil trail before
  | cons pointer rest ih =>
      rw [List.mapM_cons]
      exact .cons (each pointer before) (ih _)

/-- A call on the trail is answered at once, however much room is left. -/
theorem answered_of_mem_trail {longest : Nat} (held : pointer ∈ trail) (room : Nat)
    (before : Inlining) : Answered document longest trail pointer before
      ((inlineWithin document room trail pointer).run before) := by
  obtain ⟨log, run⟩ := inlineWithin_cut held before
  rw [run]
  exact .cut before log held

/-- Every call comes to an end, since each one is made along a longer trail. -/
theorem answered_inline (document : Value) (longest : Nat) (trail : Trail) (pointer : String)
    (before : Inlining) : Answered document longest trail pointer before
      ((inline document longest trail pointer).run before) := by
  rw [inline]
  generalize left : longest - trail.length = room
  induction room generalizing trail pointer before with
  | zero =>
      by_cases held : pointer ∈ trail
      · exact answered_of_mem_trail held 0 before
      · obtain ⟨log, run⟩ := inlineWithin_stop held before
        rw [run]
        exact .stop before log held (Nat.sub_eq_zero_iff_le.mp left)
  | succ room ih =>
      by_cases held : pointer ∈ trail
      · exact answered_of_mem_trail held (room + 1) before
      have space : trail.length < longest := by omega
      cases shared : before.sharedNode? pointer with
      | some node =>
          rw [inlineWithin_shared held shared]
          exact .shared held space shared
      | none =>
          cases along : before.nodeAlong? pointer trail with
          | some node =>
              rw [inlineWithin_along held shared along]
              exact .along held space shared along
          | none =>
              cases leads : target? document pointer with
              | none =>
                  obtain ⟨log, run⟩ := inlineWithin_dead held shared along leads
                  rw [run]
                  exact .dead log held space shared along leads
              | some schema =>
                  have longer : longest - (trail.insert pointer).length = room := by
                    rw [Trail.length_insert_of_not_mem held]
                    omega
                  rw [inlineWithin_live held shared along leads]
                  exact .live held space shared along leads
                    (answeredAll_mapM (fun next after => ih _ next after longer) _ before)

/-- The conversion of a schema comes to an end: the pointers that it asks for are answered, and the
node is built from the answers. -/
theorem exists_answeredAll (document : Value) (base : Trail) (schema : Value) :
    ∃ ran, AnsweredAll document maxTrail base (met schema .null) fresh ran ∧
      (convertFresh document base schema .null).value = rebuild schema .null ran.1 := by
  refine ⟨_, answeredAll_mapM (answered_inline document maxTrail base) _ fresh, ?_⟩
  rw [convertFresh, convertAlong, SchemaNode.convert_eq]
  rfl

end Inlining

end AsyncTypes

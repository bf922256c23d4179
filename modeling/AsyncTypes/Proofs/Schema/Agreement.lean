import AsyncTypes.Proofs.Schema.Expansion

/-!
# Documents that agree on the pointers that are met

The inlining of a schema asks a document for the pointers that the schema holds, and for those
that their targets hold.  Two documents in which these pointers lead to the same values give the
same node, whatever else stands in them.
-/

namespace AsyncTypes

namespace SchemaNode

theorem mapM_congr {σ : Type} {inline inlineAlso : String → StateM σ SchemaNode}
    {pointers : List String} (same : ∀ pointer ∈ pointers, inline pointer = inlineAlso pointer) :
    pointers.mapM inline = pointers.mapM inlineAlso := by
  induction pointers with
  | nil => rfl
  | cons pointer rest ih =>
      obtain ⟨here, later⟩ := List.forall_mem_cons.mp same
      rw [List.mapM_cons, List.mapM_cons, here, ih later]

/-- A conversion depends on its inliner at the pointers that it asks for. -/
theorem convert_congr {σ : Type} {inline inlineAlso : String → StateM σ SchemaNode}
    {schema raw : Value} (same : ∀ pointer ∈ met schema raw, inline pointer = inlineAlso pointer) :
    convert inline schema raw = convert inlineAlso schema raw := by
  rw [convert_eq, convert_eq, mapM_congr same]

end SchemaNode

namespace Inlining

open SchemaNode (met)

variable {document other schema : Value} {pointer : String}

/-- The pointer is asked for when the references of a schema are inlined, along some trail. -/
def MetFrom (document schema : Value) (pointer : String) : Prop :=
  ∃ first ∈ met schema .null, Relation.ReflTransGen (Meets document) first pointer

/-- From a pointer on, two documents lead to the same values wherever the inlining goes. -/
def AgreeFrom (document other : Value) (pointer : String) : Prop :=
  ∀ next, Relation.ReflTransGen (Meets document) pointer next →
    Pointer.walk? other next = Pointer.walk? document next

theorem AgreeFrom.of_meets {next : String} (agree : AgreeFrom document other pointer)
    (meets : Meets document pointer next) : AgreeFrom document other next :=
  fun last onward => agree last (.head meets onward)

/-- Documents that agree from a pointer on give the same node for it. -/
theorem inlineWithin_eq (agree : AgreeFrom document other pointer) (room : Nat) (trail : Trail) :
    inlineWithin other room trail pointer = inlineWithin document room trail pointer := by
  induction room generalizing trail pointer with
  | zero => rw [inlineWithin, inlineWithin]
  | succ room ih =>
      have here : target other pointer = target document pointer := by
        rw [target, target, agree pointer .refl]
      rw [inlineWithin, inlineWithin, here, target]
      cases reached : Pointer.walk? document pointer with
      | none => rfl
      | some schema =>
          cases mapping : schema.isMap with
          | false => simp only [mapping, Bool.false_eq_true, if_false, pure_bind]
          | true =>
              have leads : target? document pointer = some schema := by
                rw [target?, reached]
                simp [mapping]
              have same : SchemaNode.convert (inlineWithin other room (trail.insert pointer))
                  schema .null = SchemaNode.convert
                    (inlineWithin document room (trail.insert pointer)) schema .null :=
                SchemaNode.convert_congr fun next asked =>
                  ih (agree.of_meets ⟨schema, leads, asked⟩) _
              simp only [mapping, if_true, pure_bind, same]

/-- Documents that agree from the pointers of a schema on give the same node for it. -/
theorem convertFresh_eq (agree : ∀ pointer, MetFrom document schema pointer →
    Pointer.walk? other pointer = Pointer.walk? document pointer) (trail : Trail) :
    convertFresh other trail schema .null = convertFresh document trail schema .null := by
  have same : convertAlong other trail schema .null = convertAlong document trail schema .null :=
    SchemaNode.convert_congr fun first asked =>
      inlineWithin_eq (fun next onward => agree next ⟨first, asked, onward⟩) _ trail
  rw [convertFresh, convertFresh, same]

end Inlining

end AsyncTypes

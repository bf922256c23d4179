import AsyncTypes.Proofs.Extraction.Gate
import AsyncTypes.Proofs.Extraction.ObjectChain
import AsyncTypes.Proofs.Extraction.References
import AsyncTypes.Proofs.Schema.Completion

/-!
# Models with inlined references

Reading a valid document with its references inlined comes to an end: every schema is converted by
finitely many calls, and every chain of references to a message or to another object has a last
value.  When the document has few references, the model refers to nothing that is there: each
reference that a component schema, a payload or headers still hold has a pointer that leads to no
mapping.
-/

namespace AsyncTypes.Extraction

open Inlining (AnsweredAll Dead maxTrail)
open SchemaNode (met rebuild)
open TypeScript (MessageWithin)
open Validation (validate)

variable {document : Value}

/-- All pointers that the nodes of the model hold are kept: those of its component schemas, and
those in payloads and headers of its messages. -/
structure ModelWithin (kept : String → Prop) (model : Document) : Prop where
  schemas : ∀ entry ∈ model.schemas, entry.2.Within kept
  messages : ∀ message ∈ model.messages, MessageWithin kept message
  channels : ∀ channel ∈ model.channels, ChannelWithin kept channel

theorem within_read {references : References} {known kept : String → Prop}
    (converts : ConvertsWithin document references known kept) (within : document.Within known)
    (identity : Identity) (warnings : List String) :
    ModelWithin kept (read document references identity warnings).value :=
  ⟨within_schemas converts within, within_messages converts within,
    within_channels converts within⟩

/-- In a document with few references, inlining leaves dead pointers only. -/
theorem convertsWithin_inlined {known : List String}
    (ofDocument : ∀ pointer, document.Refers pointer → pointer ∈ known)
    (few : known.length < maxTrail) :
    ConvertsWithin document .inlined (· ∈ known) (Dead document) :=
  fun _ _ short within => Inlining.within_convertFresh ofDocument few short within

/-- A valid document is read to a model when references are inlined, whatever circles its
pointers form.  The pointers that a schema asks for are answered one after another, each by the
calls that the rules of the inlining make and by no others, and every chain of references to a
message or to another object is followed to its last value.  If the document refers by fewer
pointers than the longest trail holds, every reference that is left in a component schema, in a
payload or in headers, of the components, of the channels or of their operations, carries a
pointer that leads to no mapping. -/
theorem inlined_within_dead (mapping : document.isMap = true)
    (contained : (validate document).escape = none) (valid : (validate document).isValid = true) :
    (∀ trail schema, ∃ ran, AnsweredAll document maxTrail trail (met schema .null) .fresh ran ∧
      (schemaAlong document .inlined trail schema).value = rebuild schema .null ran.1) ∧
    (∀ value, ∃ pointers last, Followed document value pointers last ∧
      (∀ name, (followMessage document name value).value =
        (pointers.foldl nameAfter name, object? last)) ∧
      (Pointer.dereference document value).value =
        if value.reference?.isSome then resolved last else value) ∧
    ∃ model, (extract document .inlined).run.value = .ok model ∧
      ∀ known : List String, (∀ pointer, document.Refers pointer → pointer ∈ known) →
        known.length < maxTrail → ModelWithin (Dead document) model := by
  refine ⟨Inlining.exists_answeredAll document, ?_, ?_⟩
  · intro value
    obtain ⟨pointers, last, followed, object⟩ := exists_resolved document value
    exact ⟨pointers, last, followed, followMessage_of_followed followed, object⟩
  · obtain ⟨identity, -, outcome⟩ := @extract_of_isValid document .inlined mapping contained valid
    refine ⟨_, outcome, fun known ofDocument few => ?_⟩
    exact within_read (convertsWithin_inlined ofDocument few) ofDocument identity _

/-- Two component schemas that refer to each other, and a reference that leads nowhere. -/
def inCircle : Value :=
  .record [("asyncapi", .string "3.0.0"),
    ("info", .record [("title", .string "Rings"), ("version", .string "1")]),
    ("channels", .map []),
    ("components", .record [("schemas", .record [
      ("Ring", .record [("properties", .record [
        ("next", .record [("$ref", .string "#/components/schemas/Pearl")])])]),
      ("Pearl", .record [("properties", .record [
        ("ring", .record [("$ref", .string "#/components/schemas/Ring")]),
        ("clasp", .record [("$ref", .string "#/components/schemas/Clasp")])])])])])]

theorem inCircle_within_dead :
    (validate inCircle).isValid = true ∧
      inCircle.references = ["#/components/schemas/Pearl", "#/components/schemas/Ring",
        "#/components/schemas/Clasp"] ∧
      ∃ model, (extract inCircle .inlined).run.value = .ok model ∧
        ModelWithin (Dead inCircle) model ∧ ¬Dead inCircle "#/components/schemas/Ring" := by
  have verdict : validate inCircle =
      ⟨[], ["Unresolved schema reference: #/components/schemas/Clasp"], none⟩ := by decide +kernel
  have references : inCircle.references = ["#/components/schemas/Pearl",
      "#/components/schemas/Ring", "#/components/schemas/Clasp"] := by decide +kernel
  obtain ⟨-, -, model, outcome, few⟩ :=
    @inlined_within_dead inCircle rfl (by rw [verdict]) (by rw [verdict]; rfl)
  have live : ¬Dead inCircle "#/components/schemas/Ring" := by
    intro dead
    exact absurd (congrArg Option.isSome dead) (by decide +kernel)
  exact ⟨by rw [verdict]; rfl, references, model, outcome,
    few inCircle.references (fun _ refers => Value.mem_references_iff.mpr refers)
      (by rw [references]; decide), live⟩

end AsyncTypes.Extraction

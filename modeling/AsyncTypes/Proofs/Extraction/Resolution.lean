import AsyncTypes.Proofs.Extraction.Channels
import AsyncTypes.Proofs.Extraction.ObjectChain

/-!
# References to objects are followed to their end

A reference in the place of an object is resolved to what its chain of pointers comes to.  There
are four cases: the chain comes back to one of its pointers, one of them leads nowhere, the chain
ends in a mapping, or it ends in a value of another kind.  In each case a mapping comes out that is
no reference, so what stands for a channel or an operation of a valid document is never passed over
for being no mapping.
-/

namespace AsyncTypes.Extraction

open Pointer (circularPlaceholder)
open Validation (channelEntries operationEntries)

variable {document value last : Value} {pointers : List String}

/-! ## What a chain comes to -/

/-- The chain comes back to one of its pointers. -/
def Circular (pointers : List String) (last : Value) : Prop :=
  ∃ pointer ∈ pointers, last.reference? = some pointer

/-- A pointer of the chain leads nowhere. -/
def LeadsNowhere (document : Value) (pointers : List String) : Prop :=
  ∃ pointer ∈ pointers, Pointer.walk? document pointer = none

/-- After a pointer that leads nowhere there is null, and the chain is at its end. -/
theorem Chain.eq_null (chain : Chain document value pointers last)
    (nowhere : LeadsNowhere document pointers) : last = .null := by
  induction chain with
  | here value =>
      obtain ⟨pointer, listed, -⟩ := nowhere
      exact absurd listed List.not_mem_nil
  | @link value last pointer pointers refers rest ih =>
      obtain ⟨dead, listed, missing⟩ := nowhere
      rcases List.mem_cons.mp listed with rfl | later
      · rw [missing] at rest
        cases rest with
        | here => rfl
        | link also => exact nomatch also
      · exact ih ⟨dead, later, missing⟩

/-- A chain whose pointers all lead somewhere does not end in null. -/
theorem Chain.isNull_eq_false (chain : Chain document value pointers last)
    (present : value.isNull = false) (somewhere : ¬LeadsNowhere document pointers) :
    last.isNull = false := by
  induction chain with
  | here value => exact present
  | @link value last pointer pointers refers rest ih =>
      cases reached : Pointer.walk? document pointer with
      | none => exact absurd ⟨pointer, List.mem_cons_self, reached⟩ somewhere
      | some target =>
          apply ih
          · rw [reached]
            exact Pointer.isNull_of_walk? reached
          · rintro ⟨dead, later, missing⟩
            exact somewhere ⟨dead, List.mem_cons_of_mem pointer later, missing⟩

/-- A chain that is followed to a reference comes back to one of its pointers. -/
theorem Followed.circular_iff (followed : Followed document value pointers last) :
    Circular pointers last ↔ last.reference?.isSome = true := by
  constructor
  · rintro ⟨pointer, -, refers⟩
    rw [refers]
    rfl
  · intro refers
    obtain ⟨pointer, found⟩ := Option.isSome_iff_exists.mp refers
    exact ⟨pointer, followed.ended pointer found, found⟩

/-! ## What a chain is resolved to -/

theorem resolved_of_isSome (refers : last.reference?.isSome = true) :
    resolved last = circularPlaceholder := by
  rw [resolved, if_pos refers]

theorem resolved_of_isNone (other : last.reference? = none) :
    resolved last = if last.isNull then .map [] else if last.isMap then last
      else .record [("_resolved_value", last)] := by
  rw [resolved, other]
  rfl

/-- Whatever the last value is, a mapping comes out that is no reference. -/
theorem resolved_isMap (last : Value) :
    (resolved last).isMap = true ∧ (resolved last).reference? = none := by
  cases refers : last.reference? with
  | some pointer =>
      rw [resolved_of_isSome (by rw [refers]; rfl)]
      exact ⟨rfl, rfl⟩
  | none =>
      rw [resolved_of_isNone refers]
      split
      · exact ⟨rfl, rfl⟩
      · split
        · next mapping => exact ⟨mapping, refers⟩
        · exact ⟨rfl, rfl⟩

/-- The placeholder comes out of a circle, or stands at the end of the chain itself. -/
theorem resolved_eq_circularPlaceholder_iff :
    resolved last = circularPlaceholder ↔
      last.reference?.isSome = true ∨ last = circularPlaceholder := by
  constructor
  · intro same
    cases refers : last.reference? with
    | some pointer => exact .inl rfl
    | none =>
        rw [resolved_of_isNone refers] at same
        split at same
        · simp [circularPlaceholder, Value.record] at same
        · split at same
          · exact .inr same
          · simp [circularPlaceholder, Value.record] at same
  · rintro (refers | rfl)
    · exact resolved_of_isSome refers
    · rfl

/-- How an object is resolved along a chain that is followed to its end: to the placeholder for
a circle, to the empty mapping, to the last value or to a mapping that holds it, by the way the
chain ends.  A circle is noted when there is one, and without one the placeholder comes out only
if it stands at the end of the chain. -/
structure ResolvedAlong (document : Value) (pointers : List String) (last : Value)
    (ran : Logged Value) : Prop where
  mapping : ran.value.isMap = true
  plain : ran.value.reference? = none
  circle : Circular pointers last → ran.value = circularPlaceholder
  noted : NotesCircle ran.log ↔ Circular pointers last
  placeholder : ran.value = circularPlaceholder →
    Circular pointers last ∨ last = circularPlaceholder
  nowhere : LeadsNowhere document pointers → ran.value = .map []
  ended : ¬Circular pointers last → ¬LeadsNowhere document pointers →
    ran.value = if last.isMap then last else .record [("_resolved_value", last)]

theorem Followed.resolvedAlong {ran : Logged Value}
    (followed : Followed document value pointers last) (present : value.isNull = false)
    (result : ResolvesTo ran last) : ResolvedAlong document pointers last ran := by
  obtain ⟨mapping, plain⟩ := resolved_isMap last
  rw [← result.value] at mapping plain
  constructor
  case mapping => exact mapping
  case plain => exact plain
  case circle =>
    intro circular
    rw [result.value, resolved_of_isSome (followed.circular_iff.mp circular)]
  case noted => rw [result.noted, followed.circular_iff]
  case placeholder =>
    intro same
    rw [followed.circular_iff]
    exact resolved_eq_circularPlaceholder_iff.mp (result.value ▸ same)
  case nowhere =>
    intro nowhere
    rw [result.value, followed.chain.eq_null nowhere]
    rfl
  case ended =>
    intro other somewhere
    rw [followed.circular_iff] at other
    rw [result.value, resolved_of_isNone (by simpa using other),
      followed.chain.isNull_eq_false present somewhere]
    rfl

/-! ## Results -/

/-- References to objects are followed to their end.  For every document and pointer there is one
chain of pointers that is followed, from a reference with this pointer until it comes back to one
of its pointers or to a value that is no reference, and resolving comes to an end with a mapping
that is no reference.  This is the placeholder for a circle when the chain comes back to one of its
pointers, and a circle is noted in that case only; it is the empty mapping when a pointer of the
chain leads nowhere; otherwise it is the value at the end of the chain when that is a mapping, and
a mapping that holds this value when it is not.

So a mapping is still a mapping when a reference in its place is resolved.  In a valid JSON document
every channel becomes one, and an operation is passed over only when it has no known action. -/
theorem object_references_followed (document : Value) :
    (∀ pointer, ∃ pointers last, Followed document (linkTo pointer) pointers last ∧
      (∀ others final, Followed document (linkTo pointer) others final →
        others = pointers ∧ final = last) ∧
      ResolvedAlong document pointers last (Pointer.resolve document pointer)) ∧
    (∀ value, value.isMap = true → (Pointer.dereference document value).value.isMap = true) ∧
    (document.isJson = true → (Validation.validate document).escape = none →
      (Validation.validate document).isValid = true →
      (∀ entry ∈ channelEntries document, ∀ references,
        (Pointer.dereference document entry.2).value.isMap = true ∧
        ∃ channel, (channelOf document references entry.1.shown entry.2).value = some channel) ∧
      ∀ entry ∈ operationEntries document, ∀ references channels,
        (Pointer.dereference document entry.2).value.isMap = true ∧
        ((operationOf document channels references entry.1.shown entry.2).value = none ↔
          Direction.ofWord? (actionWord (Pointer.dereference document entry.2).value) = none)) := by
  refine ⟨?followed, fun value => Pointer.isMap_dereference document, ?valid⟩
  case followed =>
    intro pointer
    obtain ⟨pointers, last, followed, result⟩ :=
      @exists_resolve document (linkTo pointer) pointer rfl
    exact ⟨pointers, last, followed, fun others final => followed.unique,
      followed.resolvedAlong rfl result⟩
  case valid =>
    intro json contained valid
    have shaped := Validation.shaped_of_skeleton
      (Validation.skeleton_of_clean (Validation.Verdict.clean_of_isValid contained valid))
    constructor
    · intro entry listed references
      have mapping := shaped.channelMaps entry listed
      obtain ⟨channel, found, -⟩ := exists_channelOf mapping
      exact ⟨Pointer.isMap_dereference document mapping, channel, found⟩
    · intro entry listed references channels
      have mapping := shaped.operationMaps entry listed
      refine ⟨Pointer.isMap_dereference document mapping, ?_⟩
      rcases operationOf_cases document references channels entry.1.shown mapping with
        ⟨unknown, nothing⟩ | ⟨operation, found, known, -⟩
      · simp [unknown, nothing]
      · simp [found, known]

/-- Channels that refer to a mapping by way of another reference, to themselves, to nothing, and to
a text. -/
def withDetours : Value :=
  .record [("asyncapi", .string "3.0.0"),
    ("info", .record [("title", .string "Orders"), ("version", .string "1")]),
    ("channels", .record [
      ("far", linkTo "#/components/channels/near"),
      ("round", linkTo "#/channels/round"),
      ("lost", linkTo "#/components/channels/nowhere"),
      ("text", linkTo "#/info/title")]),
    ("operations", .record [("place", .record [("action", .string "send"),
      ("channel", linkTo "#/channels/far")])]),
    ("components", .record [("channels", .record [
      ("near", linkTo "#/components/channels/here"),
      ("here", .record [("address", .string "orders")])])])]

theorem withDetours_followed :
    withDetours.isJson = true ∧ (Validation.validate withDetours).escape = none ∧
      (Validation.validate withDetours).isValid = true ∧
      (Pointer.resolve withDetours "#/channels/far").value =
        .record [("address", .string "orders")] ∧
      (Pointer.resolve withDetours "#/channels/round").value = circularPlaceholder ∧
      (Pointer.resolve withDetours "#/channels/lost").value = .map [] ∧
      (Pointer.resolve withDetours "#/channels/text").value =
        .record [("_resolved_value", .string "Orders")] ∧
      (Pointer.dereference withDetours (linkTo "#/channels/lost")).value.isMap = true ∧
      ∃ channel, (channelOf withDetours .inlined "lost"
        (linkTo "#/components/channels/nowhere")).value = some channel := by
  have json : withDetours.isJson = true := by rfl
  have contained : (Validation.validate withDetours).escape = none := by decide +kernel
  have valid : (Validation.validate withDetours).isValid = true := by decide +kernel
  obtain ⟨resolves, kept, ofValid⟩ := object_references_followed withDetours
  -- the chain that is named is the one that the general result speaks of
  have along : ∀ {pointer pointers last},
      Followed withDetours (linkTo pointer) pointers last →
        ResolvedAlong withDetours pointers last (Pointer.resolve withDetours pointer) := by
    intro pointer pointers last followed
    obtain ⟨others, final, -, unique, result⟩ := resolves pointer
    obtain ⟨rfl, rfl⟩ := unique pointers last followed
    exact result
  have far : Followed withDetours (linkTo "#/channels/far")
      ["#/channels/far", "#/components/channels/near", "#/components/channels/here"]
      (.record [("address", .string "orders")]) :=
    ⟨.link rfl (.link rfl (.link rfl (.here _))), by decide, nofun⟩
  have round : Followed withDetours (linkTo "#/channels/round") ["#/channels/round"]
      (linkTo "#/channels/round") :=
    ⟨.link rfl (.here _), by decide, fun _ refers => by cases refers; decide⟩
  have lost : Followed withDetours (linkTo "#/channels/lost")
      ["#/channels/lost", "#/components/channels/nowhere"] .null :=
    ⟨.link rfl (.link rfl (.here _)), by decide, nofun⟩
  have text : Followed withDetours (linkTo "#/channels/text") ["#/channels/text", "#/info/title"]
      (.string "Orders") :=
    ⟨.link rfl (.link rfl (.here _)), by decide, nofun⟩
  have listed : (.string "lost", linkTo "#/components/channels/nowhere") ∈
      channelEntries withDetours := .tail _ (.tail _ (.head _))
  obtain ⟨-, channel, found⟩ := (ofValid json contained valid).1 _ listed .inlined
  refine ⟨json, contained, valid, (along far).ended ?_ ?_, (along round).circle ?_,
    (along lost).nowhere ?_, (along text).ended ?_ ?_, kept _ rfl, channel, found⟩
  · exact fun circular => nomatch far.circular_iff.mp circular
  · exact fun nowhere => nomatch far.chain.eq_null nowhere
  · exact round.circular_iff.mpr rfl
  · exact ⟨"#/components/channels/nowhere", by decide, by rfl⟩
  · exact fun circular => nomatch text.circular_iff.mp circular
  · exact fun nowhere => nomatch text.chain.eq_null nowhere

end AsyncTypes.Extraction

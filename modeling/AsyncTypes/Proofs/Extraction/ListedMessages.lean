import AsyncTypes.Proofs.Extraction.ChannelMessages
import AsyncTypes.Proofs.Schema.Agreement
import AsyncTypes.Proofs.Validation.Removal

/-!
# Listing all messages and listing none

An operation that lists all messages of its channel is compared with the same operation without
a list, in the document that has lost it.  In either document the operation carries the messages
that the channel has there.  These are the same unless reading them follows a pointer to the list
itself, into it or to something that holds it.
-/

namespace AsyncTypes.Extraction

open Inlining (MetFrom)
open Validation (channelEntries operationEntries Shaped validate)

variable {document other value last object : Value} {pointers : List String} {name : String}
  {references : References}

/-! ## What reading a message follows -/

/-- Reading a message from the value follows the pointer: it is one of the chain that leads to
the object of the message, or it is met when the references in the payload or in the headers of
the object are inlined. -/
inductive Follows (document : Value) (references : References) (value : Value)
    (pointer : String) : Prop
  | chained {pointers : List String} {last : Value}
      (followed : Followed document value pointers last) (listed : pointer ∈ pointers)
  | inlined {pointers : List String} {last object : Value} (inlines : references = .inlined)
      (followed : Followed document value pointers last) (ends : object? last = some object)
      (met : MetFrom document (payloadSchema object) pointer ∨
        MetFrom document (object.field "headers") pointer)

theorem Chain.congr (chain : Chain document value pointers last)
    (agree : ∀ pointer ∈ pointers,
      Pointer.walk? other pointer = Pointer.walk? document pointer) :
    Chain other value pointers last := by
  induction chain with
  | here value => exact .here value
  | @link value last pointer rest refers onward ih =>
      obtain ⟨here, later⟩ := List.forall_mem_cons.mp agree
      refine .link refers ?_
      rw [here]
      exact ih later

theorem Followed.congr (followed : Followed document value pointers last)
    (agree : ∀ pointer ∈ pointers,
      Pointer.walk? other pointer = Pointer.walk? document pointer) :
    Followed other value pointers last :=
  ⟨followed.chain.congr agree, followed.distinct, followed.ended⟩

/-- Documents that agree on what is met give the same schema. -/
theorem schemaAlong_eq {schema : Value} (agree : ∀ pointer, references = .inlined →
    MetFrom document schema pointer →
      Pointer.walk? other pointer = Pointer.walk? document pointer) (trail : Trail) :
    schemaAlong other references trail schema = schemaAlong document references trail schema := by
  cases references with
  | kept => rfl
  | inlined => exact Inlining.convertFresh_eq (fun pointer => agree pointer rfl) trail

/-- Documents that agree on what is met give the same message for an object. -/
theorem messageOf_eq (agree : ∀ pointer, references = .inlined →
    MetFrom document (payloadSchema object) pointer ∨
        MetFrom document (object.field "headers") pointer →
      Pointer.walk? other pointer = Pointer.walk? document pointer) (name : String) :
    messageOf other references name object = messageOf document references name object := by
  have payload : schemaAlong other references [] (payloadSchema object) =
      schemaAlong document references [] (payloadSchema object) :=
    schemaAlong_eq (fun pointer inlines met => agree pointer inlines (Or.inl met)) []
  have headers : schemaAlong other references [] (object.field "headers") =
      schemaAlong document references [] (object.field "headers") :=
    schemaAlong_eq (fun pointer inlines met => agree pointer inlines (Or.inr met)) []
  have sameHeaders : headersOf other references name (object.field "headers") =
      headersOf document references name (object.field "headers") := by
    rw [headersOf, headersOf, headers]
  unfold messageOf
  simp only [payload, sameHeaders]

/-- Documents that agree on what is followed give the same message. -/
theorem readMessage_eq (agree : ∀ pointer, Follows document references value pointer →
    Pointer.walk? other pointer = Pointer.walk? document pointer) (name : String) :
    readMessage other references name value = readMessage document references name value := by
  obtain ⟨pointers, last, followed, -⟩ := exists_followed document value name
  have also := followed.congr fun pointer listed => agree pointer (.chained followed listed)
  rw [readMessage_of_followed followed, readMessage_of_followed also]
  cases ends : object? last with
  | none => rw [Option.map_none, Option.map_none]
  | some object =>
      have same := @messageOf_eq document other object references
        (fun pointer inlines met => agree pointer (.inlined inlines followed ends met))
      simp only [Option.map_some, same]

/-! ## Two documents -/

/-- The operation under a name and the channel that it is bound to are no references, and the
operation lists all messages of the channel. -/
structure ListsAll (document : Value) (channel name : String) (object operation : Value) :
    Prop where
  ofDocument : (.string channel, object) ∈ channelEntries document
  given : object.reference? = none
  listed : (.string name, operation) ∈ operationEntries document
  inline : operation.reference? = none
  bound : ∃ pointer, (operation.field "channel").reference? = some pointer ∧
    Pointer.Enters Pointer.channelRoot channel pointer
  lists : ∃ items, (operation.field "messages").items? = some items ∧
    ListsMessages channel object items

/-- The pointer leads neither to the list of messages of the operation or into it nor to
something that holds it. -/
def AvoidsList (name pointer : String) : Prop :=
  ∀ keys ∈ Pointer.keys? pointer, Pointer.Apart ["operations", name, "messages"] keys

instance (name pointer : String) : Decidable (AvoidsList name pointer) :=
  inferInstanceAs (Decidable (∀ keys ∈ Pointer.keys? pointer, _))

/-- When no schema of a message holds a reference, only its chain is followed. -/
theorem avoidsList_of_followed {pointer : String} (followed : Followed document value pointers last)
    (avoids : ∀ pointer ∈ pointers, AvoidsList name pointer)
    (plain : ∀ object, object? last = some object →
      SchemaNode.met (payloadSchema object) .null = [] ∧
        SchemaNode.met (object.field "headers") .null = [])
    (follows : Follows document references value pointer) : AvoidsList name pointer := by
  cases follows with
  | chained also listed =>
      obtain ⟨rfl, -⟩ := followed.unique also
      exact avoids pointer listed
  | inlined _ also ends met =>
      obtain ⟨-, rfl⟩ := followed.unique also
      obtain ⟨payload, headers⟩ := plain _ ends
      rcases met with ⟨first, asked, -⟩ | ⟨first, asked, -⟩
      · rw [payload] at asked
        exact absurd asked List.not_mem_nil
      · rw [headers] at asked
        exact absurd asked List.not_mem_nil

variable {channel : String} {operation : Value}

/-- The messages of a channel without findings stand in a mapping, and each of them is one. -/
theorem messages_of_skeleton (nothing : Validation.Skeleton.findings document = [])
    (listed : (.string channel, object) ∈ channelEntries document) :
    Validation.NullOrMap (object.field "messages") ∧
      ∀ entry ∈ keyedMessages object, entry.2.isMap = true := by
  have inside := Validation.values_eq_nil_of_mem nothing (.tail _ (.tail _ (.head _)))
    (.tail _ (.tail _ (.head _))) (.tail _ (.head _)) _ listed
  constructor
  · exact Validation.nullOrMap_of_mem inside (.tail _ (.head _)) (.tail _ (.tail _ (.head _)))
      (.head _)
  · exact Validation.maps_of_mem inside (.tail _ (.head _)) (.tail _ (.tail _ (.head _)))
      (.tail _ (.head _)) (.head _)

theorem channelEntries_without (document : Value) (name : String) :
    channelEntries (document.without ["operations", name, "messages"]) =
      channelEntries document := by
  rw [channelEntries, Value.field_without_of_ne (by decide), channelEntries]

/-- The operation that has lost its list stands where it stood. -/
theorem mem_operationEntries_without (listed : (.string name, operation) ∈ operationEntries document) :
    (.string name, operation.without ["messages"]) ∈
      operationEntries (document.without ["operations", name, "messages"]) := by
  rw [operationEntries, Value.field_without_self]
  unfold operationEntries at listed
  cases operations : document.field "operations" with
  | map entries =>
      rw [operations] at listed
      exact List.mem_map.mpr ⟨_, listed, by simp⟩
  | _ =>
      rw [operations] at listed
      exact absurd listed List.not_mem_nil

/-- With the list and without it, the operation carries the messages of its channel. -/
theorem carries_of_listsAll (json : document.isJson = true)
    (contained : (validate document).escape = none) (valid : (validate document).isValid = true)
    (all : ListsAll document channel name object operation) (references : References) :
    ∃ model unlisted, (extract document references).run.value = .ok model ∧
      (extract (document.without ["operations", name, "messages"]) references).run.value =
        .ok unlisted ∧
      Carries model channel name (channelMessages document references channel object).value ∧
      Carries unlisted channel name (channelMessages
        (document.without ["operations", name, "messages"]) references channel object).value := by
  obtain ⟨containedAlso, validAlso⟩ :=
    Validation.isValid_without_messages contained valid name
  have nothing :=
    Validation.skeleton_of_clean (Validation.Verdict.clean_of_isValid contained valid)
  have nothingAlso :=
    Validation.skeleton_of_clean (Validation.Verdict.clean_of_isValid containedAlso validAlso)
  have jsonAlso := Value.isJson_without json ["operations", name, "messages"]
  have listedAlso := mem_operationEntries_without all.listed
  obtain ⟨identity, -, outcome⟩ :=
    extract_of_isValid (Validation.isMap_of_rules nothing) contained valid
  obtain ⟨identityAlso, -, outcomeAlso⟩ :=
    extract_of_isValid (Validation.isMap_of_rules nothingAlso) containedAlso validAlso
  obtain ⟨direction, known⟩ :=
    Validation.exists_direction (Validation.operation_eq_nil nothing all.listed)
  obtain ⟨directionAlso, knownAlso⟩ :=
    Validation.exists_direction (Validation.operation_eq_nil nothingAlso listedAlso)
  obtain ⟨pointer, refers, enters⟩ := all.bound
  refine ⟨_, _, outcome, outcomeAlso, ?_, ?_⟩
  · refine carries_channelMessages json (Validation.shaped_of_skeleton nothing) all.ofDocument
      all.given all.listed all.inline known (operationChannel_of_enters refers enters) ?_ _ _
    intro items found
    obtain ⟨listedItems, also, lists⟩ := all.lists
    cases found.symm.trans also
    obtain ⟨shape, maps⟩ := messages_of_skeleton nothing all.ofDocument
    have held := Value.get?_of_mem_entries (Value.isJson_field json "channels") all.ofDocument
    exact value_listedMessages json held shape maps lists name
  · refine carries_channelMessages jsonAlso (Validation.shaped_of_skeleton nothingAlso)
      (channelEntries_without document name ▸ all.ofDocument) all.given listedAlso
      ((Value.reference?_without_of_ne (by decide) _ _).trans all.inline) knownAlso ?_ ?_ _ _
    · rw [Value.field_without_of_ne (by decide)]
      exact operationChannel_of_enters refers enters
    · intro items found
      rw [Value.field, Value.get?_without_last] at found
      cases found

/-- The messages of a channel are the same without the list when none of them follows a pointer
to it. -/
theorem channelMessages_without
    (shape : Validation.NullOrMap (object.field "messages"))
    (avoids : ∀ entry ∈ keyedMessages object, ∀ pointer,
      Follows document references entry.2 pointer → AvoidsList name pointer) (channel : String) :
    (channelMessages (document.without ["operations", name, "messages"]) references channel
        object).value =
      (channelMessages document references channel object).value := by
  rw [value_channelMessages shape, value_channelMessages shape]
  apply List.filterMap_congr
  intro entry listed
  apply readMessage_eq
  intro pointer follows
  exact Pointer.walk?_without (avoids entry listed pointer follows) document

/-- In a valid JSON document, with references kept or inlined, take an operation that is given in
place, is bound to a channel that is given in place and lists all messages of the channel, in
order and each once, by their pointers.  It carries the messages that its channel has in the
model, whatever keys the messages have and whether they are objects or chains of references that
lead to an object, nowhere or in a circle.  The document is still valid without the list, and
there the operation carries what its channel has as well.  Both are the same messages when no
pointer that is followed to read a message of the channel leads to the list, into it or to
something that holds it. -/
theorem listsAll_carries (json : document.isJson = true)
    (contained : (validate document).escape = none) (valid : (validate document).isValid = true)
    (all : ListsAll document channel name object operation) (references : References) :
    ∃ model unlisted messages others,
      (extract document references).run.value = .ok model ∧
      (extract (document.without ["operations", name, "messages"]) references).run.value =
        .ok unlisted ∧
      Carries model channel name messages ∧ Carries unlisted channel name others ∧
      ((∀ entry ∈ keyedMessages object, ∀ pointer,
        Follows document references entry.2 pointer → AvoidsList name pointer) →
          others = messages) := by
  have nothing :=
    Validation.skeleton_of_clean (Validation.Verdict.clean_of_isValid contained valid)
  obtain ⟨model, unlisted, outcome, outcomeAlso, carries, carriesAlso⟩ :=
    carries_of_listsAll json contained valid all references
  refine ⟨model, unlisted, _, _, outcome, outcomeAlso, carries, carriesAlso, fun avoids => ?_⟩
  exact channelMessages_without (messages_of_skeleton nothing all.ofDocument).1 avoids channel

/-! ## Examples -/

/-- A document with messages of one channel and an operation that lists some of them. -/
def withListed (channel : String) (messages : List (String × Value)) (keys : List String) :
    Value :=
  .record [("asyncapi", .string "3.0.0"),
    ("info", .record [("title", .string "Orders"), ("version", .string "1")]),
    ("channels", .record [(channel, .record [("messages", .record messages)])]),
    ("operations", .record [("submit", .record [("action", .string "send"),
      ("channel", linkTo (Pointer.channelRoot ++ Pointer.written channel)),
      ("messages", .list (keys.map fun key => linkTo (Pointer.toMessage channel key)))])]),
    ("components", .record [("messages", .record [("Order", event)])])]

/-- A message in place, one that stands for a component message, one that leads nowhere and one
that leads back to itself. -/
def mixedMessages : List (String × Value) :=
  [("placed", event), ("new/old", linkTo "#/components/messages/Order"),
    ("gone", linkTo "#/components/messages/Missing"),
    ("round", linkTo "#/channels/a~1b~0/messages/round")]

/-- All messages of the channel. -/
def listedMixed : Value :=
  withListed "a/b~" mixedMessages ["placed", "new/old", "gone", "round"]

theorem listsAll_listedMixed : ListsAll listedMixed "a/b~" "submit"
    ((listedMixed.field "channels").field "a/b~")
    ((listedMixed.field "operations").field "submit") where
  ofDocument := .head _
  given := rfl
  listed := .head _
  inline := rfl
  bound := ⟨"#/channels/a~1b~0", by decide, Pointer.keyBelow?_eq_some_iff.mp (by decide)⟩
  lists := ⟨_, rfl, by decide⟩

/-- No message of the channel leads to the list of the operation. -/
theorem avoidsList_listedMixed (references : References) :
    ∀ entry ∈ keyedMessages ((listedMixed.field "channels").field "a/b~"), ∀ pointer,
      Follows listedMixed references entry.2 pointer → AvoidsList "submit" pointer := by
  have plain : ∀ object, object? event = some object →
      SchemaNode.met (payloadSchema object) .null = [] ∧
        SchemaNode.met (object.field "headers") .null = [] := by
    rintro _ ⟨⟩
    exact ⟨rfl, rfl⟩
  have placed : Followed listedMixed event [] event :=
    ⟨.here event, List.nodup_nil, fun _ refers => nomatch refers⟩
  have renamed : Followed listedMixed (linkTo "#/components/messages/Order")
      ["#/components/messages/Order"] event :=
    ⟨.link rfl (.here event), by decide, fun _ refers => nomatch refers⟩
  have gone : Followed listedMixed (linkTo "#/components/messages/Missing")
      ["#/components/messages/Missing"] .null :=
    ⟨.link rfl (.here .null), by decide, fun _ refers => nomatch refers⟩
  have round : Followed listedMixed (linkTo "#/channels/a~1b~0/messages/round")
      ["#/channels/a~1b~0/messages/round"] (linkTo "#/channels/a~1b~0/messages/round") := by
    refine ⟨.link rfl (.here _), by decide, ?_⟩
    rintro _ ⟨⟩
    exact List.mem_singleton_self _
  intro entry listed pointer follows
  have entries : keyedMessages ((listedMixed.field "channels").field "a/b~") =
      mixedMessages.map fun entry => (.string entry.1, entry.2) := rfl
  rw [entries, mixedMessages] at listed
  simp only [List.map_cons, List.map_nil, List.mem_cons, List.not_mem_nil, or_false] at listed
  rcases listed with rfl | rfl | rfl | rfl
  · exact avoidsList_of_followed placed (by decide) plain follows
  · exact avoidsList_of_followed renamed (by decide) plain follows
  · exact avoidsList_of_followed gone (by decide) (fun _ found => nomatch found) follows
  · exact avoidsList_of_followed round (by decide) (fun _ found => nomatch found) follows

/-- Whatever the messages of the channel are, the operation carries the same with its list and
without it. -/
theorem listedMixed_carries :
    listedMixed.isJson = true ∧ (validate listedMixed).escape = none ∧
      (validate listedMixed).isValid = true ∧
      ∀ references, ∃ model unlisted messages,
        (extract listedMixed references).run.value = .ok model ∧
        (extract (listedMixed.without ["operations", "submit", "messages"]) references).run.value =
          .ok unlisted ∧
        Carries model "a/b~" "submit" messages ∧ Carries unlisted "a/b~" "submit" messages := by
  have json : listedMixed.isJson = true := by decide +kernel
  have contained : (validate listedMixed).escape = none := by decide +kernel
  have valid : (validate listedMixed).isValid = true := by decide +kernel
  refine ⟨json, contained, valid, fun references => ?_⟩
  obtain ⟨model, unlisted, messages, others, outcome, outcomeAlso, carries, carriesAlso, same⟩ :=
    listsAll_carries json contained valid listsAll_listedMixed references
  obtain rfl := same (avoidsList_listedMixed references)
  exact ⟨model, unlisted, _, outcome, outcomeAlso, carries, carriesAlso⟩

/-- The first message of the channel leads into the list of the operation. -/
def listedInCircle : Value :=
  withListed "orders" [("first", linkTo "#/operations/submit/messages/1"), ("second", event)]
    ["first", "second"]

theorem listsAll_listedInCircle : ListsAll listedInCircle "orders" "submit"
    ((listedInCircle.field "channels").field "orders")
    ((listedInCircle.field "operations").field "submit") where
  ofDocument := .head _
  given := rfl
  listed := .head _
  inline := rfl
  bound := ⟨"#/channels/orders", by decide, Pointer.keyBelow?_eq_some_iff.mp (by decide)⟩
  lists := ⟨_, rfl, by decide⟩

/-- A message of the channel that leads into the list is lost with it. -/
theorem listedInCircle_differs :
    listedInCircle.isJson = true ∧ (validate listedInCircle).escape = none ∧
      (validate listedInCircle).isValid = true ∧
      ListsAll listedInCircle "orders" "submit" ((listedInCircle.field "channels").field "orders")
        ((listedInCircle.field "operations").field "submit") ∧
      ∀ references, ∃ model unlisted messages others,
        (extract listedInCircle references).run.value = .ok model ∧
        (extract (listedInCircle.without ["operations", "submit", "messages"])
          references).run.value = .ok unlisted ∧
        Carries model "orders" "submit" messages ∧ Carries unlisted "orders" "submit" others ∧
        messages.map (·.name) = ["second", "second"] ∧ others.map (·.name) = ["second"] := by
  have json : listedInCircle.isJson = true := by decide +kernel
  have contained : (validate listedInCircle).escape = none := by decide +kernel
  have valid : (validate listedInCircle).isValid = true := by decide +kernel
  refine ⟨json, contained, valid, listsAll_listedInCircle, fun references => ?_⟩
  obtain ⟨model, unlisted, outcome, outcomeAlso, carries, carriesAlso⟩ :=
    carries_of_listsAll json contained valid listsAll_listedInCircle references
  refine ⟨model, unlisted, _, _, outcome, outcomeAlso, carries, carriesAlso, ?_, ?_⟩
  · cases references <;> decide +kernel
  · cases references <;> decide +kernel

end AsyncTypes.Extraction

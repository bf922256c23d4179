import AsyncTypes.Proofs.Extraction.Channels
import AsyncTypes.Proofs.Schema.Source

/-!
# References in the model of a document

The nodes of a model, in component schemas, payloads and headers, are conversions of parts of the
document.  So they hold what the conversions of schemas hold.  When references are kept, every
pointer that a node of the model holds is the pointer of a reference in the document.  The
objects that messages, operations and channels are read from are parts of the document, or stand
for chains of references that lead nowhere.
-/

namespace AsyncTypes.Extraction

open TypeScript (MessageWithin Task)

variable {document value : Value} {known kept : String → Prop} {references : References}

/-! ## Collected results -/

/-- What all visits give is what is collected. -/
theorem forall_mem_collect {α β : Type} {kind : β → Prop} {visit : α → Logged (Option β)}
    {items : List α} (each : ∀ item ∈ items, ∀ result ∈ (visit item).value, kind result) :
    ∀ result ∈ (Logged.collect visit items).value, kind result := by
  intro result listed
  rw [Logged.value_collect] at listed
  obtain ⟨item, member, given⟩ := List.mem_filterMap.mp listed
  exact each item member result given

/-! ## Schemas -/

/-- Schemas with known pointers are converted to nodes whose pointers are kept, at the trails
where the conversions of a document begin. -/
def ConvertsWithin (document : Value) (references : References) (known kept : String → Prop) :
    Prop :=
  ∀ trail schema, trail.length ≤ 1 → schema.Within known →
    (schemaAlong document references trail schema).value.Within kept

theorem convertsWithin_kept (document : Value) (known : String → Prop) :
    ConvertsWithin document .kept known known :=
  fun _ _ _ within => SchemaNode.within_ofValue within

theorem within_emptyMap : (Value.map []).Within known :=
  Value.within_of_children rfl fun _ listed => absurd listed List.not_mem_nil

theorem within_given (within : value.Within known) :
    (if value.isGiven then value else .map []).Within known := by
  split
  · exact within
  · exact within_emptyMap

theorem within_component (within : document.Within known) (name : String) :
    (component document name).Within known := by
  unfold component
  dsimp only
  split
  · exact (within.field "components").field name
  · exact within_emptyMap

/-- The entries of a value hold what the value holds. -/
theorem within_of_entries? {entries : Entries} (within : value.Within known)
    (found : value.entries? = some entries) : ∀ entry ∈ entries, entry.2.Within known := by
  cases value with
  | map own =>
      cases found
      exact fun entry listed => within.of_mem (List.mem_map_of_mem listed)
  | _ => exact nomatch found

/-- The pointers of the component schemas are kept. -/
theorem within_schemas (converts : ConvertsWithin document references known kept)
    (within : document.Within known) :
    ∀ entry ∈ (schemas document references).value, entry.2.Within kept := by
  unfold schemas
  split
  · exact fun _ listed => absurd listed List.not_mem_nil
  · next entries found =>
      have entriesWithin := within_of_entries? (within_component within "schemas") found
      have collected : ∀ pair ∈ (Logged.collect (fun entry => do
          let schema ← componentSchema document references entry.1 entry.2
          return some schema) entries).value, pair.2.Within kept := by
        apply forall_mem_collect
        rintro source member pair ⟨⟩
        exact converts _ _ (Nat.le_refl 1) (entriesWithin source member)
      exact fun entry listed => collected entry (SchemaNode.mem_of_mem_propertiesOf listed)

/-! ## Messages -/

/-- The object at the end of a chain of references holds known pointers. -/
theorem within_followMessageChain (within : document.Within known) (budget : Nat)
    (seen : List String) (name : String) {value : Value} (valueWithin : value.Within known) :
    ∀ object ∈ (followMessageChain document budget seen name value).value.2,
      object.Within known := by
  have ended : ∀ value : Value, value.Within known →
      ∀ object ∈ (if value.isMap then some value else none), object.Within known := by
    intro value valueWithin object reached
    split at reached
    · cases reached
      exact valueWithin
    · exact nomatch reached
  induction budget generalizing seen name value with
  | zero =>
      unfold followMessageChain
      cases value.reference? with
      | none => exact ended value valueWithin
      | some pointer =>
          dsimp only
          split
          · exact fun _ reached => nomatch reached
          · exact fun _ reached => nomatch reached
  | succ budget ih =>
      unfold followMessageChain
      cases value.reference? with
      | none => exact ended value valueWithin
      | some pointer =>
          dsimp only
          split
          · exact fun _ reached => nomatch reached
          · rw [Logged.value_bind, Pointer.value_walk]
            cases reached : Pointer.walk? document pointer with
            | none => exact ih _ _ (Value.within_scalar .null)
            | some target => exact ih _ _ (within.mono (Pointer.partOf_of_walk? reached))

theorem within_payloadSchema (within : value.Within known) : (payloadSchema value).Within known := by
  unfold payloadSchema
  dsimp only
  split
  · next schema _ held => exact (within.field "payload").mono (Value.partOf_of_get? held)
  · exact within.field "payload"

theorem within_headersOf (converts : ConvertsWithin document references known kept)
    (within : value.Within known) (name : String) :
    ∀ node ∈ (headersOf document references name value).value, node.Within kept := by
  unfold headersOf
  split
  · rintro node ⟨⟩
    exact converts _ _ (Nat.zero_le 1) within
  · split
    · exact fun _ held => nomatch held
    · exact fun _ held => nomatch held

/-- The pointers of the message that an object describes are kept. -/
theorem within_messageOf (converts : ConvertsWithin document references known kept)
    (within : value.Within known) (name : String) :
    MessageWithin kept (messageOf document references name value).value := by
  have headers := within_headersOf converts (within.field "headers") name
  unfold messageOf
  dsimp only
  split
  · exact ⟨SchemaNode.within_empty, headers⟩
  · exact ⟨converts _ _ (Nat.zero_le 1) (within_payloadSchema within), headers⟩

theorem within_followMessage (within : document.Within known) (name : String)
    (valueWithin : value.Within known) :
    ∀ object ∈ (followMessage document name value).value.2, object.Within known :=
  within_followMessageChain within _ [] name valueWithin

/-- The pointers of a message that is read where an entry leads are kept, whatever name it is read
under and whatever is remarked when the entry leads nowhere. -/
theorem within_followed (converts : ConvertsWithin document references known kept)
    (within : document.Within known) {name : String} (valueWithin : value.Within known)
    {visit : String × Option Value → Logged (Option Message)}
    (skips : ∀ reached, (visit (reached, none)).value = none)
    (reads : ∀ reached object, ∃ own, (visit (reached, some object)).value =
      some (messageOf document references own object).value) :
    ∀ message ∈ (followMessage document name value >>= visit).value, MessageWithin kept message := by
  intro message made
  have leads := within_followMessage within name valueWithin
  rw [Logged.value_bind] at made
  generalize (followMessage document name value).value = followed at made leads
  obtain ⟨reached, _ | object⟩ := followed
  · rw [skips] at made
    exact nomatch made
  · obtain ⟨own, read⟩ := reads reached object
    rw [read] at made
    cases made
    exact within_messageOf converts (leads object rfl) own

/-- The pointers of the component messages are kept. -/
theorem within_messages (converts : ConvertsWithin document references known kept)
    (within : document.Within known) :
    ∀ message ∈ (messages document references).value, MessageWithin kept message := by
  unfold messages
  split
  · exact fun _ listed => absurd listed List.not_mem_nil
  · next entries found =>
      have entriesWithin := within_of_entries? (within_component within "messages") found
      exact forall_mem_collect fun entry member =>
        within_followed converts within (entriesWithin entry member) (fun _ => rfl)
          fun _ _ => ⟨_, rfl⟩

/-- The pointers of the messages of a channel are kept. -/
theorem within_channelMessages (converts : ConvertsWithin document references known kept)
    (within : document.Within known) (channel : String) (valueWithin : value.Within known) :
    ∀ message ∈ (channelMessages document references channel value).value,
      MessageWithin kept message := by
  unfold channelMessages
  dsimp only
  split
  · exact fun _ listed => absurd listed List.not_mem_nil
  · next entries found =>
      have entriesWithin := within_of_entries? (within_given (valueWithin.field "messages")) found
      exact forall_mem_collect fun entry member =>
        within_followed converts within (entriesWithin entry member) (fun _ => rfl)
          fun _ _ => ⟨_, rfl⟩

/-! ## Operations and channels -/

theorem within_resolveChain (within : document.Within known) (budget : Nat)
    (visited : List String) (pointer : String) :
    (Pointer.resolveChain document budget visited pointer).value.Within known := by
  have placeholder : Pointer.circularPlaceholder.Within known := by
    have parts : ∀ part ∈ Pointer.circularPlaceholder.children, part.Within known :=
      List.forall_mem_cons.mpr ⟨Value.within_scalar _,
        List.forall_mem_singleton.mpr (Value.within_scalar _)⟩
    exact Value.within_of_children rfl parts
  induction budget generalizing visited pointer with
  | zero => exact placeholder
  | succ budget ih =>
      rw [Pointer.resolveChain]
      split
      · exact placeholder
      · rw [Logged.value_bind, Pointer.value_walk]
        split
        · exact within_emptyMap
        · next target reached =>
            have targetWithin := within.mono (Pointer.partOf_of_walk? reached)
            split
            · split
              · exact ih _ _
              · exact targetWithin
            · exact Value.within_of_children rfl (List.forall_mem_singleton.mpr targetWithin)

theorem within_dereference (within : document.Within known) (valueWithin : value.Within known) :
    (Pointer.dereference document value).value.Within known := by
  unfold Pointer.dereference
  split
  · exact within_resolveChain within _ _ _
  · exact valueWithin

theorem within_listedMessages (converts : ConvertsWithin document references known kept)
    (within : document.Within known) (operation : String) (index : Nat)
    {values : List Value} (listed : ∀ value ∈ values, value.Within known) :
    ∀ message ∈ (listedMessages document references operation index values).value,
      MessageWithin kept message := by
  induction values generalizing index with
  | nil => exact fun _ absent => absurd absent List.not_mem_nil
  | cons value rest ih =>
      have reached := within_followMessage within s!"{operation}Message{index + 1}"
        (listed value List.mem_cons_self)
      have later := ih (index + 1) fun other member => listed other (List.mem_cons_of_mem value member)
      rw [listedMessages, Logged.value_bind]
      generalize (followMessage document s!"{operation}Message{index + 1}" value).value = followed
        at reached
      obtain ⟨name, _ | object⟩ := followed
      · exact later
      · exact List.forall_mem_cons.mpr ⟨within_messageOf converts (reached object rfl) name, later⟩

theorem within_messagesUnder {channels : List (String × List Message)}
    (within : ∀ channel ∈ channels, ∀ message ∈ channel.2, MessageWithin kept message)
    (name : String) : ∀ message ∈ messagesUnder channels name, MessageWithin kept message := by
  unfold messagesUnder
  cases found : channels.reverse.find? fun channel => channel.1 == name with
  | none => exact fun _ absent => absurd absent List.not_mem_nil
  | some channel =>
      exact within channel (List.mem_reverse.mp (List.mem_of_find?_eq_some found))

/-- The pointers of the messages of an operation are kept when those of the channels are. -/
theorem within_operationOf (converts : ConvertsWithin document references known kept)
    (within : document.Within known) {channels : List (String × List Message)}
    (own : ∀ channel ∈ channels, ∀ message ∈ channel.2, MessageWithin kept message)
    (name : String) (valueWithin : value.Within known) :
    ∀ operation ∈ (operationOf document channels references name value).value,
      ∀ message ∈ operation.messages, MessageWithin kept message := by
  have objectWithin := within_dereference within valueWithin
  rw [operationOf]
  simp only [Logged.value_bind]
  split
  · rintro _ ⟨⟩
  · cases Direction.ofWord? (actionWord (Pointer.dereference document value).value) with
    | none => rintro _ ⟨⟩
    | some action =>
        dsimp only
        split
        · next listed found =>
            rintro operation ⟨⟩
            apply within_listedMessages converts within
            cases held : (Pointer.dereference document value).value.field "messages" with
            | list items =>
                rw [held] at found
                cases found
                exact fun item member => (held ▸ objectWithin.field "messages").of_mem member
            | _ =>
                rw [held] at found
                cases found
        · rintro operation ⟨⟩
          exact within_messagesUnder own _

/-- The pointers of the messages of the channel and of its operations are kept. -/
def ChannelWithin (kept : String → Prop) (channel : Channel) : Prop :=
  ∀ message ∈ Task.channelMessages channel, MessageWithin kept message

theorem mem_channelMessages_attach {channel : Channel} {operation : Operation} {message : Message}
    (listed : message ∈ Task.channelMessages (channel.attach operation)) :
    message ∈ Task.channelMessages channel ∨ message ∈ operation.messages := by
  rw [Task.channelMessages, Channel.messages_attach, List.mem_append, List.mem_flatMap] at listed
  rw [Task.channelMessages, List.mem_append, List.mem_flatMap]
  rcases listed with own | ⟨carrier, attached, carried⟩
  · exact Or.inl (Or.inl own)
  · have before : carrier ∈ channel.send ++ channel.receive ∨ carrier = operation := by
      unfold Channel.attach at attached
      split at attached
      · simp only [List.mem_append, List.mem_singleton] at attached ⊢
        tauto
      · simp only [List.mem_append, List.mem_singleton] at attached ⊢
        tauto
    rcases before with member | rfl
    · exact Or.inl (Or.inr ⟨carrier, member, carried⟩)
    · exact Or.inr carried

theorem within_attach {channel : Channel} {operation : Operation}
    (within : ChannelWithin kept channel)
    (own : ∀ message ∈ operation.messages, MessageWithin kept message) :
    ChannelWithin kept (channel.attach operation) := by
  intro message listed
  rcases mem_channelMessages_attach listed with before | new
  · exact within message before
  · exact own message new

theorem within_attachToLast {operation : Operation}
    (own : ∀ message ∈ operation.messages, MessageWithin kept message)
    {channels attached : List Channel} (within : ∀ channel ∈ channels, ChannelWithin kept channel)
    (found : attachToLast operation channels = some attached) :
    ∀ channel ∈ attached, ChannelWithin kept channel := by
  induction channels generalizing attached with
  | nil => cases found
  | cons channel rest ih =>
      obtain ⟨here, later⟩ := List.forall_mem_cons.mp within
      rw [attachToLast] at found
      cases further : attachToLast operation rest with
      | some others =>
          rw [further] at found
          cases found
          exact List.forall_mem_cons.mpr ⟨here, ih later further⟩
      | none =>
          rw [further] at found
          dsimp only at found
          split at found
          · cases found
            exact List.forall_mem_cons.mpr ⟨within_attach here own, later⟩
          · cases found

theorem within_attachAll {operations : List Operation}
    (own : ∀ operation ∈ operations, ∀ message ∈ operation.messages, MessageWithin kept message)
    {channels : List Channel} (within : ∀ channel ∈ channels, ChannelWithin kept channel) :
    ∀ channel ∈ (attachAll channels operations).value, ChannelWithin kept channel := by
  induction operations generalizing channels with
  | nil => exact within
  | cons operation rest ih =>
      obtain ⟨here, later⟩ := List.forall_mem_cons.mp own
      rw [attachAll]
      cases found : attachToLast operation channels with
      | some attached => exact ih later (within_attachToLast here within found)
      | none => exact ih later within

theorem within_channelOf (converts : ConvertsWithin document references known kept)
    (within : document.Within known) (name : String) (valueWithin : value.Within known) :
    ∀ channel ∈ (channelOf document references name value).value, ChannelWithin kept channel := by
  have objectWithin := within_dereference within valueWithin
  rw [channelOf]
  simp only [Logged.value_bind]
  split
  · rintro _ ⟨⟩
  · rintro channel ⟨⟩ message listed
    rcases List.mem_append.mp listed with own | carried
    · exact within_channelMessages converts within name objectWithin message own
    · exact absurd carried List.not_mem_nil

theorem within_operations (converts : ConvertsWithin document references known kept)
    (within : document.Within known) {channels : List (String × List Message)}
    (own : ∀ channel ∈ channels, ∀ message ∈ channel.2, MessageWithin kept message) :
    ∀ operation ∈ (operations document channels references).value,
      ∀ message ∈ operation.messages, MessageWithin kept message := by
  unfold operations
  dsimp only
  split
  · exact fun _ absent => absurd absent List.not_mem_nil
  · next entries found =>
      have entriesWithin := within_of_entries? (within_given (within.field "operations")) found
      exact forall_mem_collect fun entry member =>
        within_operationOf converts within own entry.1.shown (entriesWithin entry member)

/-- The pointers of the channels are kept, in their own messages and in those of their
operations. -/
theorem within_channels (converts : ConvertsWithin document references known kept)
    (within : document.Within known) :
    ∀ channel ∈ (channels document references).value, ChannelWithin kept channel := by
  unfold channels
  dsimp only
  split
  · exact fun _ absent => absurd absent List.not_mem_nil
  · next entries found =>
      simp only [Logged.value_bind, Logged.value_pure]
      have entriesWithin := within_of_entries? (within_given (within.field "channels")) found
      have foundWithin : ∀ channel ∈ (Logged.collect (fun entry =>
          channelOf document references entry.1.shown entry.2) entries).value,
            ChannelWithin kept channel :=
        forall_mem_collect fun entry member =>
          within_channelOf converts within entry.1.shown (entriesWithin entry member)
      refine within_attachAll (within_operations converts within ?_) foundWithin
      intro entry listed message carried
      obtain ⟨channel, member, rfl⟩ := List.mem_map.mp listed
      exact foundWithin channel member message (List.mem_append_left _ carried)

/-! ## The whole model -/

/-- Every unresolved reference that a compilation gives notice of is a reference of the document
whose key names no component schema. -/
theorem mem_references_of_notice {identity : Identity} {warnings : List String}
    {options : Options} {pointer : String}
    (listed : .unresolvedReference pointer ∈
      (TypeScript.compile (read document .kept identity warnings).value options).notices) :
    pointer ∈ document.references ∧ ∃ key, TypeScript.schemaKey? pointer = some key ∧
      (Task.ofDocument (read document .kept identity warnings).value options).schemaName? key =
        none := by
  have within : document.Within (· ∈ document.references) :=
    fun _ refers => Value.mem_references_iff.mpr refers
  have converts := convertsWithin_kept document (· ∈ document.references)
  have channels : ∀ message ∈ (channels document .kept).value.flatMap Task.channelMessages,
      MessageWithin (· ∈ document.references) message := by
    intro message carried
    obtain ⟨channel, member, inside⟩ := List.mem_flatMap.mp carried
    exact within_channels converts within channel member message inside
  exact TypeScript.founded_of_mem_notices options (within_schemas converts within)
    (within_messages converts within) channels listed pointer rfl

end AsyncTypes.Extraction

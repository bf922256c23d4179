import AsyncTypes.Proofs.Extraction.Bound
import AsyncTypes.Proofs.Extraction.MessagePointer

/-!
# Messages of an operation and of its channel

What a link leads to is read as the link is, when the link gives it its name: the same object is
found, and a chain that runs back into the link has none either way.  So an operation that lists
the messages of its channel by their pointers, all of them and in order, is given the messages
that the channel has, as is one that lists nothing.
-/

namespace AsyncTypes.Extraction

open Validation (channelEntries operationEntries Shaped NullOrMap)

variable {document value middle last : Value} {pointers : List String} {name pointer : String}
  {references : References}

/-! ## Reading behind a link -/

/-- A chain is cut at one of its pointers. -/
theorem Chain.exists_split (chain : Chain document value pointers last)
    (met : pointer ∈ pointers) :
    ∃ before after middle, pointers = before ++ pointer :: after ∧
      Chain document value before middle ∧ middle.reference? = some pointer ∧
      Chain document ((Pointer.walk? document pointer).getD .null) after last := by
  induction chain with
  | here => exact absurd met List.not_mem_nil
  | @link value last first rest refers onward ih =>
      by_cases same : pointer = first
      · subst same
        exact ⟨[], rest, value, rfl, .here value, refers, onward⟩
      · have later := (List.mem_cons.mp met).resolve_left same
        obtain ⟨before, after, middle, rfl, chain, holds, further⟩ := ih later
        exact ⟨first :: before, after, middle, rfl, .link refers chain, holds, further⟩

/-- Two chains from one value to one that refers no further have the same length. -/
theorem Chain.length_eq {others : List String} {final : Value}
    (chain : Chain document value pointers last) (other : Chain document value others final)
    (ended : last.reference? = none) (endedAlso : final.reference? = none) :
    others.length = pointers.length := by
  have stops : ∀ {stop further : Value} {more : List String}, stop.reference? = none →
      Chain document stop more further → more = [] := by
    intro stop further more single onward
    cases onward with
    | here => rfl
    | link refers => exact nomatch single.symm.trans refers
  rcases chain.continues other with ⟨more, rfl, onward⟩ | ⟨more, rfl, onward⟩
  · rw [stops ended onward, List.append_nil]
  · rw [stops endedAlso onward, List.append_nil]

theorem reference?_of_object? {object : Value} (found : object? last = some object) :
    last.reference? = none := by
  cases refers : last.reference? with
  | none => rfl
  | some pointer => exact nomatch (object?_of_reference? refers).symm.trans found

/-- The message that is read from a value under a name, if the value leads to an object. -/
def readMessage (document : Value) (references : References) (name : String) (value : Value) :
    Option Message :=
  let reached := (followMessage document name value).value
  reached.2.map fun object => (messageOf document references reached.1 object).value

theorem readMessage_of_followed (followed : Followed document value pointers last)
    (references : References) (name : String) :
    readMessage document references name value = (object? last).map fun object =>
      (messageOf document references (pointers.foldl nameAfter name) object).value := by
  rw [readMessage, followMessage_of_followed followed]

/-- A link is read as what it leads to, under the name that it gives. -/
theorem readMessage_of_link (refers : value.reference? = some pointer) (references : References)
    (name : String) :
    readMessage document references name value =
      readMessage document references (nameAfter name pointer)
        ((Pointer.walk? document pointer).getD .null) := by
  obtain ⟨pointers, last, followed, -⟩ := exists_followed document
    ((Pointer.walk? document pointer).getD .null) (nameAfter name pointer)
  rw [readMessage_of_followed followed]
  by_cases met : pointer ∈ pointers
  · -- The chain behind the link comes back to it, so neither chain ends at an object.
    obtain ⟨before, after, middle, rfl, chain, holds, onward⟩ := followed.chain.exists_split met
    have distinct := List.nodup_append.mp followed.distinct
    have looped : Followed document value (pointer :: before) middle := {
      chain := .link refers chain
      distinct := List.nodup_cons.mpr
        ⟨fun listed => distinct.2.2 _ listed _ List.mem_cons_self rfl, distinct.1⟩
      ended := by
        intro next also
        cases holds.symm.trans also
        exact List.mem_cons_self }
    have without : object? last = none := by
      cases found : object? last with
      | none => rfl
      | some object =>
          have ended := reference?_of_object? found
          have equal := onward.length_eq followed.chain ended ended
          simp only [List.length_append, List.length_cons] at equal
          omega
    rw [readMessage_of_followed looped, object?_of_reference? holds, without]
    rfl
  · have longer : Followed document value (pointer :: pointers) last := {
      chain := .link refers followed.chain
      distinct := List.nodup_cons.mpr ⟨met, followed.distinct⟩
      ended := fun next also => List.mem_cons_of_mem _ (followed.ended next also) }
    exact readMessage_of_followed longer references name

/-! ## Lists of messages -/

theorem value_listedMessages_cons (operation : String) (index : Nat) (entry : Value)
    (rest : List Value) :
    (listedMessages document references operation index (entry :: rest)).value =
      (readMessage document references s!"{operation}Message{index + 1}" entry).toList ++
        (listedMessages document references operation (index + 1) rest).value := by
  rw [listedMessages, Logged.value_bind, readMessage]
  generalize (followMessage document s!"{operation}Message{index + 1}" entry).value = reached
  obtain ⟨called, object⟩ := reached
  cases object <;> rfl

/-- The messages of a channel are read one after another, each under its key. -/
theorem value_channelMessages {object : Value} (shape : NullOrMap (object.field "messages"))
    (channel : String) :
    (channelMessages document references channel object).value =
      ((object.field "messages").entries?.getD []).filterMap fun entry =>
        readMessage document references entry.1.shown entry.2 := by
  rw [channelMessages]
  dsimp only
  rw [shape.entries?]
  dsimp only
  rw [Logged.value_collect]
  apply List.filterMap_congr
  intro entry _
  rw [Logged.value_bind, readMessage]
  generalize (followMessage document entry.1.shown entry.2).value = reached
  obtain ⟨called, object⟩ := reached
  cases object <;> rfl

/-- The messages of a channel under their keys. -/
def keyedMessages (object : Value) : Entries :=
  (object.field "messages").entries?.getD []

/-- The items refer to all messages of the channel, in order and each once. -/
def ListsMessages (channel : String) (object : Value) (items : List Value) : Prop :=
  items.map Value.reference? =
    (keyedMessages object).map fun entry => some (Pointer.toMessage channel entry.1.shown)

instance (channel : String) (object : Value) (items : List Value) :
    Decidable (ListsMessages channel object items) :=
  inferInstanceAs (Decidable (_ = _))

/-- Items that refer to values are read as these are under their keys. -/
theorem value_listedMessages_of_leads {channel : String} {entries : Entries} {items : List Value}
    (leads : ∀ entry ∈ entries,
      Pointer.walk? document (Pointer.toMessage channel entry.1.shown) = some entry.2)
    (refer : items.map Value.reference? =
      entries.map fun entry => some (Pointer.toMessage channel entry.1.shown))
    (operation : String) (index : Nat) :
    (listedMessages document references operation index items).value =
      entries.filterMap fun entry => readMessage document references entry.1.shown entry.2 := by
  induction entries generalizing items index with
  | nil =>
      rw [List.map_nil, List.map_eq_nil_iff] at refer
      rw [refer, listedMessages]
      rfl
  | cons entry entries ih =>
      obtain ⟨leadsHere, leadsLater⟩ := List.forall_mem_cons.mp leads
      obtain ⟨item, rest, rfl, refers, refersLater⟩ := List.map_eq_cons_iff.mp refer
      have sameMessage : readMessage document references s!"{operation}Message{index + 1}" item =
          readMessage document references entry.1.shown entry.2 := by
        rw [readMessage_of_link refers, nameAfter_toMessage, leadsHere, Option.getD_some]
      rw [value_listedMessages_cons, sameMessage, ih leadsLater refersLater, List.filterMap_cons]
      cases readMessage document references entry.1.shown entry.2 <;> rfl

/-- A list of all messages of a channel is read as the messages of the channel. -/
theorem value_listedMessages {channel : String} {object : Value} {items : List Value}
    (json : document.isJson = true)
    (held : (document.field "channels").get? channel = some object)
    (shape : NullOrMap (object.field "messages"))
    (maps : ∀ entry ∈ keyedMessages object, entry.2.isMap = true)
    (lists : ListsMessages channel object items) (operation : String) :
    (listedMessages document references operation 0 items).value =
      (channelMessages document references channel object).value := by
  have inside := Value.isJson_of_partOf (Value.partOf_of_get? held)
    (Value.isJson_field json "channels")
  rw [value_channelMessages shape]
  refine value_listedMessages_of_leads (fun entry listed => ?_) lists operation 0
  have text := (Value.keys_of_isJson (Value.isJson_field inside "messages")).2 entry listed
  have found : (object.field "messages").get? entry.1.shown = some entry.2 :=
    Value.get?_of_mem_entries (Value.isJson_field inside "messages") (text ▸ listed)
  apply walk?_toMessage held found
  cases message : entry.2 with
  | scalar scalar => exact nomatch message ▸ maps entry listed
  | _ => rfl

/-! ## Channels and operations of a model -/

/-- A channel that is no reference has the messages that it holds. -/
theorem mem_bareChannels {channel : String} {object : Value} (shaped : Shaped document)
    (listed : (.string channel, object) ∈ channelEntries document)
    (inline : object.reference? = none) :
    ∃ bare ∈ bareChannels document references, bare.name = channel ∧
      bare.messages = (channelMessages document references channel object).value := by
  have mapping := shaped.channelMaps _ listed
  have found : (channelOf document references channel object).value = some {
      name := channel
      address := if (object.field "address").isNull then none
        else some (object.field "address").shown
      description := describe? (object.field "description")
      messages := (channelMessages document references channel object).value
      send := []
      receive := [] } := by
    rw [channelOf, Pointer.dereference, inline]
    simp only [Logged.value_bind, Logged.value_pure, mapping, Bool.not_true, Bool.false_eq_true,
      if_false]
  exact ⟨_, List.mem_filterMap.mpr ⟨_, listed, found⟩, rfl, rfl⟩

/-- Among channels of different names, a name has the messages of the channel under it. -/
theorem messagesUnder_eq {table : List (String × List Message)} {channel : String}
    {messages : List Message} (distinct : (table.map (·.1)).Nodup)
    (listed : (channel, messages) ∈ table) : messagesUnder table channel = messages := by
  rw [messagesUnder]
  cases found : table.reverse.find? fun entry => entry.1 == channel with
  | none =>
      have missed := List.find?_eq_none.mp found _ (List.mem_reverse.mpr listed)
      simp at missed
  | some entry =>
      have key : entry.1 = channel := by simpa using List.find?_some found
      have member := List.mem_reverse.mp (List.mem_of_find?_eq_some found)
      rw [List.inj_on_of_nodup_map distinct member listed key]
      rfl

/-- An operation that is no reference has the messages that it lists, or those of its channel. -/
theorem value_operationOf {table : List (String × List Message)} {operation : Value}
    {action : Direction} (mapping : operation.isMap = true) (inline : operation.reference? = none)
    (known : Direction.ofWord? (actionWord operation) = some action) (name : String) :
    (operationOf document table references name operation).value = some {
      name := name
      action := action
      channel := operationChannel (operation.field "channel")
      messages := match (operation.field "messages").items? with
        | some listed => (listedMessages document references name 0 listed).value
        | none => messagesUnder table (operationChannel (operation.field "channel"))
      description := describe? (operation.field "description") } := by
  rw [operationOf, Pointer.dereference, inline]
  simp only [Logged.value_bind, Logged.value_pure, mapping, Bool.not_true, Bool.false_eq_true,
    if_false, known]
  cases (operation.field "messages").items? <;> rfl

/-- The operation under a name is one of a channel, of no other channel and but once, and it
carries the messages that are also those of its channel. -/
structure Carries (model : Document) (channel name : String) (messages : List Message) : Prop where
  present : ∃ target ∈ model.channels, target.name = channel ∧ target.messages = messages ∧
    ∃ direction, ∃ operation ∈ target.operations direction, operation.name = name
  only : ∀ target ∈ model.channels, ∀ direction, ∀ operation ∈ target.operations direction,
    operation.name = name → target.name = channel ∧ operation.messages = messages

/-- The first channel is the second one with the operations of the document that are bound to
it. -/
structure Completes (document : Value) (references : References) (target bare : Channel) :
    Prop where
  name : target.name = bare.name
  messages : target.messages = bare.messages
  operations : ∀ direction operation, operation ∈ target.operations direction ↔
    (∃ entry ∈ operationEntries document,
      (operationOf document (messageTable (bareChannels document references)) references
        entry.1.shown entry.2).value = some operation) ∧
    operation.channel = bare.name ∧ operation.action = direction

theorem completes_channels (references : References) (json : document.isJson = true)
    (shaped : Shaped document) : List.Forall₂ (Completes document references)
      (channels document references).value (bareChannels document references) := by
  obtain ⟨_, rfl, -, empty, attached⟩ := exists_channels references json shaped
  rw [attached, List.forall₂_map_left_iff, List.forall₂_same]
  intro bare member
  refine ⟨bare.name_foldl_attachBound _, bare.messages_foldl_attachBound _, ?_⟩
  intro direction operation
  rw [Channel.operations_foldl_attachBound, empty bare member, List.nil_append, List.mem_filter,
    List.mem_filterMap, Bool.and_eq_true, beq_iff_eq, beq_iff_eq]
  rfl

/-- An operation carries the messages of its channel when it lists none, and when what it lists
is read as they are. -/
theorem carries_channelMessages {channel : String} {object operation : Value} {action : Direction}
    (json : document.isJson = true) (shaped : Shaped document)
    (ofDocument : (.string channel, object) ∈ channelEntries document)
    (given : object.reference? = none)
    (listed : (.string name, operation) ∈ operationEntries document)
    (inline : operation.reference? = none)
    (known : Direction.ofWord? (actionWord operation) = some action)
    (bound : operationChannel (operation.field "channel") = channel)
    (lists : ∀ items, (operation.field "messages").items? = some items →
      (listedMessages document references name 0 items).value =
        (channelMessages document references channel object).value)
    (identity : Identity) (warnings : List String) :
    Carries (read document references identity warnings).value channel name
      (channelMessages document references channel object).value := by
  have completes := completes_channels references json shaped
  obtain ⟨bare, member, named, messages⟩ :=
    @mem_bareChannels document references channel object shaped ofDocument given
  have distinct : ((messageTable (bareChannels document references)).map (·.1)).Nodup := by
    have names := Value.nodup_names (Value.isJson_field json "channels")
    rw [messageTable, List.map_map]
    exact names_bareChannels references shaped ▸ names
  have table : messagesUnder (messageTable (bareChannels document references)) channel =
      (channelMessages document references channel object).value :=
    messagesUnder_eq distinct (List.mem_map.mpr ⟨bare, member, by rw [named, messages]⟩)
  obtain ⟨moved, readName, readChannel, readMessages, converted⟩ : ∃ moved : Operation,
      moved.name = name ∧ moved.channel = channel ∧
        moved.messages = (channelMessages document references channel object).value ∧
        (operationOf document (messageTable (bareChannels document references)) references name
          operation).value = some moved := by
    refine ⟨_, rfl, bound, ?_, value_operationOf (shaped.operationMaps _ listed) inline known name⟩
    cases items : (operation.field "messages").items? with
    | some listedItems => exact lists listedItems items
    | none => exact (congrArg _ bound).trans table
  constructor
  case present =>
    obtain ⟨target, targeted, complete⟩ := exists_of_forall₂_right completes member
    refine ⟨target, targeted, complete.name.trans named, complete.messages.trans messages,
      moved.action, moved, ?_, readName⟩
    exact (complete.operations _ _).mpr
      ⟨⟨_, listed, converted⟩, readChannel.trans named.symm, rfl⟩
  case only =>
    intro target targeted direction other kept called
    obtain ⟨source, sourced, complete⟩ := exists_of_forall₂_left completes targeted
    obtain ⟨⟨entry, also, convertedAlso⟩, boundAlso, -⟩ := (complete.operations _ _).mp kept
    obtain ⟨unique, texts⟩ := Value.keys_of_isJson (Value.isJson_field json "operations")
    have sameName : other.name = entry.1.shown := by
      rcases operationOf_cases document references _ entry.1.shown
          (shaped.operationMaps entry also) with ⟨-, nothing⟩ | ⟨result, found, -, name_, -⟩
      · exact absurd (convertedAlso.symm.trans nothing) (Option.some_ne_none _)
      · cases convertedAlso.symm.trans found
        exact name_
    have key : entry.1 = .string name := by rw [texts entry also, ← sameName, called]
    obtain rfl := List.inj_on_of_nodup_map unique also listed key
    cases convertedAlso.symm.trans converted
    exact ⟨complete.name.trans (boundAlso.symm.trans readChannel), readMessages⟩

end AsyncTypes.Extraction

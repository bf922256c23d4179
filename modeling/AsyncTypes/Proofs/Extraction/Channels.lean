import Mathlib.Data.List.TakeWhile
import AsyncTypes.Proofs.Extraction.Gate
import AsyncTypes.Proofs.List.Result
import AsyncTypes.Proofs.Validation.Shape

/-!
# Channels, operations and schemas of a valid document

A valid JSON document has mappings where its channels, its operations and its component schemas
stand.  Extracting it gives one channel for each of the former and one schema for each of the
latter, and every operation becomes one operation of the channel that it is bound to, in the
direction of its action.  None is lost, none is repeated, and their order stays.
-/

namespace AsyncTypes

/-! ## Below a root -/

namespace Pointer

/-- The pointer starts with the root, and the step after it stands for the key. -/
def Enters (root key pointer : String) : Prop :=
  ∃ step rest, pointer.toList = root.toList ++ (step ++ rest) ∧ '/' ∉ step ∧
    (rest = [] ∨ ∃ further, rest = '/' :: further) ∧ stepKey step = key

/-- The characters before the first slash. -/
theorem takeWhile_of_notMem {step rest : List Char} (whole : '/' ∉ step)
    (ends : rest = [] ∨ ∃ further, rest = '/' :: further) :
    (step ++ rest).takeWhile (· != '/') = step := by
  have passed : ∀ c ∈ step, (c != '/') = true := by
    intro c listed
    exact bne_iff_ne.mpr fun same => whole (same ▸ listed)
  rw [List.takeWhile_append_of_pos passed]
  rcases ends with rfl | ⟨further, rfl⟩
  · simp
  · simp

theorem keyBelow?_eq_some_iff {root key pointer : String} :
    keyBelow? root pointer = some key ↔ Enters root key pointer := by
  unfold keyBelow? Enters
  rw [Option.map_eq_some_iff]
  constructor
  · rintro ⟨steps, after, stands⟩
    refine ⟨steps.takeWhile (· != '/'), steps.dropWhile (· != '/'), ?_, ?_, ?_, stands⟩
    · rw [List.takeWhile_append_dropWhile]
      exact Text.after?_eq_some_iff.mp after
    · intro listed
      exact absurd (List.mem_takeWhile_imp listed) (by decide)
    · cases later : steps.dropWhile (· != '/') with
      | nil => exact Or.inl rfl
      | cons c further =>
          have stopped := List.head_dropWhile_not (· != '/') (l := steps) (by simp [later])
          simp only [later, List.head_cons, bne_eq_false_iff_eq] at stopped
          exact Or.inr ⟨further, by rw [stopped]⟩
  · rintro ⟨step, rest, starts, whole, ends, stands⟩
    exact ⟨step ++ rest, Text.after?_eq_some_iff.mpr starts,
      by rw [takeWhile_of_notMem whole ends, stands]⟩

/-! ## Resolved references -/

theorem isMap_resolveChain (document : Value) (budget : Nat) (visited : List String)
    (pointer : String) : (resolveChain document budget visited pointer).value.isMap = true := by
  induction budget generalizing visited pointer with
  | zero => rfl
  | succ budget ih =>
      rw [resolveChain]
      split
      · rfl
      · rw [Logged.value_bind, value_walk]
        split
        · rfl
        · next target _ =>
            split
            · next mapping =>
                split
                · exact ih _ _
                · exact mapping
            · rfl

/-- A mapping is still a mapping when a reference in its place is resolved. -/
theorem isMap_dereference (document : Value) {value : Value} (mapping : value.isMap = true) :
    (dereference document value).value.isMap = true := by
  unfold dereference
  split
  · exact isMap_resolveChain _ _ _ _
  · exact mapping

end Pointer

/-! ## Attaching operations -/

/-- The channel with the operation attached, if it is bound to the channel. -/
def Channel.attachBound (channel : Channel) (operation : Operation) : Channel :=
  if channel.name = operation.channel then channel.attach operation else channel

namespace Channel

variable (channel : Channel) (operation : Operation)

@[simp]
theorem name_attach : (channel.attach operation).name = channel.name := by
  unfold attach
  split <;> rfl

@[simp]
theorem messages_attach : (channel.attach operation).messages = channel.messages := by
  unfold attach
  split <;> rfl

theorem operations_attach (direction : Direction) : (channel.attach operation).operations direction =
    channel.operations direction ++ [operation].filter (·.action == direction) := by
  obtain ⟨name, action, target, messages, description⟩ := operation
  cases action <;> cases direction <;> simp [attach, operations]

@[simp]
theorem name_attachBound : (channel.attachBound operation).name = channel.name := by
  unfold attachBound
  split
  · exact channel.name_attach operation
  · rfl

@[simp]
theorem messages_attachBound : (channel.attachBound operation).messages = channel.messages := by
  unfold attachBound
  split
  · exact channel.messages_attach operation
  · rfl

theorem operations_attachBound (direction : Direction) :
    (channel.attachBound operation).operations direction = channel.operations direction ++
      [operation].filter fun operation =>
        operation.channel == channel.name && operation.action == direction := by
  unfold attachBound
  split
  · next bound => simp [operations_attach, bound, List.filter_cons]
  · next apart => simp [Ne.symm apart]

variable (operations_ : List Operation)

theorem name_foldl_attachBound : (operations_.foldl attachBound channel).name = channel.name := by
  induction operations_ generalizing channel with
  | nil => rfl
  | cons operation rest ih => rw [List.foldl_cons, ih, name_attachBound]

theorem messages_foldl_attachBound :
    (operations_.foldl attachBound channel).messages = channel.messages := by
  induction operations_ generalizing channel with
  | nil => rfl
  | cons operation rest ih => rw [List.foldl_cons, ih, messages_attachBound]

/-- After attaching operations, a channel has those that are bound to it, in order. -/
theorem operations_foldl_attachBound (direction : Direction) :
    (operations_.foldl attachBound channel).operations direction = channel.operations direction ++
      operations_.filter fun operation =>
        operation.channel == channel.name && operation.action == direction := by
  induction operations_ generalizing channel with
  | nil => simp
  | cons operation rest ih =>
      rw [List.foldl_cons, ih, operations_attachBound, name_attachBound, List.append_assoc,
        ← List.filter_append, List.singleton_append]

end Channel

namespace Extraction

theorem attachToLast_eq_none_iff {operation : Operation} {channels : List Channel} :
    attachToLast operation channels = none ↔ operation.channel ∉ channels.map (·.name) := by
  induction channels with
  | nil => simp [attachToLast]
  | cons channel rest ih =>
      rw [attachToLast]
      cases later : attachToLast operation rest with
      | some attached =>
          have listed : operation.channel ∈ rest.map (·.name) := by
            by_contra absent
            exact nomatch later.symm.trans (ih.mpr absent)
          simp only [reduceCtorEq, false_iff, not_not]
          exact List.mem_cons_of_mem _ listed
      | none =>
          have absent := ih.mp later
          by_cases bound : channel.name = operation.channel
          · simp [bound]
          · simp [bound, Ne.symm bound, absent]

theorem map_attachBound_of_notMem {operation : Operation} {channels : List Channel}
    (absent : operation.channel ∉ channels.map (·.name)) :
    (channels.map fun channel => channel.attachBound operation) = channels := by
  induction channels with
  | nil => rfl
  | cons channel rest ih =>
      obtain ⟨apart, absentLater⟩ := not_or.mp (mt List.mem_cons.mpr absent)
      rw [List.map_cons, ih absentLater, Channel.attachBound, if_neg (Ne.symm apart)]

/-- When no two channels share a name, an operation is attached to the one that has its name. -/
theorem getD_attachToLast {operation : Operation} {channels : List Channel}
    (distinct : (channels.map (·.name)).Nodup) :
    (attachToLast operation channels).getD channels =
      channels.map fun channel => channel.attachBound operation := by
  induction channels with
  | nil => rfl
  | cons channel rest ih =>
      obtain ⟨fresh, distinctRest⟩ := List.nodup_cons.mp distinct
      have further := ih distinctRest
      rw [attachToLast, List.map_cons]
      cases later : attachToLast operation rest with
      | some attached =>
          rw [later, Option.getD_some] at further
          have apart : channel.name ≠ operation.channel := by
            intro same
            rw [attachToLast_eq_none_iff.mpr (same ▸ fresh)] at later
            exact nomatch later
          have same : channel.attachBound operation = channel := if_neg apart
          rw [same, ← further]
          rfl
      | none =>
          rw [map_attachBound_of_notMem (attachToLast_eq_none_iff.mp later), Channel.attachBound]
          by_cases bound : channel.name = operation.channel
          · simp [bound]
          · simp [bound]

theorem value_attachAll {channels : List Channel} (operations : List Operation)
    (distinct : (channels.map (·.name)).Nodup) : (attachAll channels operations).value =
      channels.map fun channel => operations.foldl Channel.attachBound channel := by
  induction operations generalizing channels with
  | nil => exact (List.map_id channels).symm
  | cons operation rest ih =>
      have step : (attachAll channels (operation :: rest)).value =
          (attachAll ((attachToLast operation channels).getD channels) rest).value := by
        rw [attachAll]
        cases attachToLast operation channels <;> rfl
      have names : ((channels.map fun channel => channel.attachBound operation).map (·.name)) =
          channels.map (·.name) := by simp
      rw [step, getD_attachToLast distinct, ih (names ▸ distinct), List.map_map]
      rfl

/-! ## The entries of a document -/

open Validation (channelEntries operationEntries schemaEntries Shaped)

variable {document : Value} {references : References}

/-- A mapping becomes a channel of its name without operations. -/
theorem exists_channelOf {name : String} {value : Value} (mapping : value.isMap = true) :
    ∃ channel, (channelOf document references name value).value = some channel ∧
      channel.name = name ∧ ∀ direction, channel.operations direction = [] := by
  have object := Pointer.isMap_dereference document mapping
  rw [channelOf]
  simp only [Logged.value_bind, object, Bool.not_true, Bool.false_eq_true, if_false]
  refine ⟨_, rfl, rfl, fun direction => ?_⟩
  cases direction <;> rfl

/-- A mapping becomes an operation when its action has a direction. -/
theorem operationOf_cases (document : Value) (references : References)
    (channels : List (String × List Message)) (name : String) {value : Value}
    (mapping : value.isMap = true) :
    let object := (Pointer.dereference document value).value
    (Direction.ofWord? (actionWord object) = none ∧
        (operationOf document channels references name value).value = none) ∨
      ∃ operation, (operationOf document channels references name value).value = some operation ∧
        Direction.ofWord? (actionWord object) = some operation.action ∧
        operation.name = name ∧ operation.channel = operationChannel (object.field "channel") := by
  have object := Pointer.isMap_dereference document mapping
  dsimp only
  rw [operationOf]
  simp only [Logged.value_bind, object, Bool.not_true, Bool.false_eq_true, if_false]
  cases Direction.ofWord? (actionWord (Pointer.dereference document value).value) with
  | none => exact Or.inl ⟨rfl, rfl⟩
  | some action =>
      cases ((Pointer.dereference document value).value.field "messages").items? with
      | none => exact Or.inr ⟨_, rfl, rfl, rfl, rfl⟩
      | some listed => exact Or.inr ⟨_, rfl, rfl, rfl, rfl⟩

theorem ofWord?_eq_some_iff {word : String} {direction : Direction} :
    Direction.ofWord? word = some direction ↔ word = direction.word := by
  constructor
  · intro found
    unfold Direction.ofWord? at found
    have matched := List.find?_some found
    exact (beq_iff_eq.mp matched).symm
  · rintro rfl
    cases direction <;> rfl

/-! ## Bound operations -/

/-- The operation, or the mapping that it refers to, moves messages in the direction, and it
points at the channel. -/
def BoundTo (document : Value) (direction : Direction) (channel : String) (operation : Value) :
    Prop :=
  let object := (Pointer.dereference document operation).value
  actionWord object = direction.word ∧ ∃ pointer,
    (object.field "channel").reference? = some pointer ∧
      Pointer.Enters Pointer.channelRoot channel pointer

variable {direction : Direction} {channel : String} {value : Value}

/-- The name of a channel that is not empty is the one that an operation points at exactly when
the pointer leads into the channel. -/
theorem operationChannel_eq_iff (named : channel ≠ "") :
    operationChannel value = channel ↔ ∃ pointer, value.reference? = some pointer ∧
      Pointer.Enters Pointer.channelRoot channel pointer := by
  unfold operationChannel
  simp only [← Pointer.keyBelow?_eq_some_iff, ← Option.bind_eq_some_iff]
  cases (value.reference?).bind (Pointer.keyBelow? Pointer.channelRoot) with
  | none => simp [Ne.symm named]
  | some key => simp

theorem boundTo_iff (named : channel ≠ "") :
    BoundTo document direction channel value ↔
      actionWord (Pointer.dereference document value).value = direction.word ∧
        operationChannel ((Pointer.dereference document value).value.field "channel") =
          channel := by
  rw [operationChannel_eq_iff named]
  exact Iff.rfl

instance (document : Value) (direction : Direction) (channel : String) :
    DecidablePred (BoundTo document direction channel) := fun value =>
  decidable_of_iff
    (actionWord (Pointer.dereference document value).value = direction.word ∧
      (((Pointer.dereference document value).value.field "channel").reference?).bind
        (Pointer.keyBelow? Pointer.channelRoot) = some channel)
    (by simp only [BoundTo, Option.bind_eq_some_iff, Pointer.keyBelow?_eq_some_iff])

/-- An operation is kept for a channel in a direction exactly when it is bound to them. -/
theorem exists_operationOf_iff {channels : List (String × List Message)} {name : String}
    (mapping : value.isMap = true) (named : channel ≠ "") :
    (∃ operation, (operationOf document channels references name value).value = some operation ∧
        (operation.channel == channel && operation.action == direction) = true) ↔
      BoundTo document direction channel value := by
  rw [boundTo_iff named, ← ofWord?_eq_some_iff]
  rcases operationOf_cases document references channels name mapping with
    ⟨unknown, nothing⟩ | ⟨operation, found, action, -, target⟩
  · simp [unknown, nothing]
  · rw [action, ← target, found]
    simp [and_comm]

/-! ## The extracted parts -/

theorem insertProperty_of_notMem {name : String} {node : SchemaNode}
    {properties : List (String × SchemaNode)} (fresh : name ∉ properties.map (·.1)) :
    SchemaNode.insertProperty name node properties = properties ++ [(name, node)] := by
  induction properties with
  | nil => rfl
  | cons property rest ih =>
      obtain ⟨apart, freshLater⟩ := not_or.mp (mt List.mem_cons.mpr fresh)
      rw [SchemaNode.insertProperty, if_neg (by simpa using Ne.symm apart), ih freshLater]
      rfl

theorem foldl_insertProperty_of_nodup {before pairs : List (String × SchemaNode)}
    (distinct : ((before ++ pairs).map (·.1)).Nodup) :
    pairs.foldl (fun properties pair => SchemaNode.insertProperty pair.1 pair.2 properties) before =
      before ++ pairs := by
  induction pairs generalizing before with
  | nil => exact (List.append_nil before).symm
  | cons pair rest ih =>
      have fresh : pair.1 ∉ before.map (·.1) := by
        intro listed
        rw [List.map_append] at distinct
        exact (List.nodup_append.mp distinct).2.2 _ listed _ List.mem_cons_self rfl
      have regroup : before ++ pair :: rest = (before ++ [pair]) ++ rest := by simp
      rw [regroup] at distinct ⊢
      rw [List.foldl_cons, insertProperty_of_notMem fresh]
      exact ih distinct

/-- Distinct properties stay as they are. -/
theorem propertiesOf_of_nodup {pairs : List (String × SchemaNode)}
    (distinct : (pairs.map (·.1)).Nodup) : SchemaNode.propertiesOf pairs = pairs :=
  @foldl_insertProperty_of_nodup [] pairs distinct

theorem entries?_component (shaped : Shaped document) :
    (component document "schemas").entries? = some (schemaEntries document) := by
  unfold component schemaEntries
  dsimp only
  rcases shaped.components with absent | mapping
  · rw [absent]
    rfl
  · rw [mapping, Bool.true_and]
    exact shaped.schemas.entries?

/-- The component schemas that are read are the conversions of those of the document, the last one
under each key. -/
theorem schemas_eq_propertiesOf (references : References) (shaped : Shaped document) :
    (schemas document references).value =
      SchemaNode.propertiesOf ((schemaEntries document).map fun entry => (entry.1.shown,
        (schemaAlong document references [Pointer.schemaRoot ++ entry.1.shown] entry.2).value)) := by
  rw [schemas, entries?_component shaped]
  simp only [Logged.value_bind, Logged.value_collect, Logged.value_pure, List.filterMap_eq_map']
  rfl

/-- The component schemas of a model are those of the document, one after another. -/
theorem value_schemas (references : References) (json : document.isJson = true)
    (shaped : Shaped document) : (schemas document references).value =
      (schemaEntries document).map fun entry => (entry.1.shown,
        (schemaAlong document references [Pointer.schemaRoot ++ entry.1.shown] entry.2).value) := by
  have distinct := Value.nodup_names
    (Value.isJson_field (Value.isJson_field json "components") "schemas")
  rw [schemas_eq_propertiesOf references shaped, propertiesOf_of_nodup]
  rw [List.map_map]
  exact distinct

theorem names_schemas (references : References) (json : document.isJson = true)
    (shaped : Shaped document) : (schemas document references).value.map (·.1) =
      (schemaEntries document).map fun entry => entry.1.shown := by
  rw [value_schemas references json shaped, List.map_map]
  rfl

/-- The channels of the entries, before operations are attached. -/
def bareChannels (document : Value) (references : References) : List Channel :=
  (channelEntries document).filterMap fun entry =>
    (channelOf document references entry.1.shown entry.2).value

theorem names_bareChannels (references : References) (shaped : Shaped document) :
    (bareChannels document references).map (·.name) =
      (channelEntries document).map fun entry => entry.1.shown := by
  apply map_filterMap_of_forall
  intro entry listed
  obtain ⟨channel, found, same, -⟩ := exists_channelOf (shaped.channelMaps entry listed)
  exact ⟨channel, found, same⟩

theorem operations_bareChannels (shaped : Shaped document) {channel : Channel}
    (listed : channel ∈ bareChannels document references) (direction : Direction) :
    channel.operations direction = [] := by
  obtain ⟨entry, member, found⟩ := List.mem_filterMap.mp listed
  obtain ⟨other, also, -, empty⟩ := exists_channelOf (shaped.channelMaps entry member)
  cases found.symm.trans also
  exact empty direction

/-- The channels are those of the entries, with the operations of the entries attached. -/
theorem exists_channels (references : References) (json : document.isJson = true) (shaped : Shaped document) :
    ∃ found : List Channel, found = bareChannels document references ∧
      found.map (·.name) = (channelEntries document).map (fun entry => entry.1.shown) ∧
      (∀ channel ∈ found, ∀ direction, channel.operations direction = []) ∧
      (channels document references).value = found.map fun channel =>
        ((operationEntries document).filterMap fun entry =>
          (operationOf document (found.map fun channel => (channel.name, channel.messages))
            references entry.1.shown entry.2).value).foldl Channel.attachBound channel := by
  have names := names_bareChannels references shaped
  have distinct := Value.nodup_names (Value.isJson_field json "channels")
  refine ⟨_, rfl, names, fun channel listed => operations_bareChannels shaped listed, ?_⟩
  have operations_eq : ∀ listed, (operations document listed references).value =
      (operationEntries document).filterMap fun entry =>
        (operationOf document listed references entry.1.shown entry.2).value := by
    intro listed
    rw [operations, shaped.operations.entries?]
    simp only [Logged.value_bind, Logged.value_collect, Logged.value_pure]
    rfl
  rw [channels, shaped.channels.entries?]
  simp only [Logged.value_bind, Logged.value_collect, Logged.value_pure, operations_eq]
  exact value_attachAll _ (names ▸ distinct)

/-! ## Neither lost nor repeated -/

/-- What the operations of a model are made from: the channels with their messages. -/
def messageTable (channels : List Channel) : List (String × List Message) :=
  channels.map fun channel => (channel.name, channel.messages)

/-- The operation of a model with some channels is what becomes of the entry. -/
structure Presents (document : Value) (references : References) (channels : List Channel)
    (operation : Operation) (entry : Scalar × Value) : Prop where
  key : entry.1 = .string operation.name
  converted : (operationOf document (messageTable channels) references operation.name
    entry.2).value = some operation

theorem names_channels (references : References) (json : document.isJson = true) (shaped : Shaped document) :
    (channels document references).value.map (·.name) =
      (channelEntries document).map fun entry => entry.1.shown := by
  obtain ⟨found, -, names, -, attached⟩ := exists_channels references json shaped
  rw [attached, List.map_map, ← names]
  exact List.map_congr_left fun channel _ => channel.name_foldl_attachBound _

/-- A channel has, in a direction, what becomes of the operations that are bound to it. -/
theorem presents_operations (json : document.isJson = true) (shaped : Shaped document)
    {channel : Channel} (listed : channel ∈ (channels document references).value)
    (named : channel.name ≠ "") (direction : Direction) :
    List.Forall₂ (Presents document references (channels document references).value)
        (channel.operations direction)
        ((operationEntries document).filter fun entry =>
          decide (BoundTo document direction channel.name entry.2)) ∧
      ∀ operation ∈ channel.operations direction,
        operation.action = direction ∧ operation.channel = channel.name := by
  obtain ⟨found, -, names, empty, attached⟩ := exists_channels references json shaped
  have texts := (Value.keys_of_isJson (Value.isJson_field json "operations")).2
  have table : messageTable (channels document references).value = messageTable found := by
    rw [messageTable, attached, List.map_map]
    apply List.map_congr_left
    intro channel _
    exact Prod.ext (channel.name_foldl_attachBound _) (channel.messages_foldl_attachBound _)
  rw [attached] at listed
  obtain ⟨source, member, rfl⟩ := List.mem_map.mp listed
  rw [Channel.name_foldl_attachBound] at named ⊢
  rw [Channel.operations_foldl_attachBound, empty source member, List.nil_append]
  constructor
  · apply forall₂_filter_filterMap
    · intro entry ofDocument
      exact exists_operationOf_iff (shaped.operationMaps entry ofDocument) named
    · intro entry ofDocument operation converted
      rcases operationOf_cases document references (messageTable found) entry.1.shown
          (shaped.operationMaps entry ofDocument) with
        ⟨-, nothing⟩ | ⟨other, also, -, called, -⟩
      · exact nomatch converted.symm.trans nothing
      · cases converted.symm.trans also
        refine ⟨?_, ?_⟩
        · rw [called]
          exact texts entry ofDocument
        · rw [table, called]
          exact converted
  · intro operation kept
    have bound := (List.mem_filter.mp kept).2
    rw [Bool.and_eq_true, beq_iff_eq, beq_iff_eq] at bound
    exact ⟨bound.2, bound.1⟩

/-- What has the names of the entries of a JSON value has their keys. -/
theorem keys_of_names {α : Type} {items : List α} {name : α → String} {value : Value}
    (json : value.isJson = true)
    (names : items.map name = (value.entries?.getD []).map fun entry => entry.1.shown) :
    items.map (fun item => Scalar.string (name item)) = (value.entries?.getD []).map (·.1) := by
  have texts := (Value.keys_of_isJson json).2
  have keys := congrArg (List.map Scalar.string) names
  rw [List.map_map, List.map_map] at keys
  exact keys.trans (List.map_congr_left fun entry listed => (texts entry listed).symm)

/-- Extracting a valid JSON document, with references kept or inlined, neither loses nor repeats
anything.  The channels and the component schemas of the model have the keys of the document, in
order.  For a channel whose key is not empty and a direction, the operations of the model are
what becomes of those operations of the document that are bound to the channel in the
direction, in document order and each once; an operation that is not bound to the channel does
not occur in it. -/
theorem operations_attached_once (json : document.isJson = true)
    (contained : (Validation.validate document).escape = none)
    (valid : (Validation.validate document).isValid = true) (references : References) :
    ∃ model, (extract document references).run.value = .ok model ∧
      model.channels.map (fun channel => Scalar.string channel.name) =
        (channelEntries document).map (·.1) ∧
      model.schemas.map (fun schema => Scalar.string schema.1) =
        (schemaEntries document).map (·.1) ∧
      ∀ channel ∈ model.channels, channel.name ≠ "" → ∀ direction,
        List.Forall₂ (Presents document references model.channels) (channel.operations direction)
          ((operationEntries document).filter fun entry =>
            decide (BoundTo document direction channel.name entry.2)) ∧
        (∀ operation ∈ channel.operations direction,
          operation.action = direction ∧ operation.channel = channel.name) ∧
        ∀ entry ∈ operationEntries document,
          (∃ operation ∈ channel.operations direction, entry.1 = Scalar.string operation.name) ↔
            BoundTo document direction channel.name entry.2 := by
  have clean := Validation.Verdict.clean_of_isValid contained valid
  have nothing := Validation.skeleton_of_clean clean
  have shaped := Validation.shaped_of_skeleton nothing
  obtain ⟨identity, -, outcome⟩ :=
    extract_of_isValid (Validation.isMap_of_rules nothing) contained valid
  refine ⟨_, outcome, ?_, ?_, ?_⟩
  · exact keys_of_names (Value.isJson_field json "channels")
      (names_channels references json shaped)
  · exact keys_of_names (Value.isJson_field (Value.isJson_field json "components") "schemas")
      (names_schemas references json shaped)
  · intro channel listed named direction
    obtain ⟨presented, bound⟩ := presents_operations json shaped listed named direction
    refine ⟨presented, bound, fun entry ofDocument => ⟨?_, fun boundHere => ?_⟩⟩
    · rintro ⟨operation, kept, key⟩
      obtain ⟨other, chosen, presents⟩ := exists_of_forall₂_left presented kept
      obtain ⟨member, boundTo⟩ := List.mem_filter.mp chosen
      have distinct := (Value.keys_of_isJson (Value.isJson_field json "operations")).1
      have same := List.inj_on_of_nodup_map distinct ofDocument member
        (key.trans presents.key.symm)
      rw [same]
      exact of_decide_eq_true boundTo
    · obtain ⟨operation, kept, presents⟩ := exists_of_forall₂_right presented
        (List.mem_filter.mpr ⟨ofDocument, decide_eq_true boundHere⟩)
      exact ⟨operation, kept, presents.key⟩

/-! ## An example -/

/-- An operation that points at a channel. -/
def pointingAt (action pointer : String) : Value :=
  .record [("action", .string action), ("channel", .record [("$ref", .string pointer)])]

/-- Two channels, an operation for each of them, one that refers to the first operation, and one
that points at no channel. -/
def twoChannels : Value :=
  .record [("asyncapi", .string "3.0.0"),
    ("info", .record [("title", .string "Orders"), ("version", .string "1")]),
    ("channels", .record [("orders", .map []), ("stock/level", .map [])]),
    ("operations", .record [
      ("place", pointingAt "send" "#/channels/orders"),
      ("watch", pointingAt "receive" "#/channels/stock~1level"),
      ("again", .record [("action", .string "receive"),
        ("channel", .record [("$ref", .string "#/channels/stock~1level")]),
        ("$ref", .string "#/operations/place")]),
      ("other", pointingAt "send" "#/servers/main")])]

/-- The operation that refers to another one is attached where the other one is, whatever stands
beside the reference. -/
theorem twoChannels_attached_once :
    twoChannels.isJson = true ∧ (Validation.validate twoChannels).escape = none ∧
      (Validation.validate twoChannels).isValid = true ∧
      ∀ references, ∃ model, (extract twoChannels references).run.value = .ok model ∧
        model.channels.map (fun channel => Scalar.string channel.name) =
          [.string "orders", .string "stock/level"] ∧
        ∀ channel ∈ model.channels, channel.name = "orders" →
          (channel.operations .send).map (fun operation => Scalar.string operation.name) =
            [.string "place", .string "again"] ∧
          channel.operations .receive = [] := by
  have json : twoChannels.isJson = true := by rfl
  have contained : (Validation.validate twoChannels).escape = none := by decide +kernel
  have valid : (Validation.validate twoChannels).isValid = true := by decide +kernel
  refine ⟨json, contained, valid, fun references => ?_⟩
  obtain ⟨model, outcome, names, -, each⟩ :=
    operations_attached_once json contained valid references
  refine ⟨model, outcome, names, fun channel listed named => ?_⟩
  have filled : channel.name ≠ "" := by
    rw [named]
    decide
  have keys : ∀ direction,
      (channel.operations direction).map (fun operation => Scalar.string operation.name) =
        ((operationEntries twoChannels).filter fun entry =>
          decide (BoundTo twoChannels direction channel.name entry.2)).map (·.1) := by
    intro direction
    rw [← List.forall₂_eq_eq_eq, List.forall₂_map_left_iff, List.forall₂_map_right_iff]
    exact (each channel listed filled direction).1.imp fun _ _ presents => presents.key.symm
  rw [named] at keys
  constructor
  · rw [keys]
    decide +kernel
  · have none_ : ((operationEntries twoChannels).filter fun entry =>
        decide (BoundTo twoChannels .receive "orders" entry.2)).map (·.1) = [] := by
      decide +kernel
    exact List.map_eq_nil_iff.mp ((keys .receive).trans none_)

end Extraction

end AsyncTypes

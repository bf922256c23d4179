import AsyncTypes.Proofs.Pointer.RoundTrip

/-!
# Warnings about channels and attached operations

The validation warns of an operation when the pointer to its channel leads nowhere in the whole
document.  The extraction attaches an operation to the channel that the first step below the
channels names; without such a step that is the channel with the empty key.  So the two agree
but for two kinds of pointers.  One leads to something else than a channel: no warning is given,
and the operation is attached to nothing.  The other one leads nowhere, but below a channel that
there is, or past the channels while one of them has the empty key: there is a warning, and yet
the operation is attached.
-/

namespace AsyncTypes

namespace Validation

variable {document : Value}

/-! ## The warnings of a valid document -/

theorem warnings_checkVersion (version : Value) : (checkVersion version).warnings = [] := by
  unfold checkVersion
  split <;> rfl

theorem warnings_checkSkeleton (document : Value) : (checkSkeleton document).warnings = [] := by
  unfold checkSkeleton
  split <;> rfl

theorem warnings_checkSchema (name : Scalar) (schema : Value) :
    (checkSchema name schema).warnings = [] := by
  unfold checkSchema
  split
  · rfl
  · split
    · rfl
    · split <;> rfl

/-- A valid document is warned of missing channels, of its operations one after another and of
its references to schemas. -/
theorem warnings_of_clean (clean : (checkDocument document).IsClean) :
    (validate document).warnings = (checkChannels document).warnings ++
      (operationEntries document).flatMap (fun entry =>
        (checkOperation document entry.1 entry.2).warnings) ++
      (checkReferences document).warnings := by
  have whole := checkDocument_of_clean clean
  have clear := Check.breakdown_all_eq_none_iff.mp (whole ▸ clean.2)
  have schemas : (schemaSteps (schemaEntries document)).flatMap (·.warnings) = [] := by
    rw [List.flatMap_eq_nil_iff, schemaSteps, List.forall_mem_map]
    exact fun entry _ => warnings_checkSchema entry.1 entry.2
  rw [validate, Verdict.warnings_ofCheck, whole, Check.warnings_all clear, steps,
    List.flatMap_append, List.flatMap_append, List.flatMap_append, schemas, List.append_nil,
    firstSteps, List.flatMap_cons, List.flatMap_cons, List.flatMap_singleton,
    warnings_checkVersion, warnings_checkSkeleton, operationSteps, List.flatMap_map,
    List.flatMap_singleton, List.nil_append, List.nil_append]

/-! ## Operations of a valid document -/

/-- The warning of an operation whose channel is not found. -/
def channelWarning (name : Scalar) (pointer : String) : String :=
  s!"Operation '{name.shown}' references undefined channel: {channelText pointer}"

/-- The check of the operation warns that its channel is not found. -/
def WarnsOfChannel (document : Value) (entry : Scalar × Value) : Prop :=
  ∃ pointer, (entry.2.field "channel").reference? = some pointer ∧
    channelWarning entry.1 pointer ∈ (checkOperation document entry.1 entry.2).warnings

/-- The operations of a document without findings are without findings. -/
theorem operation_eq_nil {entry : Scalar × Value} (nothing : Skeleton.findings document = [])
    (listed : entry ∈ operationEntries document) :
    checkAll (fun _ => []) Skeleton.operation entry.2 = [] :=
  values_eq_nil_of_mem nothing (.tail _ (.tail _ (.head _)))
    (.tail _ (.tail _ (.tail _ (.head _)))) (.tail _ (.head _)) entry listed

/-- A part without findings that is one of some words is a text. -/
theorem exists_word_of_check {words : List String} {value : Value}
    (nothing : (Rule.oneOf words).check (fun _ => []) value = []) :
    ∃ word ∈ words, value = .string word := by
  rw [Rule.check] at nothing
  split at nothing
  · next some =>
      obtain ⟨word, listed, same⟩ := List.any_eq_true.mp some
      refine ⟨word, listed, ?_⟩
      rw [beq_iff_eq] at same
      match value with
      | .scalar (.string text) => exact congrArg Value.string (Option.some.inj same)
  · exact nomatch nothing

/-- A field that is a text is there. -/
theorem get?_of_field {value : Value} {name text : String}
    (same : value.field name = .string text) : value.get? name = some (.string text) := by
  unfold Value.field at same
  cases found : value.get? name with
  | none =>
      rw [found] at same
      exact nomatch same
  | some part =>
      rw [found, Option.getD_some] at same
      rw [same]

/-- The direction of an operation without findings is known. -/
theorem exists_direction {operation : Value}
    (nothing : checkAll (fun _ => []) Skeleton.operation operation = []) :
    ∃ direction, Direction.ofWord? (Extraction.actionWord operation) = some direction := by
  have rules := required_part_eq_nil nothing (.head _) (.head _)
  obtain ⟨word, listed, same⟩ := exists_word_of_check (check_eq_nil_of_mem rules (.head _))
  have known : ∀ word ∈ ["send", "receive"],
      (Direction.ofWord? (String.ofList (Unicode.lowerText word.toList))).isSome = true := by
    decide
  rw [← Option.isSome_iff_exists, Extraction.actionWord, get?_of_field same]
  exact known word listed

theorem exists_text_of_holds {value : Value} (holds : Kind.string.holds value = true) :
    ∃ text, value = .string text := by
  match value with
  | .scalar (.string text) => exact ⟨text, rfl⟩

/-- A value without findings against the rules of a reference has a pointer. -/
theorem exists_pointer {value : Value}
    (nothing : checkAll (fun _ => []) Skeleton.reference value = []) :
    ∃ pointer, value.reference? = some pointer := by
  have rules := required_part_eq_nil nothing (.head _) (.head _)
  obtain ⟨kind, one, holds⟩ := exists_kind_of_check (check_eq_nil_of_mem rules (.head _))
  rw [List.mem_singleton.mp one] at holds
  obtain ⟨pointer, same⟩ := exists_text_of_holds holds
  exact ⟨pointer, by rw [Value.reference?, get?_of_field same, Option.bind_some, Value.text?]⟩

/-- An operation whose check finds no error names a channel. -/
theorem isNull_channel {name : Scalar} {operation : Value} (mapping : operation.isMap = true)
    (clean : (checkOperation document name operation).IsClean) :
    (operation.field "channel").isNull = false := by
  rw [Bool.eq_false_iff]
  intro absent
  rw [checkOperation, if_neg (by simp [mapping])] at clean
  dsimp only at clean
  rw [if_pos absent] at clean
  exact absurd clean.1 (List.cons_ne_nil _ _)

theorem exists_channel_pointer {name : Scalar} {operation : Value}
    (nothing : checkAll (fun _ => []) Skeleton.operation operation = [])
    (clean : (checkOperation document name operation).IsClean) :
    ∃ pointer, (operation.field "channel").reference? = some pointer := by
  have named := isNull_channel (isMap_of_rules nothing) clean
  unfold Value.field at named ⊢
  cases held : operation.get? "channel" with
  | none =>
      rw [held] at named
      exact nomatch named
  | some channel =>
      exact exists_pointer (part_eq_nil_of_mem nothing (.tail _ (.tail _ (.head _)))
        (.tail _ (.head _)) held)

/-- The walk to the channel of an operation is not refused. -/
theorem lookup_ne_error {name : Scalar} {operation : Value} {pointer : String}
    (mapping : operation.isMap = true)
    (clean : (checkOperation document name operation).IsClean)
    (refers : (operation.field "channel").reference? = some pointer)
    (fault : Pointer.IndexFault) : Pointer.lookup document pointer ≠ .error fault := by
  intro refused
  exact breakdown_checkOperation_eq_none_iff.mp clean.2
    (.channel mapping ⟨pointer, fault, refers, refused⟩)

/-- A warning about a message says nothing about a channel. -/
theorem messageWarning_ne (name : Scalar) (pointer message : String) :
    s!"Operation '{name.shown}' references undefined message: {message}" ≠
      channelWarning name pointer := by
  intro same
  have texts := congrArg String.toList same
  simp [channelWarning, ToString.toString] at texts

theorem mem_warnings_checkPointer_iff {pointer message warning : String} :
    warning ∈ (checkPointer document pointer message).warnings ↔
      warning = message ∧ Pointer.lookup document pointer = .ok none := by
  unfold checkPointer
  split
  · next found => simp [found, Check.clean]
  · next found => simp [found, Check.warning]
  · next found => simp [found, Check.broken]

theorem channelWarning_notMem_checkMessages (name : Scalar) (pointer : String)
    (messages : Value) :
    channelWarning name pointer ∉ (checkMessages document name.shown messages).warnings := by
  intro found
  unfold checkMessages at found
  split at found
  · exact absurd found List.not_mem_nil
  · split at found
    · exact absurd found List.not_mem_nil
    · obtain ⟨check, listed, warned⟩ := Check.exists_of_mem_warnings_all found
      obtain ⟨entry, -, rfl⟩ := List.mem_map.mp listed
      split at warned
      · exact messageWarning_ne name pointer _ (mem_warnings_checkPointer_iff.mp warned).1.symm
      · exact absurd warned List.not_mem_nil

/-- An operation is warned of exactly when the pointer to its channel leads nowhere. -/
theorem warnsOfChannel_iff {entry : Scalar × Value} {pointer : String}
    (mapping : entry.2.isMap = true)
    (clean : (checkOperation document entry.1 entry.2).IsClean)
    (refers : (entry.2.field "channel").reference? = some pointer) :
    WarnsOfChannel document entry ↔ Pointer.lookup document pointer = .ok none := by
  have named := isNull_channel mapping clean
  have walked := lookup_ne_error mapping clean refers
  have checked : checkOperation document entry.1 entry.2 =
      (checkPointer document pointer (channelWarning entry.1 pointer)).andThen
        (checkMessages document entry.1.shown (entry.2.field "messages")) := by
    rw [checkOperation, if_neg (by simp [mapping])]
    dsimp only
    rw [if_neg (by simp [named]), refers]
    rfl
  have warned : channelWarning entry.1 pointer ∈
      (checkOperation document entry.1 entry.2).warnings ↔
        Pointer.lookup document pointer = .ok none := by
    rw [checked, Check.andThen_of_clear (breakdown_checkPointer_eq_none_iff.mpr walked),
      List.mem_append, mem_warnings_checkPointer_iff]
    simp [channelWarning_notMem_checkMessages]
  constructor
  · rintro ⟨other, also, found⟩
    cases refers.symm.trans also
    exact warned.mp found
  · exact fun nowhere => ⟨pointer, refers, warned.mpr nowhere⟩

end Validation

/-! ## Pointers to channels and past them -/

namespace Pointer

/-- A pointer that starts with the root has a key below it. -/
theorem exists_enters_iff {root pointer : String} :
    (∃ key, Enters root key pointer) ↔ Text.startsWith root pointer = true := by
  simp only [← keyBelow?_eq_some_iff, ← Option.isSome_iff_exists]
  rw [keyBelow?, Option.isSome_map, Text.after?, Text.startsWith]
  split <;> simp_all

/-- The pointer goes on after the step below the root that stands for the key. -/
def PassesThrough (root key pointer : String) : Prop :=
  ∃ step further, pointer.toList = root.toList ++ (step ++ '/' :: further) ∧ '/' ∉ step ∧
    stepKey step = key

theorem PassesThrough.enters {root key pointer : String} (passes : PassesThrough root key pointer) :
    Enters root key pointer := by
  obtain ⟨step, further, below, whole, stands⟩ := passes
  exact ⟨step, '/' :: further, below, whole, Or.inr ⟨further, rfl⟩, stands⟩

/-- The keys of a pointer below the channels start with the key of a channel, and there are
further ones when the pointer goes on. -/
theorem exists_keys?_of_enters {key pointer : String}
    (enters : Enters channelRoot key pointer) :
    ∃ later, keys? pointer = some ("channels" :: key :: later) ∧
      (later = [] ∨ PassesThrough channelRoot key pointer) := by
  obtain ⟨step, rest, below, whole, ends, rfl⟩ := enters
  have after : Text.after? "#/".toList pointer.toList =
      some ("channels".toList ++ '/' :: (step ++ rest)) :=
    Text.after?_eq_some_iff.mpr below
  rw [keys?, after, Option.map_some, Text.split_append_cons (by decide)]
  rcases ends with rfl | ⟨further, rfl⟩
  · rw [List.append_nil, Text.split_of_notMem whole]
    exact ⟨[], rfl, Or.inl rfl⟩
  · rw [Text.split_append_cons whole]
    exact ⟨_, rfl, Or.inr ⟨step, further, below, whole, rfl⟩⟩

end Pointer

namespace Extraction

open Validation (channelEntries operationEntries Shaped WarnsOfChannel validate)

variable {document : Value} {references : References}

/-! ## Attached operations -/

/-- Some channel of the model has the operation. -/
def Attached (model : Document) (entry : Scalar × Value) : Prop :=
  ∃ channel ∈ model.channels, ∃ direction, ∃ operation ∈ channel.operations direction,
    entry.1 = .string operation.name

/-- The document has a channel with the key. -/
def HasChannel (document : Value) (key : String) : Prop :=
  ∃ entry ∈ channelEntries document, entry.1 = .string key

instance (document : Value) (key : String) : Decidable (HasChannel document key) :=
  inferInstanceAs (Decidable (∃ entry ∈ channelEntries document, entry.1 = .string key))

theorem hasChannel_iff (json : document.isJson = true) (key : String) :
    HasChannel document key ↔ key ∈ (channelEntries document).map fun entry => entry.1.shown := by
  have texts := (Value.keys_of_isJson (Value.isJson_field json "channels")).2
  rw [List.mem_map]
  constructor
  · rintro ⟨entry, listed, same⟩
    exact ⟨entry, listed, by rw [same, Scalar.shown_string]⟩
  · rintro ⟨entry, listed, rfl⟩
    exact ⟨entry, listed, texts entry listed⟩

/-- The channels of a model have the operations that are read and that point at one of them. -/
theorem mem_operations_channels_iff (references : References) (json : document.isJson = true)
    (shaped : Shaped document) : ∃ table, ∀ direction operation,
      (∃ channel ∈ (channels document references).value,
          operation ∈ channel.operations direction) ↔
        (∃ entry ∈ operationEntries document,
          (operationOf document table references entry.1.shown entry.2).value =
            some operation) ∧
        operation.action = direction ∧ HasChannel document operation.channel := by
  obtain ⟨found, -, names, empty, attached⟩ := exists_channels references json shaped
  refine ⟨messageTable found, fun direction operation => ?_⟩
  rw [attached, hasChannel_iff json, ← names]
  have each : ∀ channel ∈ found,
      (operation ∈ (((operationEntries document).filterMap fun entry =>
          (operationOf document (messageTable found) references entry.1.shown entry.2).value).foldl
            Channel.attachBound channel).operations direction ↔
        (∃ entry ∈ operationEntries document,
          (operationOf document (messageTable found) references entry.1.shown entry.2).value =
            some operation) ∧ operation.channel = channel.name ∧ operation.action = direction) := by
    intro channel member
    rw [Channel.operations_foldl_attachBound, empty channel member, List.nil_append,
      List.mem_filter, List.mem_filterMap, Bool.and_eq_true, beq_iff_eq, beq_iff_eq]
  constructor
  · rintro ⟨_, listed, kept⟩
    obtain ⟨channel, member, rfl⟩ := List.mem_map.mp listed
    obtain ⟨read, named, action⟩ := (each channel member).mp kept
    exact ⟨read, action, named ▸ List.mem_map_of_mem member⟩
  · rintro ⟨read, action, named⟩
    obtain ⟨channel, member, same⟩ := List.mem_map.mp named
    exact ⟨_, List.mem_map_of_mem member, (each channel member).mpr ⟨read, same.symm, action⟩⟩

/-- An operation that is no reference and whose direction is known is attached exactly when there
is a channel with the name that it points at. -/
theorem attached_iff (json : document.isJson = true) (shaped : Shaped document)
    {identity : Identity} {warnings : List String} {entry : Scalar × Value} {action : Direction}
    (listed : entry ∈ operationEntries document) (inline : entry.2.reference? = none)
    (known : Direction.ofWord? (actionWord entry.2) = some action) :
    Attached (read document references identity warnings).value entry ↔
      HasChannel document (operationChannel (entry.2.field "channel")) := by
  obtain ⟨table, each⟩ := mem_operations_channels_iff references json shaped
  obtain ⟨distinct, texts⟩ := Value.keys_of_isJson (Value.isJson_field json "operations")
  have object : (Pointer.dereference document entry.2).value = entry.2 := by
    rw [Pointer.dereference, inline]
    rfl
  have cases_ := fun other member =>
    operationOf_cases document references table other.1.shown (shaped.operationMaps other member)
  constructor
  · rintro ⟨channel, member, direction, operation, kept, key⟩
    obtain ⟨⟨other, also, converted⟩, -, bound⟩ :=
      (each direction operation).mp ⟨channel, member, kept⟩
    rcases cases_ other also with ⟨-, nothing⟩ | ⟨same, found, -, named, target⟩
    · exact nomatch converted.symm.trans nothing
    · cases converted.symm.trans found
      have equal : other = entry :=
        List.inj_on_of_nodup_map distinct also listed (by rw [texts other also, key, named])
      rw [target, equal, object] at bound
      exact bound
  · intro bound
    rcases cases_ entry listed with ⟨unknown, -⟩ | ⟨operation, found, -, named, target⟩
    · rw [object, known] at unknown
      exact nomatch unknown
    · rw [object] at target
      obtain ⟨channel, member, kept⟩ := (each operation.action operation).mpr
        ⟨⟨entry, listed, found⟩, rfl, target ▸ bound⟩
      have key : entry.1 = .string operation.name := by rw [named, ← texts entry listed]
      exact ⟨channel, member, operation.action, operation, kept, key⟩

/-! ## Channels that are pointed at -/

theorem mem_channelEntries_of_get? {key : String} {channel : Value}
    (held : (document.field "channels").get? key = some channel) :
    (.string key, channel) ∈ channelEntries document := by
  obtain ⟨entries, channels⟩ := Pointer.exists_entries_of_get? held
  rw [channels] at held
  rw [channelEntries, channels]
  exact Entries.mem_of_lookup held

theorem hasChannel_iff_get? (json : document.isJson = true) (key : String) :
    HasChannel document key ↔ ∃ channel, (document.field "channels").get? key = some channel := by
  constructor
  · rintro ⟨⟨_, channel⟩, listed, rfl⟩
    exact ⟨channel, Value.get?_of_mem_entries (Value.isJson_field json "channels") listed⟩
  · rintro ⟨channel, found⟩
    exact ⟨_, mem_channelEntries_of_get? found, rfl⟩

variable {key pointer : String}

/-- A value below the channels is one of a channel. -/
theorem hasChannel_of_lookup (json : document.isJson = true) (mapping : document.isMap = true)
    (shaped : Shaped document) (enters : Pointer.Enters Pointer.channelRoot key pointer)
    {target : Value} (found : Pointer.lookup document pointer = .ok (some target)) :
    HasChannel document key := by
  obtain ⟨later, keys, -⟩ := Pointer.exists_keys?_of_enters enters
  rw [Pointer.lookup, keys] at found
  obtain ⟨channels, held, found⟩ := Pointer.lookupKeys_of_nullOrMap (Or.inr mapping) found
  have same : document.field "channels" = channels := by
    rw [Value.field, held]
    rfl
  obtain ⟨channel, listed, -⟩ := Pointer.lookupKeys_of_nullOrMap (same ▸ shaped.channels) found
  exact (hasChannel_iff_get? json key).mpr ⟨channel, same ▸ listed⟩

/-- A pointer that leads nowhere although its key is one of a channel goes on after the key. -/
theorem passesThrough_of_lookup (json : document.isJson = true) (shaped : Shaped document)
    (enters : Pointer.Enters Pointer.channelRoot key pointer)
    (nowhere : Pointer.lookup document pointer = .ok none) (has : HasChannel document key) :
    Pointer.PassesThrough Pointer.channelRoot key pointer := by
  obtain ⟨later, keys, rfl | passes⟩ := Pointer.exists_keys?_of_enters enters
  · obtain ⟨channel, held⟩ := (hasChannel_iff_get? json key).mp has
    obtain ⟨inDocument, present⟩ := Pointer.get?_of_get?_field held
    have mapping : channel.isMap = true :=
      shaped.channelMaps (.string key, channel) (mem_channelEntries_of_get? held)
    have presentChannel : channel.isNull = false := by
      cases channel with
      | map entries => rfl
      | _ => cases mapping
    rw [Pointer.lookup, keys] at nowhere
    dsimp only at nowhere
    rw [Pointer.lookupKeys_cons_of_get? inDocument present,
      Pointer.lookupKeys_cons_of_get? held presentChannel] at nowhere
    cases nowhere
  · exact passes

/-- The pointer leads to a value that is not below the channels, and no channel has the empty
key. -/
structure LeadsElsewhere (document : Value) (pointer : String) : Prop where
  found : ∃ target, Pointer.lookup document pointer = .ok (some target)
  elsewhere : Text.startsWith Pointer.channelRoot pointer = false
  named : ¬ HasChannel document ""

/-- The pointer leads nowhere, but it goes on after the key of a channel, or it does not lead
below the channels and one of them has the empty key. -/
structure MissesBehindChannel (document : Value) (pointer : String) : Prop where
  nowhere : Pointer.lookup document pointer = .ok none
  behind :
    (∃ key, Pointer.PassesThrough Pointer.channelRoot key pointer ∧ HasChannel document key) ∨
    (Text.startsWith Pointer.channelRoot pointer = false ∧ HasChannel document "")

section

variable {channel : Value} (refers : channel.reference? = some pointer)

include refers

theorem operationChannel_of_enters (enters : Pointer.Enters Pointer.channelRoot key pointer) :
    operationChannel channel = key := by
  rw [operationChannel, refers, Option.bind_some, Pointer.keyBelow?_eq_some_iff.mpr enters]
  rfl

theorem operationChannel_of_elsewhere
    (elsewhere : Text.startsWith Pointer.channelRoot pointer = false) :
    operationChannel channel = "" := by
  rw [operationChannel, refers, Option.bind_some]
  cases below : Pointer.keyBelow? Pointer.channelRoot pointer with
  | none => rfl
  | some key =>
      have starts := Pointer.exists_enters_iff.mp ⟨key, Pointer.keyBelow?_eq_some_iff.mp below⟩
      exact nomatch starts.symm.trans elsewhere

/-- The operation points at something, and yet at no channel, exactly when the pointer leads
elsewhere. -/
theorem leadsElsewhere_iff (json : document.isJson = true) (mapping : document.isMap = true)
    (shaped : Shaped document) :
    (∃ target, Pointer.lookup document pointer = .ok (some target)) ∧
        ¬ HasChannel document (operationChannel channel) ↔
      LeadsElsewhere document pointer := by
  constructor
  · rintro ⟨⟨target, found⟩, missing⟩
    cases starts : Text.startsWith Pointer.channelRoot pointer with
    | true =>
        obtain ⟨key, enters⟩ := Pointer.exists_enters_iff.mpr starts
        rw [operationChannel_of_enters refers enters] at missing
        exact absurd (hasChannel_of_lookup json mapping shaped enters found) missing
    | false =>
        rw [operationChannel_of_elsewhere refers starts] at missing
        exact ⟨⟨target, found⟩, starts, missing⟩
  · rintro ⟨found, elsewhere, missing⟩
    rw [operationChannel_of_elsewhere refers elsewhere]
    exact ⟨found, missing⟩

/-- The operation points at nothing, and yet at a channel, exactly when the pointer misses
something behind a channel. -/
theorem missesBehindChannel_iff (json : document.isJson = true) (shaped : Shaped document) :
    Pointer.lookup document pointer = .ok none ∧
        HasChannel document (operationChannel channel) ↔
      MissesBehindChannel document pointer := by
  constructor
  · rintro ⟨nowhere, has⟩
    cases starts : Text.startsWith Pointer.channelRoot pointer with
    | true =>
        obtain ⟨key, enters⟩ := Pointer.exists_enters_iff.mpr starts
        rw [operationChannel_of_enters refers enters] at has
        have passes := passesThrough_of_lookup json shaped enters nowhere has
        exact ⟨nowhere, Or.inl ⟨key, passes, has⟩⟩
    | false =>
        rw [operationChannel_of_elsewhere refers starts] at has
        exact ⟨nowhere, Or.inr ⟨starts, has⟩⟩
  · rintro ⟨nowhere, ⟨key, passes, has⟩ | ⟨elsewhere, has⟩⟩
    · rw [operationChannel_of_enters refers passes.enters]
      exact ⟨nowhere, has⟩
    · rw [operationChannel_of_elsewhere refers elsewhere]
      exact ⟨nowhere, has⟩

end

/-! ## The two verdicts on an operation -/

/-- The check of an operation of a clean document is clean. -/
theorem isClean_checkOperation {entry : Scalar × Value}
    (clean : (Validation.checkDocument document).IsClean)
    (listed : entry ∈ operationEntries document) :
    (Validation.checkOperation document entry.1 entry.2).IsClean := by
  rw [Validation.checkDocument_of_clean clean] at clean
  apply Validation.Check.isClean_of_mem_all clean
  simp only [Validation.steps, Validation.operationSteps, List.mem_append, List.mem_map]
  exact Or.inl (Or.inl (Or.inr ⟨entry, listed, rfl⟩))

/-- The validation of a valid JSON document and its extraction, with references kept or inlined,
see its operations alike but for two kinds of pointers.  The warnings are those of the channels,
of one operation after another and of the references to schemas; every operation that is not
itself a reference points at its channel.  There is no warning about the channel of such an
operation, and no channel has it, exactly when the pointer leads elsewhere; there is a warning,
and a channel has it, exactly when the pointer misses something behind a channel.  Otherwise
there is a warning exactly when no channel has it. -/
theorem warned_iff_unattached_iff (json : document.isJson = true)
    (contained : (validate document).escape = none) (valid : (validate document).isValid = true)
    (references : References) :
    (validate document).warnings = (Validation.checkChannels document).warnings ++
        (operationEntries document).flatMap (fun entry =>
          (Validation.checkOperation document entry.1 entry.2).warnings) ++
        (Validation.checkReferences document).warnings ∧
      ∃ model, (extract document references).run.value = .ok model ∧
        ∀ entry ∈ operationEntries document, entry.2.reference? = none →
          ∃ pointer, (entry.2.field "channel").reference? = some pointer ∧
            (¬ WarnsOfChannel document entry ∧ ¬ Attached model entry ↔
              LeadsElsewhere document pointer) ∧
            (WarnsOfChannel document entry ∧ Attached model entry ↔
              MissesBehindChannel document pointer) ∧
            ((WarnsOfChannel document entry ↔ ¬ Attached model entry) ↔
              ¬ LeadsElsewhere document pointer ∧ ¬ MissesBehindChannel document pointer) := by
  have clean := Validation.Verdict.clean_of_isValid contained valid
  have nothing := Validation.skeleton_of_clean clean
  have shaped := Validation.shaped_of_skeleton nothing
  have mapping := Validation.isMap_of_rules nothing
  obtain ⟨identity, -, outcome⟩ := extract_of_isValid mapping contained valid
  refine ⟨Validation.warnings_of_clean clean, _, outcome, fun entry listed inline => ?_⟩
  have nothingHere := Validation.operation_eq_nil nothing listed
  have cleanHere := isClean_checkOperation clean listed
  obtain ⟨direction, known⟩ := Validation.exists_direction nothingHere
  obtain ⟨pointer, refers⟩ := Validation.exists_channel_pointer nothingHere cleanHere
  have warned := Validation.warnsOfChannel_iff (shaped.operationMaps entry listed) cleanHere refers
  have attached := @attached_iff document references json shaped identity
    (validate document).warnings entry direction listed inline known
  have quiet : ¬ WarnsOfChannel document entry ↔
      ∃ target, Pointer.lookup document pointer = .ok (some target) := by
    rw [warned]
    have walked :=
      Validation.lookup_ne_error (shaped.operationMaps entry listed) cleanHere refers
    cases reached : Pointer.lookup document pointer with
    | error fault => exact absurd reached (walked fault)
    | ok target? => cases target? <;> simp
  have elsewhere := leadsElsewhere_iff refers json mapping shaped
  have misses := missesBehindChannel_iff refers json shaped
  rw [← attached, ← quiet] at elsewhere
  rw [← attached, ← warned] at misses
  refine ⟨pointer, refers, elsewhere, misses, ?_⟩
  rw [← elsewhere, ← misses]
  by_cases warns : WarnsOfChannel document entry <;> simp [warns]

/-- A document with one channel, one message and an operation whose channel is at a pointer. -/
def submitting (pointer : String) : Value :=
  .record [("asyncapi", .string "3.0.0"),
    ("info", .record [("title", .string "Orders"), ("version", .string "1")]),
    ("channels", .record [("orders", .map [])]),
    ("operations", .record [("submit", pointingAt "send" pointer)]),
    ("components", .record [("messages", .record [("Order", .map [])])])]

/-- The operation of the document. -/
def submission (pointer : String) : Scalar × Value :=
  (.string "submit", pointingAt "send" pointer)

/-- The operation at the channel itself is judged alike; behind the channel there is nothing, of
which the validation warns, and the extraction attaches the operation all the same. -/
theorem submitting_judged :
    (∃ model, (extract (submitting "#/channels/orders") .kept).run.value = .ok model ∧
      (WarnsOfChannel (submitting "#/channels/orders") (submission "#/channels/orders") ↔
        ¬ Attached model (submission "#/channels/orders"))) ∧
    ∃ model, (extract (submitting "#/channels/orders/messages/Order") .kept).run.value =
        .ok model ∧
      WarnsOfChannel (submitting "#/channels/orders/messages/Order")
        (submission "#/channels/orders/messages/Order") ∧
      Attached model (submission "#/channels/orders/messages/Order") := by
  constructor
  · obtain ⟨-, model, outcome, each⟩ :=
      @warned_iff_unattached_iff (submitting "#/channels/orders") (by rfl) (by decide +kernel)
        (by decide +kernel) .kept
    obtain ⟨pointer, refers, -, -, alike⟩ :=
      each (submission "#/channels/orders") (.head _) (by rfl)
    cases refers.symm.trans (show _ = some "#/channels/orders" by rfl)
    refine ⟨model, outcome, alike.mpr ⟨fun leads => ?_, fun misses => ?_⟩⟩
    · exact absurd leads.elsewhere (by decide +kernel)
    · have found : Pointer.lookup (submitting "#/channels/orders") "#/channels/orders" =
          .ok (some (.map [])) := by rfl
      exact nomatch found.symm.trans misses.nowhere
  · obtain ⟨-, model, outcome, each⟩ :=
      @warned_iff_unattached_iff (submitting "#/channels/orders/messages/Order") (by rfl)
        (by decide +kernel) (by decide +kernel) .kept
    obtain ⟨pointer, refers, -, misses, -⟩ :=
      each (submission "#/channels/orders/messages/Order") (.head _) (by rfl)
    cases refers.symm.trans (show _ = some "#/channels/orders/messages/Order" by rfl)
    have passes :
        Pointer.PassesThrough Pointer.channelRoot "orders" "#/channels/orders/messages/Order" :=
      ⟨"orders".toList, "messages/Order".toList, by decide, by decide, by decide⟩
    exact ⟨model, outcome, misses.mpr ⟨by rfl, Or.inl ⟨"orders", passes, by decide +kernel⟩⟩⟩

/-- The operation that points at a message is attached to no channel, and nothing is said about
it: the document is valid and without warnings. -/
theorem submitting_unnoticed :
    (submitting "#/components/messages/Order").isJson = true ∧
      validate (submitting "#/components/messages/Order") = ⟨[], [], none⟩ ∧
      submission "#/components/messages/Order" ∈
        operationEntries (submitting "#/components/messages/Order") ∧
      (submission "#/components/messages/Order").2.reference? = none ∧
      ¬ WarnsOfChannel (submitting "#/components/messages/Order")
        (submission "#/components/messages/Order") ∧
      ∀ references, ∃ model,
        (extract (submitting "#/components/messages/Order") references).run.value = .ok model ∧
          ¬ Attached model (submission "#/components/messages/Order") := by
  have json : (submitting "#/components/messages/Order").isJson = true := by rfl
  have verdict : validate (submitting "#/components/messages/Order") = ⟨[], [], none⟩ := by
    decide +kernel
  have contained : (validate (submitting "#/components/messages/Order")).escape = none := by
    rw [verdict]
  have valid : (validate (submitting "#/components/messages/Order")).isValid = true := by
    rw [verdict]
    rfl
  refine ⟨json, verdict, .head _, by rfl, ?_, fun references => ?_⟩
  · rintro ⟨pointer, -, warned⟩
    have quiet : (Validation.checkOperation (submitting "#/components/messages/Order")
        (submission "#/components/messages/Order").1
        (submission "#/components/messages/Order").2).warnings = [] := by decide +kernel
    rw [quiet] at warned
    exact absurd warned List.not_mem_nil
  · have shaped := Validation.shaped_of_skeleton
      (Validation.skeleton_of_clean (Validation.Verdict.clean_of_isValid contained valid))
    obtain ⟨identity, -, outcome⟩ := @extract_of_isValid
      (submitting "#/components/messages/Order") references rfl contained valid
    have known : Direction.ofWord?
        (actionWord (submission "#/components/messages/Order").2) = some .send := by rfl
    refine ⟨_, outcome, fun attached => ?_⟩
    have has := (attached_iff json shaped (.head _) (by rfl) known).mp attached
    exact absurd has (by decide +kernel)

end Extraction

end AsyncTypes

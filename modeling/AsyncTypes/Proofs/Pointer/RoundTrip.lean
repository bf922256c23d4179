import AsyncTypes.Proofs.Extraction.Unresolved

/-!
# Pointers to component schemas

A key is written as a step by replacing tildes and then slashes, and read back by replacing in
the opposite order; no replacement takes anything that another one has made.  So the pointer to
a component schema leads to it whatever its key is: both walks find its value, and in a
compilation the reference is written by its name or noticed as circular.  A written key is also
the first key below any root.
-/

namespace AsyncTypes

/-! ## Replacements one after another -/

namespace Text

/-- Every occurrence of a character replaced by a text. -/
def replaceChar (old : Char) (new text : List Char) : List Char :=
  text.flatMap fun c => if c = old then new else [c]

/-- Every occurrence of one character before another replaced by a character, from the left. -/
def replacePair (first second new : Char) : List Char → List Char
  | c :: d :: rest =>
      if c = first ∧ d = second then new :: replacePair first second new rest
      else c :: replacePair first second new (d :: rest)
  | [c] => [c]
  | [] => []

section

variable {first second new c d : Char}

theorem replacePair_self (rest : List Char) :
    replacePair first second new (first :: second :: rest) =
      new :: replacePair first second new rest := by
  rw [replacePair, if_pos ⟨rfl, rfl⟩]

theorem replacePair_of_ne_second (other : d ≠ second) (rest : List Char) :
    replacePair first second new (c :: d :: rest) =
      c :: replacePair first second new (d :: rest) := by
  rw [replacePair, if_neg fun both => other both.2]

theorem replacePair_of_ne_first (other : c ≠ first) (rest : List Char) :
    replacePair first second new (c :: rest) = c :: replacePair first second new rest := by
  cases rest with
  | nil => rfl
  | cons d rest => rw [replacePair, if_neg fun both => other both.1]

/-- What stands first after the replacement is the new character or what stood first before. -/
theorem exists_replacePair_cons (first second new c : Char) (rest : List Char) :
    ∃ head later, replacePair first second new (c :: rest) = head :: later ∧
      (head = new ∨ head = c) := by
  cases rest with
  | nil => exact ⟨c, [], rfl, Or.inr rfl⟩
  | cons d rest =>
      rw [replacePair]
      split
      · exact ⟨new, _, rfl, Or.inl rfl⟩
      · exact ⟨c, _, rfl, Or.inr rfl⟩

end

end Text

namespace Pointer

/-- A key is written by replacing every tilde and after that every slash. -/
theorem escape_eq_replaceChar (key : List Char) :
    escape key =
      Text.replaceChar '/' ['~', '1'] (Text.replaceChar '~' ['~', '0'] key) := by
  induction key with
  | nil => rfl
  | cons c rest ih =>
      simp only [Text.replaceChar] at ih ⊢
      by_cases tilde : c = '~'
      · simp [escape, tilde, ih]
      · by_cases slash : c = '/'
        · simp [escape, slash, ih]
        · simp [escape, tilde, slash, ih]

/-- A step is read by replacing every `~1` and after that every `~0`. -/
theorem unescape_eq_replacePair (step : List Char) :
    unescape step =
      Text.replacePair '~' '0' '~' (Text.replacePair '~' '1' '/' step) := by
  fun_induction unescape step with
  | case1 rest ih =>
      rw [Text.replacePair_self, Text.replacePair_of_ne_first (by decide), ih]
  | case2 rest ih =>
      rw [Text.replacePair_of_ne_second (by decide), Text.replacePair_of_ne_first (c := '0')
        (by decide), Text.replacePair_self, ih]
  | case3 c rest noSlash noTilde ih =>
      by_cases tilde : c = '~'
      · subst tilde
        cases rest with
        | nil => rfl
        | cons d rest =>
            have noOne : d ≠ '1' := fun same => noSlash rest rfl (by rw [same])
            have noZero : d ≠ '0' := fun same => noTilde rest rfl (by rw [same])
            rw [Text.replacePair_of_ne_second noOne, ih]
            -- The second replacement meets the tilde before what the first one has left.
            obtain ⟨head, later, replaced, here⟩ :=
              Text.exists_replacePair_cons '~' '1' '/' d rest
            have other : head ≠ '0' := by
              rcases here with rfl | rfl
              · decide
              · exact noZero
            rw [replaced, Text.replacePair_of_ne_second other]
      · rw [Text.replacePair_of_ne_first tilde, Text.replacePair_of_ne_first tilde, ih]
  | case4 => rfl

theorem slash_notMem_escape (key : List Char) : '/' ∉ escape key := by
  induction key with
  | nil => exact List.not_mem_nil
  | cons c rest ih =>
      unfold escape
      split
      · simpa using ih
      · split
        · simpa using ih
        · next other => simpa using ⟨Ne.symm other, ih⟩

/-! ## Steps along mappings -/

variable {value next : Value} {key : String} {rest : List String}

/-- Only a mapping has something under a name. -/
theorem exists_entries_of_get? (held : value.get? key = some next) :
    ∃ entries, value = .map entries := by
  cases value with
  | map entries => exact ⟨entries, rfl⟩
  | _ => cases held

theorem lookupKeys_cons_of_get? (held : value.get? key = some next)
    (present : next.isNull = false) :
    lookupKeys value (key :: rest) = lookupKeys next rest := by
  obtain ⟨entries, rfl⟩ := exists_entries_of_get? held
  have stepped : lookupStep (.map entries) key = .ok (some next) := congrArg Except.ok held
  rw [lookupKeys_of_ok stepped, Option.bind_some, present?, present]
  rfl

theorem follow?_cons_of_get? (held : value.get? key = some next) (present : next.isNull = false) :
    follow? value (key :: rest) = follow? next rest := by
  obtain ⟨entries, rfl⟩ := exists_entries_of_get? held
  have stepped : step? (.map entries) key = some next := held
  rw [follow?, stepped, Option.bind_some, present?, present]
  rfl

/-- A name that holds something in a field is held by a field that is there. -/
theorem get?_of_get?_field {name : String} (held : (value.field name).get? key = some next) :
    value.get? name = some (value.field name) ∧ (value.field name).isNull = false := by
  unfold Value.field at held ⊢
  cases found : value.get? name with
  | none =>
      rw [found] at held
      exact nomatch held
  | some inner =>
      rw [found, Option.getD_some] at held
      obtain ⟨entries, rfl⟩ := exists_entries_of_get? held
      exact ⟨rfl, rfl⟩

/-! ## Pointers to component schemas -/

/-- The pointer to the component schema under a key. -/
def toSchema (key : String) : String :=
  schemaRoot ++ String.ofList
    (Text.replaceChar '/' ['~', '1'] (Text.replaceChar '~' ['~', '0'] key.toList))

theorem toList_toSchema (key : String) :
    (toSchema key).toList = schemaRoot.toList ++ escape key.toList := by
  rw [toSchema, ← escape_eq_replaceChar, String.toList_append, String.toList_ofList]

theorem stepKey_escape (key : String) : stepKey (escape key.toList) = key := by
  rw [stepKey, unescape_escape, String.ofList_toList]

theorem keys?_toSchema (key : String) :
    keys? (toSchema key) = some ["components", "schemas", key] := by
  rw [keys?_of_schemaRoot (toList_toSchema key) (slash_notMem_escape _), stepKey_escape]

/-- A written key is the first key below a root, also when further steps follow. -/
theorem keyBelow?_escape (root key : String) {rest : List Char}
    (further : ∀ c ∈ rest.head?, c = '/') :
    keyBelow? root (root ++ String.ofList (escape key.toList ++ rest)) = some key := by
  have after : Text.after? root.toList
      (root ++ String.ofList (escape key.toList ++ rest)).toList =
      some (escape key.toList ++ rest) :=
    Text.after?_eq_some_iff.mpr (by rw [String.toList_append, String.toList_ofList])
  have first : (escape key.toList ++ rest).takeWhile (· != '/') = escape key.toList := by
    have plain : ∀ c ∈ escape key.toList, (c != '/') = true := by
      intro c listed
      rw [bne_iff_ne]
      rintro rfl
      exact slash_notMem_escape _ listed
    rw [List.takeWhile_append_of_pos plain]
    cases rest with
    | nil => simp
    | cons c rest => simp [further c rfl]
  rw [keyBelow?, after, Option.map_some, first, stepKey_escape]

end Pointer

/-! ## How the reference is written -/

namespace TypeScript

/-- In every state of a compilation the reference is written by the name, after the component
under the key has been declared; while that component is active it is not declared again, and
outside an interface the reference is cut as a circular one. -/
def WrittenAs (task : Task) (pointer key name : String) : Prop :=
  ∀ (ensure : String → Compile Unit) (inRecord : Bool) (state : Compilation),
    (resolveReference task ensure pointer inRecord).run state =
      if state.active.contains key then
        if inRecord then (.named name, state)
        else (.fallback, { state with
          notices := state.notices ++
            [.circularReference (state.active.headD "") key task.fallback] })
      else (.named name, ((ensure key).run state).2)

theorem writtenAs_of_named {task : Task} {pointer key name : String}
    (below : schemaKey? pointer = some key) (named : task.schemaName? key = some name) :
    WrittenAs task pointer key name := by
  intro ensure inRecord state
  simp only [resolveReference, below, named, StateT.run_bind, StateT.run_get, pure_bind]
  split
  · cases inRecord <;> rfl
  · rfl

/-- The key of every component schema of a document has a name. -/
theorem exists_schemaName?_of_mem {document : Document} {key : String}
    (listed : key ∈ document.schemas.map (·.1)) (options : Options) :
    ∃ name, (Task.ofDocument document options).schemaName? key = some name := by
  have keys : (Task.ofDocument document options).schemaNames.map (·.1) =
      document.schemas.map (·.1) := keys_nameKeys [] _
  rw [← keys] at listed
  obtain ⟨entry, member, rfl⟩ := List.mem_map.mp listed
  rw [← Option.isSome_iff_exists, Task.schemaName?, Option.isSome_map, List.find?_isSome]
  exact ⟨entry, member, beq_self_eq_true entry.1⟩

theorem schemaKey?_toSchema (key : String) : schemaKey? (Pointer.toSchema key) = some key := by
  have after : Text.after? Pointer.schemaRoot.toList (Pointer.toSchema key).toList =
      some (Pointer.escape key.toList) :=
    Text.after?_eq_some_iff.mpr (Pointer.toList_toSchema key)
  rw [schemaKey?, after, Option.map_some, Pointer.stepKey_escape]

/-- The pointer to a component schema of a document is written by the name of the schema. -/
theorem writtenAs_toSchema {document : Document} {key : String}
    (listed : key ∈ document.schemas.map (·.1)) (options : Options) :
    ∃ name, (Task.ofDocument document options).schemaName? key = some name ∧
      WrittenAs (Task.ofDocument document options) (Pointer.toSchema key) key name := by
  obtain ⟨name, named⟩ := exists_schemaName?_of_mem listed options
  exact ⟨name, named, writtenAs_of_named (schemaKey?_toSchema key) named⟩

end TypeScript

/-! ## Components that are read -/

namespace SchemaNode

theorem mem_keys_insertProperty_iff {name other : String} {node : SchemaNode}
    {properties : List (String × SchemaNode)} :
    other ∈ (insertProperty name node properties).map (·.1) ↔
      other = name ∨ other ∈ properties.map (·.1) := by
  induction properties with
  | nil => simp [insertProperty]
  | cons property rest ih =>
      rw [insertProperty]
      split
      · next same =>
          have equal : property.1 = name := beq_iff_eq.mp same
          simp [equal]
      · rw [List.map_cons, List.mem_cons, ih, List.map_cons, List.mem_cons]
        exact or_left_comm

theorem mem_keys_propertiesOf_iff {pairs : List (String × SchemaNode)} {name : String} :
    name ∈ (propertiesOf pairs).map (·.1) ↔ name ∈ pairs.map (·.1) := by
  have gathered : ∀ rest properties : List (String × SchemaNode),
      name ∈ (rest.foldl (fun properties pair => insertProperty pair.1 pair.2 properties)
        properties).map (·.1) ↔ name ∈ properties.map (·.1) ∨ name ∈ rest.map (·.1) := by
    intro rest
    induction rest with
    | nil => simp
    | cons pair rest ih =>
        intro properties
        rw [List.foldl_cons, ih, mem_keys_insertProperty_iff, List.map_cons, List.mem_cons]
        tauto
  rw [propertiesOf, gathered]
  simp

end SchemaNode

namespace Extraction

open Validation (schemaEntries Shaped validate)

variable {document : Value} {references : References}

/-- A document that is read is valid, and the model is what is read of it. -/
theorem exists_read_of_extract (mapping : document.isMap = true) {model : Document}
    (outcome : (extract document references).run.value = .ok model) :
    (validate document).escape = none ∧ (validate document).isValid = true ∧
      ∃ identity,
        model = (read document references identity (validate document).warnings).value := by
  cases escapes : (validate document).escape with
  | some message =>
      rw [extract_of_escape mapping escapes] at outcome
      exact nomatch outcome
  | none =>
      cases valid : (validate document).isValid with
      | false =>
          rw [extract_of_not_isValid mapping escapes valid] at outcome
          exact nomatch outcome
      | true =>
          obtain ⟨identity, -, read⟩ := extract_of_isValid mapping escapes valid
          rw [read] at outcome
          exact ⟨rfl, rfl, identity, (Except.ok.inj outcome).symm⟩

/-- The component schemas that are read have the keys of those of the document. -/
theorem mem_keys_schemas_iff (shaped : Shaped document) (references : References) (key : String) :
    key ∈ (schemas document references).value.map (·.1) ↔
      key ∈ (schemaEntries document).map fun entry => entry.1.shown := by
  rw [schemas_eq_propertiesOf references shaped, SchemaNode.mem_keys_propertiesOf_iff, List.map_map]
  rfl

/-- The component schema under a key of a document is read under the key. -/
theorem mem_keys_of_extract {model : Document} {key : String} {schema : Value}
    (held : ((document.field "components").field "schemas").get? key = some schema)
    (outcome : (extract document references).run.value = .ok model) :
    key ∈ model.schemas.map (·.1) := by
  have inComponents := (Pointer.get?_of_get?_field held).1
  have mapping : document.isMap = true := by
    obtain ⟨entries, rfl⟩ :=
      Pointer.exists_entries_of_get? (Pointer.get?_of_get?_field inComponents).1
    rfl
  obtain ⟨contained, valid, identity, rfl⟩ := exists_read_of_extract mapping outcome
  have shaped := Validation.shaped_of_skeleton
    (Validation.skeleton_of_clean (Validation.Verdict.clean_of_isValid contained valid))
  apply (mem_keys_schemas_iff shaped references key).mpr
  rw [schemaEntries]
  obtain ⟨entries, schemas⟩ := Pointer.exists_entries_of_get? held
  rw [schemas] at held ⊢
  exact List.mem_map.mpr ⟨_, Entries.mem_of_lookup held, Scalar.shown_string key⟩

open TypeScript (Task WrittenAs)

/-- The pointer to a component schema whose value is not null leads to it, whatever its key is:
both walks find the value, and for every model that is read of the document and all options
the reference is written by the name of the schema or cut as a circular one.  So it is for the
component schemas of every model.  The key that is written into the pointer is also the first
key below every root, with nothing or with further steps after it.  For a step is read by
replacing every `~1` and after that every `~0`, and this takes back what the writing did. -/
theorem toSchema_leads (key : String) :
    (∀ (document schema : Value),
      ((document.field "components").field "schemas").get? key = some schema →
      schema.isNull = false →
        Pointer.lookup document (Pointer.toSchema key) = .ok (some schema) ∧
        Pointer.walk? document (Pointer.toSchema key) = some schema ∧
        ∀ references model, (extract document references).run.value = .ok model → ∀ options,
          ∃ name, (Task.ofDocument model options).schemaName? key = some name ∧
            WrittenAs (Task.ofDocument model options) (Pointer.toSchema key) key name) ∧
    (∀ (model : Document), key ∈ model.schemas.map (·.1) → ∀ options,
      ∃ name, (Task.ofDocument model options).schemaName? key = some name ∧
        WrittenAs (Task.ofDocument model options) (Pointer.toSchema key) key name) ∧
    (∀ root rest : String, (∀ c ∈ rest.toList.head?, c = '/') →
      Pointer.keyBelow? root (root ++ String.ofList (Text.replaceChar '/' ['~', '1']
        (Text.replaceChar '~' ['~', '0'] key.toList)) ++ rest) = some key) ∧
    ∀ step, Pointer.stepKey step =
      String.ofList (Text.replacePair '~' '0' '~' (Text.replacePair '~' '1' '/' step)) := by
  refine ⟨?_, fun model listed options => TypeScript.writtenAs_toSchema listed options, ?_,
    fun step => congrArg String.ofList (Pointer.unescape_eq_replacePair step)⟩
  · intro document schema held present
    obtain ⟨inComponents, schemasPresent⟩ := Pointer.get?_of_get?_field held
    obtain ⟨inDocument, componentsPresent⟩ := Pointer.get?_of_get?_field inComponents
    refine ⟨?_, ?_, fun references model outcome options =>
      TypeScript.writtenAs_toSchema (mem_keys_of_extract held outcome) options⟩
    · rw [Pointer.lookup, Pointer.keys?_toSchema]
      dsimp only
      rw [Pointer.lookupKeys_cons_of_get? inDocument componentsPresent,
        Pointer.lookupKeys_cons_of_get? inComponents schemasPresent,
        Pointer.lookupKeys_cons_of_get? held present]
      rfl
    · rw [Pointer.walk?, Pointer.keys?_toSchema, Option.bind_some,
        Pointer.follow?_cons_of_get? inDocument componentsPresent,
        Pointer.follow?_cons_of_get? inComponents schemasPresent,
        Pointer.follow?_cons_of_get? held present]
      rfl
  · intro root rest further
    have joined : root ++ String.ofList (Text.replaceChar '/' ['~', '1']
        (Text.replaceChar '~' ['~', '0'] key.toList)) ++ rest =
        root ++ String.ofList (Pointer.escape key.toList ++ rest.toList) := by
      rw [← Pointer.escape_eq_replaceChar, String.ofList_append, String.ofList_toList,
        String.append_assoc]
    rw [joined]
    exact Pointer.keyBelow?_escape root key further

/-- A document with a component schema under one key. -/
def withKey (key : String) : Value :=
  .record [("asyncapi", .string "3.0.0"),
    ("info", .record [("title", .string "Keys"), ("version", .string "1")]),
    ("channels", .map []),
    ("components", .record [("schemas", .record [(key, .record [("type", .string "string")])])])]

/-- A key with an escaped slash in it, a slash and a tilde before a digit. -/
theorem toSchema_leads_mixed :
    Pointer.toSchema "~1/a~0" = "#/components/schemas/~01~1a~00" ∧
      Pointer.lookup (withKey "~1/a~0") "#/components/schemas/~01~1a~00" =
        .ok (some (.record [("type", .string "string")])) ∧
      (∃ model, (extract (withKey "~1/a~0") .kept).run.value = .ok model ∧
        ∃ name, (Task.ofDocument model .default).schemaName? "~1/a~0" = some name ∧
          WrittenAs (Task.ofDocument model .default) "#/components/schemas/~01~1a~00" "~1/a~0"
            name) ∧
      Pointer.keyBelow? "#/x~/" ("#/x~/" ++ "~01~1a~00" ++ "/b") = some "~1/a~0" := by
  have spelled : Pointer.toSchema "~1/a~0" = "#/components/schemas/~01~1a~00" := by decide
  have valid : validate (withKey "~1/a~0") = ⟨[], [], none⟩ := by decide +kernel
  obtain ⟨identity, -, outcome⟩ := @extract_of_isValid (withKey "~1/a~0") .kept rfl
    (by rw [valid]) (by rw [valid]; rfl)
  obtain ⟨leads, -, below, -⟩ := toSchema_leads "~1/a~0"
  obtain ⟨found, -, written⟩ := leads (withKey "~1/a~0") _ rfl rfl
  rw [spelled] at found written
  exact ⟨spelled, found, ⟨_, outcome, written _ _ outcome .default⟩,
    below "#/x~/" "/b" fun _ first => (Option.some.inj first).symm⟩

end Extraction

end AsyncTypes

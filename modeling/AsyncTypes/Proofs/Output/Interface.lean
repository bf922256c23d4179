import AsyncTypes.Proofs.Compilation.Fidelity
import AsyncTypes.Proofs.Compilation.Invariant
import AsyncTypes.Proofs.Output.CommentText
import AsyncTypes.Proofs.Output.PropertyKey

/-!
# Reading interfaces

A reader of an interface goes through the text after its opening brace.  It passes over blanks,
line ends and comments; it reads the key of each member, a bare identifier or a literal in
quotes, and then whether the member is optional; and it passes over the type, up to the end of
its line.  What it reads are the properties of the record in their order and then its index
signature, except that a bare key is read without a line feed that it ends in.
-/

namespace AsyncTypes

/-- Further properties are allowed. -/
def Additional.isOpen {Node : Type} : Additional Node → Bool
  | .absent => false
  | .allowed flag => flag
  | .schema _ => true

namespace TypeScript

/-! ## Reading the members of an interface -/

/-- A member of an interface: a property or an index signature. -/
inductive Member
  | property (key : String) (optional : Bool)
  | index
deriving DecidableEq

/-- Where a reader is: before a member, after a slash there, in a comment, in a key in quotes or
after a backslash there, in or after a key, or in a type.  In a comment it holds the character
before, and of a key the characters so far, most recent first. -/
inductive Spot
  | start
  | slash
  | comment (before : Char)
  | quoted (read : List Char)
  | escaped (read : List Char)
  | key (read : List Char) (bare optional : Bool)
  | type

/-- How an index signature goes on after its opening bracket. -/
def indexOpening : List Char :=
  "key: string]:".toList

/-- The members that are read from a spot on, up to the brace that closes the interface. -/
@[simp] def membersFrom : Spot → List Char → Option (List Member)
  | _, [] => none
  | .start, c :: rest =>
      if c = '\x7d' ∧ rest = [] then some []
      else if c = ' ' ∨ c = '\n' then membersFrom .start rest
      else if c = '/' then membersFrom .slash rest
      else if c = '[' ∧ indexOpening.isPrefixOf rest then
        (membersFrom .type rest).map (.index :: ·)
      else if c = '\'' then membersFrom (.quoted []) rest
      else if startsIdentifier c then membersFrom (.key [c] true false) rest
      else none
  -- The star that opens a comment does not close it, so the comment starts after the slash.
  | .slash, c :: rest => if c = '*' then membersFrom (.comment '/') rest else none
  | .comment before, c :: rest =>
      if before = '*' ∧ c = '/' then membersFrom .start rest else membersFrom (.comment c) rest
  | .quoted read, c :: rest =>
      if c = '\'' then membersFrom (.key read false false) rest
      else if c = '\\' then membersFrom (.escaped read) rest
      else if isLineEnd c then none
      else membersFrom (.quoted (c :: read)) rest
  | .escaped read, c :: rest =>
      if isLineEnd c then none else membersFrom (.quoted (unescaped c :: read)) rest
  | .key read bare optional, c :: rest =>
      if bare && continuesIdentifier c then membersFrom (.key (c :: read) true optional) rest
      else if c = ' ' ∨ c = '\n' then membersFrom (.key read false optional) rest
      else if c = '?' ∧ optional = false then membersFrom (.key read false true) rest
      else if c = ':' then
        (membersFrom .type rest).map (.property (String.ofList read.reverse) optional :: ·)
      else none
  | .type, c :: rest => if c = '\n' then membersFrom .start rest else membersFrom .type rest

/-- The members of an interface, given the text after its opening brace. -/
def members (body : String) : Option (List Member) :=
  membersFrom .start body.toList

/-- On its own line, the text is read as the members. -/
def ReadsAs (line : String) (found : List Member) : Prop :=
  ∀ rest, membersFrom .start (line.toList ++ '\n' :: rest) =
    (membersFrom .start rest).map (found ++ ·)

/-- The text stands on one line. -/
def OnOneLine (text : String) : Prop :=
  ∀ c ∈ text.toList, isLineEnd c = false

/-! ## The lines of an interface -/

theorem membersFrom_blank (rest : List Char) :
    membersFrom .start (' ' :: rest) = membersFrom .start rest := by
  simp

theorem membersFrom_lineFeed (rest : List Char) :
    membersFrom .start ('\n' :: rest) = membersFrom .start rest := by
  simp

/-- A comment is passed over. -/
theorem readsAs_comment (text : String) : ReadsAs ("  /** " ++ commentText text ++ " */") [] := by
  have passed : ∀ (body rest : List Char) (before : Char), (before :: body).IsChain Apart →
      membersFrom (.comment before) (body ++ '*' :: '/' :: rest) = membersFrom .start rest := by
    intro body rest before apart
    induction body generalizing before with
    | nil => simp
    | cons c body ih =>
        rw [List.isChain_cons_cons] at apart
        rw [List.cons_append, membersFrom, if_neg apart.1, ih c apart.2]
  have frame : IsFrame ("* " ++ commentText text ++ " ") :=
    IsFrame.around (by decide) (unbroken_commentText text) (by decide)
  have opened : ('/' :: ("* " ++ commentText text ++ " ").toList).IsChain Apart :=
    List.isChain_cons.mpr ⟨fun d _ => apart_of_ne_star (by decide) d, frame.1⟩
  intro rest
  have spelled : ("  /** " ++ commentText text ++ " */").toList ++ '\n' :: rest =
      ' ' :: ' ' :: '/' :: '*' :: (("* " ++ commentText text ++ " ").toList ++
        '*' :: '/' :: '\n' :: rest) := by
    simp
  have opening : ∀ more, membersFrom .start ('/' :: '*' :: more) =
      membersFrom (.comment '/') more := by
    simp
  rw [spelled, membersFrom_blank, membersFrom_blank, opening, passed _ _ _ opened,
    membersFrom_lineFeed]
  exact Option.map_id'.symm

/-- In a type, what stands on one line is passed over. -/
theorem membersFrom_type {text : List Char} (online : ∀ c ∈ text, isLineEnd c = false)
    (rest : List Char) : membersFrom .type (text ++ rest) = membersFrom .type rest := by
  induction text with
  | nil => rfl
  | cons c text ih =>
      rw [List.forall_mem_cons] at online
      have other : c ≠ '\n' := by
        rintro rfl
        exact absurd online.1 (by decide)
      rw [List.cons_append, membersFrom, if_neg other, ih online.2]

/-- The type of a member is passed over, up to the end of its line. -/
theorem membersFrom_typed {type : String} (online : OnOneLine type) (rest : List Char) :
    membersFrom .type (type.toList ++ ';' :: '\n' :: rest) = membersFrom .start rest := by
  rw [membersFrom_type online]
  simp

theorem membersFrom_bare (read : List Char) {name : List Char}
    (continues : ∀ c ∈ name, continuesIdentifier c = true) (rest : List Char) :
    membersFrom (.key read true false) (name ++ rest) =
      membersFrom (.key (name.reverse ++ read) true false) rest := by
  induction name generalizing read with
  | nil => rfl
  | cons c name ih =>
      rw [List.forall_mem_cons] at continues
      rw [List.cons_append, membersFrom, continues.1, Bool.and_true, if_pos rfl, ih _ continues.2,
        List.reverse_cons, List.append_assoc]
      rfl

/-- An identifier in front of a member is the start of a bare key. -/
theorem membersFrom_identifier {name : List Char} (identifier : isIdentifier name = true)
    (rest : List Char) :
    membersFrom .start (name ++ rest) = membersFrom (.key name.reverse true false) rest := by
  cases name with
  | nil => exact absurd identifier (by decide)
  | cons c name =>
      obtain ⟨starts, continues⟩ := isIdentifier_cons.mp identifier
      have other : ∀ d ∈ ['/', '\x7d', ' ', '\n', '[', '\''], c ≠ d := by
        rintro d listed rfl
        have none : ['/', '\x7d', ' ', '\n', '[', '\''].any startsIdentifier = false := by
          decide
        exact List.any_eq_false.mp none c listed starts
      simp only [List.forall_mem_cons] at other
      obtain ⟨slash, brace, blank, feed, bracket, quote, -⟩ := other
      have bare := membersFrom_bare [c] continues rest
      simp [slash, brace, blank, feed, bracket, quote, starts, bare]

theorem membersFrom_quoted (read content rest : List Char) :
    membersFrom (.quoted read) (content.flatMap escapeCharacter ++ '\'' :: rest) =
      membersFrom (.key (content.reverse ++ read) false false) rest :=
  read_escaped (fun read => membersFrom (.quoted read)) (fun read => membersFrom (.escaped read))
    (fun read => membersFrom (.key read false false))
    (by simp) (by simp) (by simp +contextual) (by simp +contextual) read content rest

/-- Whatever a key is, it is read as the key without a line feed after a bare one. -/
theorem membersFrom_propertyKey (key : String) :
    ∃ bare, ∀ rest, membersFrom .start ((propertyKey key).toList ++ rest) =
      membersFrom (.key (readKey key).toList.reverse bare false) rest := by
  by_cases bare : isBareKey key = true
  · rw [propertyKey, if_pos bare]
    rcases isBareKey_cases bare with identifier | ⟨name, identifier, spelled⟩
    · have same : (readKey key).toList = key.toList := by
        rw [readKey, if_pos bare, dropFinalNewline_of_isIdentifier identifier,
          String.toList_ofList]
      exact ⟨true, fun rest => by rw [same, membersFrom_identifier identifier]⟩
    · refine ⟨false, fun rest => ?_⟩
      rw [spelled, List.append_assoc, membersFrom_identifier identifier,
        (readKey_of_spelled identifier spelled).2, String.toList_ofList]
      have feed : continuesIdentifier '\n' = false := by decide
      simp [feed]
  · refine ⟨false, fun rest => ?_⟩
    rw [propertyKey, if_neg bare, readKey, if_neg bare, stringLiteral, String.toList_ofList,
      List.append_assoc, List.cons_append]
    have quoted := membersFrom_quoted [] key.toList rest
    rw [List.append_nil] at quoted
    simpa using quoted

/-- The line of a property is read as the property. -/
theorem readsAs_property (key : String) (optional : Bool) {type : String}
    (online : OnOneLine type) :
    ReadsAs ("  " ++ propertyKey key ++ (if optional then "?" else "") ++ ": " ++ type ++ ";")
      [.property (readKey key) optional] := by
  intro rest
  obtain ⟨bare, keyRead⟩ := membersFrom_propertyKey key
  have spelled : ("  " ++ propertyKey key ++ (if optional then "?" else "") ++ ": " ++ type ++
      ";").toList ++ '\n' :: rest = ' ' :: ' ' :: ((propertyKey key).toList ++
        ((if optional then "?" else "").toList ++
          ':' :: ' ' :: (type.toList ++ ';' :: '\n' :: rest))) := by
    simp
  rw [spelled, membersFrom_blank, membersFrom_blank, keyRead]
  have question : continuesIdentifier '?' = false := by decide
  have colon : continuesIdentifier ':' = false := by decide
  cases optional with
  | true => simp [question, colon, membersFrom_typed online]
  | false => simp [colon, membersFrom_typed online]

theorem membersFrom_index (rest : List Char) :
    membersFrom .start ('[' :: (indexOpening ++ rest)) =
      (membersFrom .type rest).map (.index :: ·) := by
  have opens : indexOpening.isPrefixOf (indexOpening ++ rest) = true :=
    List.isPrefixOf_iff_prefix.mpr (List.prefix_append _ _)
  have online : indexOpening.any isLineEnd = false := by decide
  have passed : membersFrom .type (indexOpening ++ rest) = membersFrom .type rest :=
    membersFrom_type (fun c listed => by simpa using List.any_eq_false.mp online c listed) rest
  rw [membersFrom, if_neg (by simp), if_neg (by decide), if_neg (by decide),
    if_pos ⟨rfl, opens⟩, passed]

/-- The line of an index signature is read as one. -/
theorem readsAs_index {type : String} (online : OnOneLine type) :
    ReadsAs ("  [key: string]: " ++ type ++ ";") [.index] := by
  intro rest
  have spelled : ("  [key: string]: " ++ type ++ ";").toList ++ '\n' :: rest =
      ' ' :: ' ' :: '[' :: (indexOpening ++ ' ' :: (type.toList ++ ';' :: '\n' :: rest)) := by
    have opening : "  [key: string]: ".toList = ' ' :: ' ' :: '[' :: (indexOpening ++ [' ']) := rfl
    rw [String.toList_append, String.toList_append, opening]
    simp
  rw [spelled, membersFrom_blank, membersFrom_blank, membersFrom_index, membersFrom,
    if_neg (by decide), membersFrom_typed online]
  rfl

/-- Some lines, each with its end, are read one after another. -/
theorem membersFrom_lines {lines : List String} {found : List (List Member)}
    (each : List.Forall₂ ReadsAs lines found) (rest : List Char) :
    membersFrom .start (lines.flatMap (fun line => line.toList ++ ['\n']) ++ rest) =
      (membersFrom .start rest).map (found.flatten ++ ·) := by
  induction each with
  | nil => exact Option.map_id'.symm
  | @cons line here lines others first later ih =>
      rw [List.flatMap_cons, List.append_assoc, List.append_assoc, List.singleton_append, first,
        ih, Option.map_map, List.flatten_cons]
      congr 1
      funext members
      exact (List.append_assoc _ _ _).symm

/-- Joined lines with a line end after them are the lines, each with its end. -/
theorem toList_intercalate_lineFeed {lines : List String} (some : lines ≠ []) :
    (String.intercalate "\n" lines).toList ++ ['\n'] =
      lines.flatMap fun line => line.toList ++ ['\n'] := by
  induction lines with
  | nil => exact absurd rfl some
  | cons line rest ih =>
      cases rest with
      | nil => simp
      | cons next rest =>
          rw [String.intercalate_cons_cons, List.flatMap_cons, ← ih (List.cons_ne_nil _ _)]
          simp

/-- Between its braces an interface is read line by line. -/
theorem members_of_lines {lines : List String} {found : List (List Member)} (some : lines ≠ [])
    (each : List.Forall₂ ReadsAs lines found) :
    members ("\n" ++ String.intercalate "\n" lines ++ "\n\x7d") = .some found.flatten := by
  have spelled : ("\n" ++ String.intercalate "\n" lines ++ "\n\x7d").toList =
      '\n' :: ((String.intercalate "\n" lines).toList ++ ['\n'] ++ ['\x7d']) := by
    simp
  rw [members, spelled, membersFrom_lineFeed, toList_intercalate_lineFeed some,
    membersFrom_lines each]
  simp

/-! ## Written interfaces -/

theorem TypeExpr.Writable.onOneLine {type : TypeExpr} (writable : type.Writable)
    (options : Options) : OnOneLine (type.render options.fallback) := by
  have append : ∀ first second, OnOneLine first → OnOneLine second →
      OnOneLine (first ++ second) := by
    intro first second online also
    rw [OnOneLine, String.toList_append]
    exact List.forall_mem_append.mpr ⟨online, also⟩
  have ofClass : ∀ {among : Char → Bool}, (['\n', '\r'].any among = false) → ∀ text : String,
      (∀ c ∈ text.toList, among c = true) → OnOneLine text := by
    intro among apart text all c member
    rw [← Bool.not_eq_true]
    intro ends
    have listed : c ∈ ['\n', '\r'] := by simpa [isLineEnd] using ends
    exact List.any_eq_false.mp apart c listed (all c member)
  have delimits : ∀ text : String, text.toList.all isDelimiter = true → OnOneLine text :=
    fun text delimits => ofClass (by decide) text (List.all_eq_true.mp delimits)
  refine TypeExpr.render_of_leaves append delimits type fun leaf inside => ?_
  rcases (writable leaf inside).leaf_or_literal options with plain | ⟨content, same⟩
  · exact ofClass (by decide) _ plain
  · rw [same]
    exact fun _ => isLineEnd_of_mem_stringLiteral

/-- What a member is read as: a bare key loses the line feed that it ends in. -/
def Member.read : Member → Member
  | .property key optional => .property (readKey key) optional
  | .index => .index

/-- The member that a field is. -/
def Field.member (field : Field) : Member :=
  .property field.key field.optional

/-- The members of an interface with the given fields and index signature. -/
def membersOf (fields : List Field) (index : Option TypeExpr) : List Member :=
  fields.map Field.member ++ index.toList.map fun _ => .index

/-- Before its own line, which is read as the field, a field has the line of its comment. -/
theorem forall₂_readsAs_field (options : Options) {field : Field} (writable : field.type.Writable) :
    ∃ found, List.Forall₂ ReadsAs (field.lines options.fallback) found ∧
      found.flatten = [field.member.read] := by
  have property := readsAs_property field.key field.optional (writable.onOneLine options)
  unfold Field.lines
  cases given? field.description with
  | none => exact ⟨_, .cons property .nil, rfl⟩
  | some text => exact ⟨_, .cons (readsAs_comment text) (.cons property .nil), rfl⟩

/-- The lines between the braces are read as the fields and the index signature. -/
theorem forall₂_readsAs_body (options : Options) {fields : List Field} {index : Option TypeExpr}
    (writable : RecordWritable (fields, index)) :
    ∃ found, List.Forall₂ ReadsAs (Declaration.bodyLines options.fallback fields index) found ∧
      found.flatten = (membersOf fields index).map Member.read := by
  induction fields with
  | nil =>
      cases index with
      | none => exact ⟨[], .nil, rfl⟩
      | some type =>
          have online := (writable type List.mem_cons_self).onOneLine options
          exact ⟨_, .cons (readsAs_index online) .nil, rfl⟩
  | cons field rest ih =>
      have split : ∀ type ∈ field.type :: (rest.map (·.type) ++ index.toList), type.Writable :=
        writable
      rw [List.forall_mem_cons] at split
      obtain ⟨first, firstReads, firstTold⟩ := forall₂_readsAs_field options split.1
      obtain ⟨others, othersRead, othersTold⟩ := ih split.2
      have lines : Declaration.bodyLines options.fallback (field :: rest) index =
          field.lines options.fallback ++ Declaration.bodyLines options.fallback rest index := by
        rw [Declaration.bodyLines, List.flatMap_cons, List.append_assoc]
        rfl
      rw [lines]
      refine ⟨first ++ others, List.rel_append firstReads othersRead, ?_⟩
      rw [List.flatten_append, firstTold, othersTold]
      rfl

/-- The text of an interface after its opening brace is read as its members. -/
theorem members_render (options : Options) (name : String) (description : Option String)
    {fields : List Field} {index : Option TypeExpr} (writable : RecordWritable (fields, index)) :
    ∃ body, (Declaration.interface name description fields index).render options =
        blockComment description ++ options.exportWord ++ "interface " ++ name ++ " \x7b" ++ body ∧
      members body = some ((membersOf fields index).map Member.read) := by
  obtain ⟨found, each, told⟩ := forall₂_readsAs_body options writable
  rw [Declaration.render, ← told]
  split
  · next none =>
      rw [none] at each
      cases each
      refine ⟨"\x7d", ?_, rfl⟩
      rw [← String.toList_inj]
      simp
  · next some =>
      refine ⟨_, ?_, members_of_lines some each⟩
      rw [← String.toList_inj]
      simp

/-! ## Compiled records -/

/-- The members of a record: its properties in their order, each optional unless it is required,
and then an index signature when further properties are allowed. -/
def recordMembers (shape : Shape SchemaNode) : List Member :=
  (shape.properties.getD []).map
      (fun property => .property property.1 (!shape.required.contains property.1)) ++
    if shape.additional.isOpen then [.index] else []

/-- The members of a record are read as they are exactly when no key loses a line feed. -/
theorem map_read_recordMembers_iff (shape : Shape SchemaNode) :
    (recordMembers shape).map Member.read = recordMembers shape ↔
      ∀ property ∈ shape.properties.getD [], ¬ EndsInLineFeed property.1 := by
  have index : (if shape.additional.isOpen then [Member.index] else []).map Member.read =
      if shape.additional.isOpen then [.index] else [] := by
    split
    · rfl
    · rfl
  rw [recordMembers, List.map_append, index, List.append_left_inj, List.map_map, List.map_inj_left]
  apply forall₂_congr
  intro property _
  simp [Member.read, readKey_eq_self_iff]

section

variable {task : Task} {resolve : Resolver}

theorem members_interfaceFields (own : String) (required : List String)
    (properties : List (String × SchemaNode)) (state : Compilation) :
    ((interfaceFields task resolve own required properties).run state).1.map Field.member =
      properties.map fun property => .property property.1 (!required.contains property.1) := by
  induction properties generalizing state with
  | nil => rw [interfaceFields]; rfl
  | cons property rest ih =>
      rw [interfaceFields, List.map_cons, ← ih]
      rfl

theorem members_indexType (own : String) (additional : Additional SchemaNode)
    (state : Compilation) :
    ((indexType task resolve own additional).run state).1.toList.map (fun _ => Member.index) =
      if additional.isOpen then [.index] else [] := by
  cases additional with
  | absent => rw [indexType]; rfl
  | allowed flag =>
      rw [indexType]
      cases flag with
      | false => rfl
      | true => rfl
  | schema node => rw [indexType]; rfl

/-- Whatever the state is, the body of a record has the members of the record. -/
theorem members_interfaceBody (own : String) (shape : Shape SchemaNode) (state : Compilation) :
    membersOf ((interfaceBody task resolve own shape).run state).1.1
      ((interfaceBody task resolve own shape).run state).1.2 = recordMembers shape := by
  obtain ⟨types, properties, required, items, additional⟩ := shape
  have fields : ((listedFields task resolve own required properties).run state).1.map
      Field.member = (properties.getD []).map
        fun property => .property property.1 (!required.contains property.1) := by
    cases properties with
    | none => rw [listedFields]; rfl
    | some properties =>
        rw [listedFields]
        exact members_interfaceFields own required properties state
  rw [interfaceBody, recordMembers, ← fields, ← members_indexType own additional]
  rfl

end

/-- An invariant of no content. -/
theorem invariant_true : Invariant fun _ => True where
  reserve := fun _ _ _ => trivial
  notify := fun _ _ _ => trivial
  enter := fun _ _ _ => trivial
  leave := fun _ _ _ => trivial
  nameMessage := fun _ _ _ _ _ => trivial
  declare := fun _ _ _ _ => trivial

/-- In every state the body of a record that is declared under a name can be written. -/
theorem recordWritable_interfaceBody {task : Task} (shaped : task.NamesShaped) {own : String}
    (named : IsName own) (shape : Shape SchemaNode) (state : Compilation) :
    RecordWritable ((interfaceBody task task.reference own shape).run state).1 :=
  (((performs_interfaceBody (answers_reference state.active) own shape).halts state rfl).upheld
    invariant_true shaped (upholds_body named shape)).1

/-! ## Results -/

/-- Interfaces are read back, but for line feeds at the end of bare keys.  For every record and
every name, and in every state, the text of the interface after its opening brace is read as the
members of the record: its properties in their order, each optional unless it is required, and
then an index signature when further properties are allowed; only a key that is an identifier
with a line feed after it is read without the line feed.  So what is read is the record exactly
when it has no such key. -/
theorem interface_read_iff (document : Document) (options : Options) {own : String}
    (named : IsName own) (description : Option String) (shape : Shape SchemaNode)
    (state : Compilation) :
    let task := Task.ofDocument document options
    let parts := ((interfaceBody task task.reference own shape).run state).1
    ∃ body, (Declaration.interface own description parts.1 parts.2).render options =
        blockComment description ++ options.exportWord ++ "interface " ++ own ++ " \x7b" ++ body ∧
      members body = some ((recordMembers shape).map Member.read) ∧
      (members body = some (recordMembers shape) ↔
        ∀ property ∈ shape.properties.getD [], ¬ EndsInLineFeed property.1) := by
  intro task parts
  have writable : RecordWritable parts :=
    recordWritable_interfaceBody (namesShaped_ofDocument document options) named shape state
  obtain ⟨body, rendered, read⟩ := members_render options own description writable
  rw [members_interfaceBody] at read
  refine ⟨body, rendered, read, ?_⟩
  rw [read, Option.some_inj]
  exact map_read_recordMembers_iff shape

/-- A record with keys that are quoted, a required property and further properties. -/
def quotedKeys : Shape SchemaNode :=
  ⟨.single "object", some [("id", .empty), ("it's", .empty), ("", .empty)], ["id"], none,
    .allowed true⟩

/-- All keys of the record are read back, and then its index signature. -/
theorem quotedKeys_read :
    IsName "Keys" ∧
      let task := Task.ofDocument (componentsOnly []) .default
      let parts := ((interfaceBody task task.reference "Keys" quotedKeys).run task.start).1
      ∃ body, (Declaration.interface "Keys" none parts.1 parts.2).render .default =
          "export interface Keys \x7b" ++ body ∧
        members body = some [.property "id" false, .property "it's" true, .property "" true,
          .index] := by
  have named : IsName "Keys" :=
    ⟨'K', "eys".toList, by decide, by decide, List.all_eq_true.mp (by decide)⟩
  obtain ⟨body, rendered, read, -⟩ := interface_read_iff (componentsOnly []) .default named none
    quotedKeys (Task.ofDocument (componentsOnly []) .default).start
  exact ⟨named, body, rendered, read⟩

/-- The properties of the record are `id` and `id` with a line feed. -/
def twinKeys : Shape SchemaNode :=
  ⟨.single "object", some [("id", nodeOfType "string"), ("id\n", nodeOfType "number")], [], none,
    .absent⟩

/-- Both properties of the twins are read as the same field. -/
theorem twinKeys_one_field :
    let document := componentsOnly [("User", .schema ⟨none, none⟩ [] ⟨none, none, none⟩ twinKeys)]
    (compile document .default).declarations.map (Declaration.render .default) =
        ["export interface User \x7b" ++ "\n  id?: string;\n  id\n?: number;\n\x7d"] ∧
      members "\n  id?: string;\n  id\n?: number;\n\x7d" =
        some [.property "id" true, .property "id" true] ∧
      recordMembers twinKeys = [.property "id" true, .property "id\n" true] := by
  refine ⟨?_, ?_, ?_⟩
  · rfl
  · rfl
  · rfl

end TypeScript

end AsyncTypes

import AsyncTypes.Proofs.Output.Identifier
import AsyncTypes.Proofs.Output.Interface

/-!
# Reading enumerations

A reader of an enumeration goes through the text after its opening brace.  It passes over blanks
and line ends, reads the name of a member, passes over the equals sign, and reads the literal in
quotes.  The enumeration of some texts is read as one member for each text in order.  The names of
the members are distinct, whatever the texts are: each is the name for its text, or this name with
the least number from two on that none of the members before has.
-/

namespace AsyncTypes.TypeScript

/-! ## Distinct members -/

theorem Allotted.congr {taken others : List String} {candidate : Nat → String}
    {wanted name : String} (same : ∀ other, other ∈ taken ↔ other ∈ others)
    (allotted : Allotted taken candidate wanted name) : Allotted others candidate wanted name := by
  constructor
  · exact fun free => allotted.unchanged (mt (same wanted).mp free)
  · intro isTaken
    obtain ⟨number, -, least, given⟩ := allotted.numbered ((same wanted).mpr isTaken)
    simp only [same] at least
    exact ⟨number, search_iff_isLeast.mpr least, least, given⟩

variable {taken values : List String}

@[simp]
theorem length_enumMembersFrom (taken values : List String) :
    (enumMembersFrom taken values).length = values.length := by
  induction values generalizing taken with
  | nil => rfl
  | cons value rest ih => simp [enumMembersFrom, ih]

theorem notMem_of_mem_enumMembersFrom {member : String}
    (listed : member ∈ enumMembersFrom taken values) : member ∉ taken := by
  induction values generalizing taken with
  | nil => exact absurd listed List.not_mem_nil
  | cons value rest ih =>
      rcases List.mem_cons.mp listed with rfl | later
      · exact (allotted_freeMember taken (enumMember value)).notMem
      · exact fun before => ih later (List.mem_cons_of_mem _ before)

theorem nodup_enumMembersFrom (taken values : List String) :
    (enumMembersFrom taken values).Nodup := by
  induction values generalizing taken with
  | nil => exact List.nodup_nil
  | cons value rest ih =>
      refine List.nodup_cons.mpr ⟨fun repeated => ?_, ih _⟩
      exact notMem_of_mem_enumMembersFrom repeated List.mem_cons_self

/-- The name of each member is allotted among those that are taken and those of the members before
it. -/
theorem allotted_enumMembersFrom {index : Nat} {value member : String}
    (asked : values[index]? = some value)
    (given : (enumMembersFrom taken values)[index]? = some member) :
    Allotted (((enumMembersFrom taken values).take index).reverse ++ taken)
      (fun number => enumMember value ++ "_" ++ toString number) (enumMember value) member := by
  induction values generalizing taken index with
  | nil => exact nomatch asked
  | cons first rest ih =>
      cases index with
      | zero =>
          obtain rfl : first = value := Option.some.inj asked
          obtain rfl : freeMember taken (enumMember first) = member := Option.some.inj given
          exact allotted_freeMember taken (enumMember first)
      | succ index =>
          have later := @ih (freeMember taken (enumMember first) :: taken) index asked given
          simpa [enumMembersFrom] using later

/-! ## The reader -/

namespace Enumeration

/-- Where a reader of an enumeration is: before a member, in its name or after it, after the equals
sign, in the literal or after a backslash there, or after the literal.  Of a name and of a literal
it holds the characters so far, most recent first. -/
inductive Spot
  | start
  | name (read : List Char)
  | named (name : List Char)
  | equals (name : List Char)
  | quoted (name read : List Char)
  | escaped (name read : List Char)
  | closed (name content : List Char)

/-- The members with one more, of which the name and the content were read. -/
def prepend (name content : List Char) (members : List (String × String)) :
    List (String × String) :=
  (String.ofList name.reverse, String.ofList content.reverse) :: members

/-- The members that are read from a spot on, up to the brace that closes the enumeration. -/
@[simp] def readFrom : Spot → List Char → Option (List (String × String))
  | _, [] => none
  | .start, c :: rest =>
      if c = '\x7d' ∧ rest = [] then some []
      else if c = ' ' ∨ c = '\n' then readFrom .start rest
      else if Unicode.isNameCharacter c then readFrom (.name [c]) rest
      else none
  | .name read, c :: rest =>
      if Unicode.isNameCharacter c then readFrom (.name (c :: read)) rest
      else if c = ' ' then readFrom (.named read) rest
      else if c = '=' then readFrom (.equals read) rest
      else none
  | .named name, c :: rest =>
      if c = ' ' then readFrom (.named name) rest
      else if c = '=' then readFrom (.equals name) rest
      else none
  | .equals name, c :: rest =>
      if c = ' ' then readFrom (.equals name) rest
      else if c = '\'' then readFrom (.quoted name []) rest
      else none
  | .quoted name read, c :: rest =>
      if c = '\'' then readFrom (.closed name read) rest
      else if c = '\\' then readFrom (.escaped name read) rest
      else if isLineEnd c then none
      else readFrom (.quoted name (c :: read)) rest
  | .escaped name read, c :: rest =>
      if isLineEnd c then none else readFrom (.quoted name (unescaped c :: read)) rest
  | .closed name content, c :: rest =>
      if c = ',' then (readFrom .start rest).map (prepend name content)
      else if c = ' ' ∨ c = '\n' then readFrom (.closed name content) rest
      else if c = '\x7d' ∧ rest = [] then some (prepend name content [])
      else none

/-- The members of an enumeration, given the text after its opening brace. -/
def read (body : String) : Option (List (String × String)) :=
  readFrom .start body.toList

theorem readFrom_continued {name : List Char}
    (characters : ∀ c ∈ name, Unicode.isNameCharacter c = true) (before rest : List Char) :
    readFrom (.name before) (name ++ rest) = readFrom (.name (name.reverse ++ before)) rest := by
  induction name generalizing before with
  | nil => rfl
  | cons c name ih =>
      rw [List.forall_mem_cons] at characters
      simp [characters.1, ih characters.2]

/-- A name is read as it is. -/
theorem readFrom_name {name : String} (shape : IsName name) (rest : List Char) :
    readFrom .start (name.toList ++ rest) = readFrom (.name name.toList.reverse) rest := by
  obtain ⟨first, others, spelled, start, continued⟩ := shape
  simp only [Unicode.isNameStart, Bool.and_eq_true] at start
  have apart : ∀ c ∈ ['\x7d', ' ', '\n'], first ≠ c := by
    rintro c listed rfl
    have none : ['\x7d', ' ', '\n'].any Unicode.isNameCharacter = false := by decide
    exact List.any_eq_false.mp none first listed start.1.1
  simp only [List.forall_mem_cons] at apart
  obtain ⟨brace, blank, feed, -⟩ := apart
  simp [spelled, brace, blank, feed, start.1.1, readFrom_continued continued]

theorem readFrom_quoted (name content rest : List Char) :
    readFrom (.quoted name []) (content.flatMap escapeCharacter ++ '\'' :: rest) =
      readFrom (.closed name content.reverse) rest := by
  have all := read_escaped (fun read => readFrom (.quoted name read))
    (fun read => readFrom (.escaped name read)) (fun read => readFrom (.closed name read))
    (by simp) (by simp) (by simp +contextual) (by simp +contextual) [] content rest
  simpa using all

/-- The line of a member is read as the member. -/
theorem readFrom_memberLine {member : String × String} (shape : IsName member.1)
    (rest : List Char) :
    readFrom .start ((Declaration.memberLine member).toList ++ '\n' :: rest) =
      (readFrom .start rest).map (member :: ·) := by
  have spelled : (Declaration.memberLine member).toList ++ '\n' :: rest =
      ' ' :: ' ' :: (member.1.toList ++ ' ' :: '=' :: ' ' :: '\'' ::
        (member.2.toList.flatMap escapeCharacter ++ '\'' :: ',' :: '\n' :: rest)) := by
    simp [Declaration.memberLine, stringLiteral]
  have blank : ∀ text, readFrom .start (' ' :: text) = readFrom .start text := by simp
  have space : Unicode.isNameCharacter ' ' = false := by decide
  have whole : prepend member.1.toList.reverse member.2.toList.reverse = (member :: ·) := by
    funext others
    simp [prepend]
  rw [spelled, blank, blank, readFrom_name shape]
  simp [space, readFrom_quoted, whole]

/-- Lines of members, each with its end, are read as the members. -/
theorem readFrom_memberLines {members : List (String × String)}
    (shapes : ∀ member ∈ members, IsName member.1) (rest : List Char) :
    readFrom .start
        (members.flatMap (fun member => (Declaration.memberLine member).toList ++ ['\n']) ++ rest) =
      (readFrom .start rest).map (members ++ ·) := by
  induction members with
  | nil => exact Option.map_id'.symm
  | cons member others ih =>
      rw [List.forall_mem_cons] at shapes
      rw [List.flatMap_cons, List.append_assoc, List.append_assoc, List.singleton_append,
        readFrom_memberLine shapes.1, ih shapes.2, Option.map_map]
      rfl

/-- The text of an enumeration after its opening brace is read as its members. -/
theorem read_render (options : Options) (name : String) (description : Option String)
    {members : List (String × String)} (shapes : ∀ member ∈ members, IsName member.1) :
    ∃ body, (Declaration.enumeration name description members).render options =
        blockComment description ++ options.exportWord ++ "enum " ++ name ++ " \x7b" ++ body ∧
      read body = some members := by
  let lines := members.map Declaration.memberLine ++ ["\x7d"]
  refine ⟨"\n" ++ String.intercalate "\n" lines, ?rendered, ?told⟩
  case rendered =>
    rw [Declaration.render, ← String.toList_inj]
    simp [lines]
  case told =>
    have ended : (String.intercalate "\n" lines).toList =
        members.flatMap (fun member => (Declaration.memberLine member).toList ++ ['\n']) ++
          ['\x7d'] := by
      have some : lines ≠ [] := by simp [lines]
      have each := toList_intercalate_lineFeed some
      simp only [lines, List.flatMap_append, List.flatMap_map, List.flatMap_singleton] at each
      rw [← List.append_assoc] at each
      exact List.append_cancel_right each
    have feed : ∀ text, readFrom .start ('\n' :: text) = readFrom .start text := by simp
    rw [read, String.toList_append, ended]
    exact (feed _).trans ((readFrom_memberLines shapes ['\x7d']).trans (by simp))

end Enumeration

/-! ## Declared enumerations -/

section

variable {task : Task} (resolve : Resolver) (description format : Option String)
  (composition : Composition SchemaNode) (shape : Shape SchemaNode)

theorem declaresEnumeration_texts (mode : task.options.enumStyle = .enumeration)
    (values : List String) : task.declaresEnumeration (values.map Value.string) = true := by
  simp [Task.declaresEnumeration, mode, Value.text?]

theorem map_shown_texts (values : List String) :
    (values.map Value.string).map Value.shown = values := by
  rw [List.map_map]
  exact (List.map_congr_left fun text _ => Scalar.shown_string text).trans (List.map_id values)

/-- A node that allows some texts is declared as their enumeration. -/
theorem declarationOf_texts (mode : task.options.enumStyle = .enumeration) (some : values ≠ [])
    (name : String) :
    declarationOf task resolve name
        (.schema ⟨description, format⟩ (values.map Value.string) composition shape) =
      return .enumerationOf name description values := by
  rw [declarationOf, declaresEnumeration_texts mode, map_shown_texts]
  simp [some]

/-- Inside another type, a node that allows some texts is declared as their enumeration, too, under
a free name. -/
theorem expression_texts (mode : task.options.enumStyle = .enumeration) (some : values ≠ [])
    (name : String) (inRecord : Bool) :
    expression task resolve name inRecord
        (.schema ⟨description, format⟩ (values.map Value.string) composition shape) = (do
      let own ← Compile.reserve name
      Compile.declare (.enumerationOf own description values)
      return .named own) := by
  have filled : (values.map Value.string).isEmpty = false := by simpa using some
  rw [expression, filled, declaresEnumeration_texts mode]
  simp only [Bool.not_false, if_true, hoistEnumeration, map_shown_texts]

end

/-! ## Results -/

/-- Enumerations are faithful.  Under the option that declares enumerations, a schema that allows
some texts is declared as the enumeration of these texts, also inside another type.  For all texts,
the enumeration is read, after its opening brace, as one member for each text in order, with a
literal that is read as the text.  The names of the members are distinct.  The name for a text is
given to its member as it is when none of the members before has it; otherwise it is given with the
least number from two on that makes it different from all of them, where the search for this number
ends. -/
theorem enumeration_faithful (options : Options) (name : String) (description : Option String)
    (values : List String) :
    let members := enumMembers values
    (∃ body, (Declaration.enumerationOf name description values).render options =
          blockComment description ++ options.exportWord ++ "enum " ++ name ++ " \x7b" ++ body ∧
        Enumeration.read body = some (members.zip values)) ∧
      members.length = values.length ∧ members.Nodup ∧
      (∀ index value member, values[index]? = some value → members[index]? = some member →
        Allotted (members.take index) (fun number => enumMember value ++ "_" ++ toString number)
          (enumMember value) member) ∧
      ∀ (task : Task) resolve format composition shape, task.options.enumStyle = .enumeration →
        values ≠ [] →
        let node : SchemaNode :=
          .schema ⟨description, format⟩ (values.map Value.string) composition shape
        (declarationOf task resolve name node = return .enumerationOf name description values) ∧
          ∀ inRecord, expression task resolve name inRecord node = (do
            let own ← Compile.reserve name
            Compile.declare (.enumerationOf own description values)
            return .named own) := by
  intro members
  refine ⟨?read, length_enumMembersFrom [] values, nodup_enumMembersFrom [] values, ?allotted,
    ?mode⟩
  case read =>
    apply Enumeration.read_render
    intro member listed
    exact isName_of_mem_enumMembersFrom (List.of_mem_zip listed).1
  case allotted =>
    intro index value member asked given
    exact (allotted_enumMembersFrom asked given).congr (by simp [members, enumMembers])
  case mode =>
    intro task resolve format composition shape mode some
    constructor
    · exact declarationOf_texts resolve description format composition shape mode some name
    · exact expression_texts resolve description format composition shape mode some name

/-- The third text has the name of the first one with the number that the second one would get. -/
theorem clashingTexts_faithful :
    let values := ["in stock", "inStock", "in_stock_2", "it's"]
    ∃ body, (Declaration.enumerationOf "Status" none values).render .default =
        "export enum Status \x7b" ++ body ∧
      Enumeration.read body = some [("IN_STOCK", "in stock"), ("IN_STOCK_2", "inStock"),
        ("IN_STOCK_2_2", "in_stock_2"), ("IT_S", "it's")] ∧
      Allotted ["IN_STOCK", "IN_STOCK_2"] (fun number => "IN_STOCK_2" ++ "_" ++ toString number)
        "IN_STOCK_2" "IN_STOCK_2_2" ∧
      ∀ resolve shape, declarationOf (Task.ofDocument (componentsOnly []) enumerating) resolve
          "Status" (.schema ⟨none, none⟩ (values.map Value.string) ⟨none, none, none⟩ shape) =
        return .enumerationOf "Status" none values := by
  intro values
  have named : enumMembers values = ["IN_STOCK", "IN_STOCK_2", "IN_STOCK_2_2", "IT_S"] := by
    decide +kernel
  have third : enumMember "in_stock_2" = "IN_STOCK_2" := by decide +kernel
  obtain ⟨⟨body, rendered, read⟩, -, -, allotted, mode⟩ :=
    enumeration_faithful .default "Status" none values
  rw [named] at read allotted
  have clash := allotted 2 "in_stock_2" "IN_STOCK_2_2" rfl rfl
  rw [third] at clash
  refine ⟨body, rendered, read, clash, fun resolve shape => ?_⟩
  exact (mode _ resolve none _ shape rfl (by simp [values])).1

end AsyncTypes.TypeScript

import Mathlib.Data.List.Perm.Subperm
import AsyncTypes.Extraction.Messages
import AsyncTypes.Proofs.Value.Part

/-!
# Chains of message references

A message may be given by a chain of references.  The chain is followed to a value that is no
reference, or to one that leads back to a pointer of the chain; one of the two is always
reached, since a chain without repetition holds no more pointers than the document has
references and one more.  The message takes its name from the last pointer of the chain that
leads to a component message or to a message of a channel, whichever of the two it is.
-/

namespace AsyncTypes.Extraction

variable {document value middle last : Value} {pointers others : List String} {name : String}

/-! ## Chains -/

/-- The pointers lead from the first value to the last one, each from the value that the pointer
before it leads to; where a pointer leads nowhere, there is null. -/
inductive Chain (document : Value) : Value → List String → Value → Prop
  | here (value : Value) : Chain document value [] value
  | link {value last : Value} {pointer : String} {pointers : List String}
      (refers : value.reference? = some pointer)
      (rest : Chain document ((Pointer.walk? document pointer).getD .null) pointers last) :
      Chain document value (pointer :: pointers) last

/-- The chain is followed as far as it goes without repeating a pointer: its last value is no
reference, or refers by a pointer of the chain. -/
structure Followed (document value : Value) (pointers : List String) (last : Value) : Prop where
  chain : Chain document value pointers last
  distinct : pointers.Nodup
  ended : ∀ pointer, last.reference? = some pointer → pointer ∈ pointers

/-- Of two chains from one value, one continues the other. -/
theorem Chain.continues {final : Value} (chain : Chain document value pointers last)
    (other : Chain document value others final) :
    (∃ more, others = pointers ++ more ∧ Chain document last more final) ∨
      ∃ more, pointers = others ++ more ∧ Chain document final more last := by
  induction chain generalizing others with
  | here value => exact Or.inl ⟨others, rfl, other⟩
  | @link value last pointer pointers refers rest ih =>
      cases other with
      | here => exact Or.inr ⟨pointer :: pointers, rfl, .link refers rest⟩
      | link also later =>
          cases refers.symm.trans also
          rcases ih later with ⟨more, rfl, onward⟩ | ⟨more, rfl, onward⟩
          · exact Or.inl ⟨more, rfl, onward⟩
          · exact Or.inr ⟨more, rfl, onward⟩

/-- A chain that is followed to its end is not continued without a repetition. -/
theorem Followed.eq_nil_of_chain (followed : Followed document value pointers last)
    (onward : Chain document last others middle) (distinct : (pointers ++ others).Nodup) :
    others = [] := by
  cases onward with
  | here => rfl
  | @link _ _ pointer later refers _ =>
      have again := followed.ended pointer refers
      have apart := (List.nodup_append.mp distinct).2.2
      exact absurd rfl (apart pointer again pointer List.mem_cons_self)

/-- There is one way to follow a chain. -/
theorem Followed.unique {final : Value} (followed : Followed document value pointers last)
    (other : Followed document value others final) : others = pointers ∧ final = last := by
  rcases followed.chain.continues other.chain with ⟨more, rfl, onward⟩ | ⟨more, rfl, onward⟩
  · obtain rfl := followed.eq_nil_of_chain onward other.distinct
    cases onward
    exact ⟨List.append_nil pointers, rfl⟩
  · obtain rfl := other.eq_nil_of_chain onward followed.distinct
    cases onward
    exact ⟨(List.append_nil others).symm, rfl⟩

/-! ## The budget -/

/-- The object at the end of a chain: a mapping that is no reference. -/
def object? (last : Value) : Option Value :=
  if last.reference?.isNone && last.isMap then some last else none

theorem object?_of_reference? {pointer : String} (refers : last.reference? = some pointer) :
    object? last = none := by
  simp [object?, refers]

theorem object?_of_other (other : last.reference? = none) :
    object? last = if last.isMap then some last else none := by
  simp [object?, other]

/-- What a pointer leads to refers, if at all, by a pointer of the document. -/
theorem refers_of_walk? {pointer next : String}
    (refers : ((Pointer.walk? document pointer).getD .null).reference? = some next) :
    document.Refers next := by
  cases reached : Pointer.walk? document pointer with
  | none =>
      rw [reached] at refers
      exact nomatch refers
  | some target =>
      rw [reached] at refers
      exact ⟨target, Pointer.partOf_of_walk? reached, refers⟩

/-- The budget covers a chain past some distinct pointers when it exceeds what is left of the
known ones, and all pointers that the chain can meet are known. -/
theorem exists_chain_of_budget {known : List String}
    (ofDocument : ∀ pointer, document.Refers pointer → pointer ∈ known) (budget : Nat)
    (seen : List String) (name : String) (value : Value) (distinct : seen.Nodup)
    (before : seen ⊆ known) (here : ∀ pointer, value.reference? = some pointer → pointer ∈ known)
    (enough : known.length < budget + seen.length) :
    ∃ pointers last, Chain document value pointers last ∧ (pointers ++ seen).Nodup ∧
      (∀ pointer, last.reference? = some pointer → pointer ∈ pointers ++ seen) ∧
      (followMessageChain document budget seen name value).value =
        (pointers.foldl nameAfter name, object? last) := by
  induction budget generalizing seen name value with
  | zero =>
      have fits := (distinct.subperm before).length_le
      omega
  | succ budget ih =>
      rw [followMessageChain]
      cases refers : value.reference? with
      | none =>
          refine ⟨[], value, .here value, distinct, ?_, ?_⟩
          · exact fun _ also => nomatch refers.symm.trans also
          · rw [object?_of_other refers]
            rfl
      | some pointer =>
          dsimp only
          by_cases again : pointer ∈ seen
          · rw [if_pos (List.contains_iff_mem.mpr again)]
            refine ⟨[], value, .here value, distinct, ?_, ?_⟩
            · intro other also
              cases refers.symm.trans also
              exact again
            · rw [object?_of_reference? refers]
              rfl
          · rw [if_neg (mt List.contains_iff_mem.mp again), Logged.value_bind, Pointer.value_walk]
            obtain ⟨pointers, last, chain, fresh, ended, result⟩ := ih (pointer :: seen)
              (nameAfter name pointer) ((Pointer.walk? document pointer).getD .null)
              (List.nodup_cons.mpr ⟨again, distinct⟩)
              (List.cons_subset.mpr ⟨here pointer refers, before⟩)
              (fun next meets => ofDocument next (refers_of_walk? meets))
              (by rw [List.length_cons]; omega)
            have moved : (pointers ++ pointer :: seen).Perm (pointer :: pointers ++ seen) :=
              List.perm_middle
            refine ⟨pointer :: pointers, last, .link refers chain, moved.nodup_iff.mp fresh, ?_,
              result⟩
            exact fun next meets => moved.subset (ended next meets)

/-- Every chain is followed to an end, and the budget suffices for it. -/
theorem exists_followed (document value : Value) (name : String) :
    ∃ pointers last, Followed document value pointers last ∧
      (followMessage document name value).value =
        (pointers.foldl nameAfter name, object? last) := by
  let known := value.reference?.toList ++ document.references
  have ofDocument : ∀ pointer, document.Refers pointer → pointer ∈ known := fun pointer refers =>
    List.mem_append_right _ (Value.mem_references_iff.mpr refers)
  have here : ∀ pointer, value.reference? = some pointer → pointer ∈ known := fun pointer refers =>
    List.mem_append_left _ (Option.mem_toList.mpr refers)
  have enough : known.length < Pointer.chainBudget document + ([] : List String).length := by
    have one : value.reference?.toList.length ≤ 1 := Option.length_toList_le
    simp only [known, List.length_append, Pointer.chainBudget, List.length_nil]
    omega
  obtain ⟨pointers, last, chain, distinct, ended, result⟩ := exists_chain_of_budget ofDocument
    (Pointer.chainBudget document) [] name value List.nodup_nil (List.nil_subset _) here enough
  rw [List.append_nil] at distinct ended
  exact ⟨pointers, last, ⟨chain, distinct, ended⟩, result⟩

/-- What is made of a chain that is followed. -/
theorem followMessage_of_followed (followed : Followed document value pointers last)
    (name : String) :
    (followMessage document name value).value = (pointers.foldl nameAfter name, object? last) := by
  obtain ⟨others, final, also, result⟩ := exists_followed document value name
  obtain ⟨rfl, rfl⟩ := followed.unique also
  exact result

/-! ## Names -/

/-- The key of a component message that the pointer leads to. -/
def componentKey? (pointer : String) : Option String :=
  Pointer.keyBelow? Pointer.messageRoot pointer

/-- The key of a message of a channel that the pointer leads to. -/
def channelKey? (pointer : String) : Option String :=
  if Text.startsWith Pointer.channelRoot pointer &&
      Text.occursIn "/messages/".toList pointer.toList then
    some (Pointer.lastKey pointer)
  else none

/-- The key of a message of either kind. -/
def messageKey? (pointer : String) : Option String :=
  (componentKey? pointer).or (channelKey? pointer)

theorem nameAfter_eq (name pointer : String) :
    nameAfter name pointer = (messageKey? pointer).getD name := by
  unfold nameAfter messageKey? componentKey? channelKey?
  cases Pointer.keyBelow? Pointer.messageRoot pointer with
  | some key => rfl
  | none =>
      dsimp only
      split <;> rfl

/-- The name after a chain is the last key of either kind. -/
theorem foldl_nameAfter (name : String) (pointers : List String) :
    pointers.foldl nameAfter name = ((pointers.filterMap messageKey?).getLast?).getD name := by
  induction pointers generalizing name with
  | nil => rfl
  | cons pointer rest ih =>
      rw [List.foldl_cons, ih, nameAfter_eq]
      cases key : messageKey? pointer with
      | none => rw [List.filterMap_cons_none key]; rfl
      | some found =>
          rw [List.filterMap_cons_some key, List.getLast?_cons, Option.getD_some]
          rfl

/-- The name by the documented priority: the last key of a component message, else the last key
of a message of a channel, else the name that there was. -/
def documentedName (name : String) (pointers : List String) : String :=
  ((pointers.filterMap componentKey?).getLast?.or
    (pointers.filterMap channelKey?).getLast?).getD name

/-- The chain has a component message and passes, after the last one, messages of channels of
which the last one has another key. -/
def Overridden (pointers : List String) : Prop :=
  ∃ before component after key other, pointers = before ++ component :: after ∧
    componentKey? component = some key ∧ after.filterMap componentKey? = [] ∧
    (after.filterMap channelKey?).getLast? = some other ∧ other ≠ key

/-- Without component messages, the keys are those of messages of channels. -/
theorem filterMap_messageKey? (nothing : pointers.filterMap componentKey? = []) :
    pointers.filterMap messageKey? = pointers.filterMap channelKey? := by
  apply List.filterMap_congr
  intro pointer listed
  rw [messageKey?, List.filterMap_eq_nil_iff.mp nothing pointer listed, Option.none_or]

/-- Both names of a chain with a component message that is its last one. -/
theorem names_of_lastComponent {before after : List String} {component key : String}
    (named : componentKey? component = some key) (last : after.filterMap componentKey? = []) :
    documentedName name (before ++ component :: after) = key ∧
      (before ++ component :: after).foldl nameAfter name =
        ((after.filterMap channelKey?).getLast?).getD key := by
  constructor
  · rw [documentedName, List.filterMap_append, List.filterMap_cons_some named, last,
      List.getLast?_concat]
    rfl
  · have either : messageKey? component = some key := by
      rw [messageKey?, named, Option.some_or]
    rw [foldl_nameAfter, List.filterMap_append, List.filterMap_cons_some either,
      filterMap_messageKey? last, List.getLast?_append, List.getLast?_cons]
    rfl

/-- A chain has a last component message, or none. -/
theorem exists_lastComponent (pointers : List String) :
    pointers.filterMap componentKey? = [] ∨
      ∃ before component after key, pointers = before ++ component :: after ∧
        componentKey? component = some key ∧ after.filterMap componentKey? = [] := by
  induction pointers with
  | nil => exact Or.inl rfl
  | cons pointer rest ih =>
      rcases ih with nothing | ⟨before, component, after, key, rfl, named, later⟩
      · cases named : componentKey? pointer with
        | none => exact Or.inl (by rw [List.filterMap_cons_none named, nothing])
        | some key => exact Or.inr ⟨[], pointer, rest, key, rfl, named, nothing⟩
      · exact Or.inr ⟨pointer :: before, component, after, key, rfl, named, later⟩

/-- The name is the documented one unless the chain overrides it. -/
theorem foldl_nameAfter_eq_iff (name : String) (pointers : List String) :
    pointers.foldl nameAfter name = documentedName name pointers ↔ ¬ Overridden pointers := by
  constructor
  · rintro same ⟨before, component, after, key, other, rfl, named, last, found, apart⟩
    obtain ⟨documented, given⟩ := @names_of_lastComponent name before after component key named last
    rw [documented, given, found] at same
    exact apart same
  · intro kept
    rcases exists_lastComponent pointers with
      nothing | ⟨before, component, after, key, rfl, named, last⟩
    · rw [foldl_nameAfter, filterMap_messageKey? nothing, documentedName, nothing]
      rfl
    · obtain ⟨documented, given⟩ :=
        @names_of_lastComponent name before after component key named last
      rw [documented, given]
      cases found : (after.filterMap channelKey?).getLast? with
      | none => rfl
      | some other =>
          by_contra apart
          exact kept ⟨before, component, after, key, other, rfl, named, last, found, apart⟩

/-! ## Results -/

/-- Following a message comes to an end, for every document, name and value: there is one chain
that is followed, from the value to its last value.  The message is named by the last pointer of
the chain that leads to a component message or to a message of a channel, and by the given name
when there is none.  This is the name by the documented priority of component messages exactly
when the chain does not override that name after its last component message.  There is no
object exactly when the chain runs back into itself or ends at a value that is no mapping;
otherwise the object is the last value, a mapping that is no reference. -/
theorem followMessage_named (document value : Value) (name : String) :
    ∃ pointers last, Followed document value pointers last ∧
      (∀ others final, Followed document value others final → others = pointers ∧ final = last) ∧
      (followMessage document name value).value.1 =
        ((pointers.filterMap messageKey?).getLast?).getD name ∧
      ((followMessage document name value).value.1 = documentedName name pointers ↔
        ¬ Overridden pointers) ∧
      ((followMessage document name value).value.2 = none ↔
        (∃ pointer ∈ pointers, last.reference? = some pointer) ∨ last.isMap = false) ∧
      ∀ object, (followMessage document name value).value.2 = some object →
        object = last ∧ object.isMap = true ∧ object.reference? = none := by
  obtain ⟨pointers, last, followed, result⟩ := exists_followed document value name
  rw [result]
  refine ⟨pointers, last, followed, fun others final => followed.unique,
    foldl_nameAfter name pointers, foldl_nameAfter_eq_iff name pointers, ?_, ?_⟩
  · cases refers : last.reference? with
    | some pointer =>
        rw [object?_of_reference? refers]
        simp [followed.ended pointer refers]
    | none =>
        rw [object?_of_other refers]
        simp
  · intro object found
    cases refers : last.reference? with
    | some pointer =>
        rw [object?_of_reference? refers] at found
        exact nomatch found
    | none =>
        rw [object?_of_other refers] at found
        split at found
        · next mapping =>
            obtain rfl := Option.some.inj found
            exact ⟨rfl, mapping, refers⟩
        · exact nomatch found

/-- A reference with the pointer. -/
def linkTo (pointer : String) : Value :=
  .record [("$ref", .string pointer)]

/-- A message object. -/
def event : Value :=
  .record [("payload", .record [("type", .string "string")])]

/-- A document with a message of a channel and a component message. -/
def withEvents (placed order : Value) : Value :=
  .record [("asyncapi", .string "3.0.0"),
    ("info", .record [("title", .string "Orders"), ("version", .string "1")]),
    ("channels", .record [("orders", .record [("messages", .record [("placed", placed)])])]),
    ("components", .record [("messages", .record [("Order", order)])])]

/-- A message of a channel that stands for a component message is named by that. -/
theorem withEvents_named :
    let document := withEvents (linkTo "#/components/messages/Order") event
    let pointers := ["#/channels/orders/messages/placed", "#/components/messages/Order"]
    Followed document (linkTo "#/channels/orders/messages/placed") pointers event ∧
      ¬ Overridden pointers ∧
      (followMessage document "submitMessage1" (linkTo "#/channels/orders/messages/placed")).value =
        ("Order", some event) := by
  intro document pointers
  have followed : Followed document (linkTo "#/channels/orders/messages/placed") pointers event :=
    ⟨.link rfl (.link rfl (.here event)), by decide, fun _ refers => nomatch refers⟩
  obtain ⟨others, last, -, unique, named, documented, missing, found⟩ :=
    followMessage_named document (linkTo "#/channels/orders/messages/placed") "submitMessage1"
  obtain ⟨rfl, rfl⟩ := unique pointers event followed
  have called : (pointers.filterMap messageKey?).getLast? = some "Order" := by decide
  have byPriority : documentedName "submitMessage1" pointers = "Order" := by decide
  rw [called] at named
  refine ⟨followed, documented.mp (named.trans byPriority.symm), ?_⟩
  cases reached : (followMessage document "submitMessage1"
      (linkTo "#/channels/orders/messages/placed")).value.2 with
  | none =>
      rcases missing.mp reached with ⟨pointer, -, refers⟩ | other
      · exact nomatch refers
      · exact nomatch other
  | some object =>
      obtain ⟨rfl, -, -⟩ := found object reached
      exact Prod.ext named reached

/-- A component message that stands for a message of a channel loses its name to it. -/
theorem withEvents_overridden :
    let document := withEvents event (linkTo "#/channels/orders/messages/placed")
    let pointers := ["#/components/messages/Order", "#/channels/orders/messages/placed"]
    Followed document (linkTo "#/components/messages/Order") pointers event ∧
      documentedName "submitMessage1" pointers = "Order" ∧
      (followMessage document "submitMessage1" (linkTo "#/components/messages/Order")).value =
        ("placed", some event) := by
  intro document pointers
  have followed : Followed document (linkTo "#/components/messages/Order") pointers event :=
    ⟨.link rfl (.link rfl (.here event)), by decide, fun _ refers => nomatch refers⟩
  refine ⟨followed, by decide, ?_⟩
  rw [followMessage_of_followed followed, object?_of_other rfl]
  exact Prod.ext (by decide) rfl

end AsyncTypes.Extraction

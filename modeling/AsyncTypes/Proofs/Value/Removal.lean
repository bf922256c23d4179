import AsyncTypes.Proofs.Pointer.Agreement
import AsyncTypes.Proofs.Value.Json
import AsyncTypes.Proofs.Value.Nesting

/-!
# Taking a part away

A part of a value is taken away along the names that lead to it.  What other names lead to stays
as it is, so a pointer that leads neither to the part or into it nor to something that holds it
leads to the same value as before.  What is left nests no deeper, refers by no other pointer and
is JSON when the whole was.
-/

namespace AsyncTypes

namespace Entries

/-- The entries but those under a name. -/
def without (name : String) (entries : Entries) : Entries :=
  entries.filter fun entry => !entry.1.sameKey (.string name)

/-- The entries with a change to what stands under a name. -/
def change (name : String) (changed : Value → Value) (entries : Entries) : Entries :=
  entries.map fun entry =>
    if entry.1.sameKey (.string name) then (entry.1, changed entry.2) else entry

variable {name other : String} {changed : Value → Value} {entry : Scalar × Value}

theorem lookup_without_self (name : String) (entries : Entries) :
    (entries.without name).lookup (.string name) = none := by
  rw [lookup, without, List.find?_filter, Option.map_eq_none_iff, List.find?_eq_none]
  simp

theorem lookup_without_of_ne (apart : name ≠ other) (entries : Entries) :
    (entries.without name).lookup (.string other) = entries.lookup (.string other) := by
  rw [lookup, lookup, without, List.find?_filter]
  congr 2
  funext entry
  cases same : entry.1.sameKey (.string other) with
  | false => simp
  | true =>
      rw [Scalar.sameKey_text_iff.mp same]
      simpa using Ne.symm apart

theorem key_change (name : String) (changed : Value → Value) (entry : Scalar × Value) :
    (if entry.1.sameKey (.string name) then (entry.1, changed entry.2) else entry).1 =
      entry.1 := by
  split <;> rfl

theorem keys_change (name : String) (changed : Value → Value) (entries : Entries) :
    (entries.change name changed).map (·.1) = entries.map (·.1) := by
  rw [change, List.map_map]
  exact List.map_congr_left fun entry _ => key_change name changed entry

/-- What is looked up under a name after a change to some name. -/
theorem lookup_change (name other : String) (changed : Value → Value) (entries : Entries) :
    (entries.change name changed).lookup (.string other) =
      (entries.lookup (.string other)).map fun value =>
        if name = other then changed value else value := by
  induction entries with
  | nil => rfl
  | cons entry rest ih =>
      rw [lookup, lookup] at ih ⊢
      rw [change] at ih ⊢
      rw [List.map_cons, List.find?_cons, List.find?_cons, key_change]
      cases same : entry.1.sameKey (.string other) with
      | false => exact ih
      | true =>
          have key := Scalar.sameKey_text_iff.mp same
          by_cases here : name = other <;> simp [key, here, Ne.symm]

theorem mem_change_cases (listed : entry ∈ change name changed entries) :
    entry ∈ entries ∨ ∃ value, (entry.1, value) ∈ entries ∧ entry.1 = .string name ∧
      entry.2 = changed value := by
  obtain ⟨before, member, rfl⟩ := List.mem_map.mp listed
  split
  · next same => exact Or.inr ⟨before.2, member, Scalar.sameKey_text_iff.mp same, rfl⟩
  · exact Or.inl member

end Entries

namespace Value

/-- The value without what the names lead to, one after another along mappings. -/
def without : List String → Value → Value
  | [name], .map entries => .map (Entries.without name entries)
  | name :: next :: rest, .map entries => .map (Entries.change name (without (next :: rest)) entries)
  | _, value => value

variable {path rest keys : List String} {name next other pointer : String} {value part : Value}

@[simp]
theorem without_nil (value : Value) : value.without [] = value := by
  cases value <;> rfl

theorem without_of_not_map (plain : value.isMap = false) (path : List String) :
    value.without path = value := by
  cases value with
  | map entries => exact nomatch plain
  | _ => rcases path with _ | ⟨name, _ | ⟨next, rest⟩⟩ <;> rfl

@[simp]
theorem isMap_without (path : List String) (value : Value) :
    (value.without path).isMap = value.isMap := by
  cases value with
  | map entries => rcases path with _ | ⟨name, _ | ⟨next, rest⟩⟩ <;> rfl
  | _ => rw [without_of_not_map rfl]

@[simp]
theorem isNull_without (path : List String) (value : Value) :
    (value.without path).isNull = value.isNull := by
  cases value with
  | map entries => rcases path with _ | ⟨name, _ | ⟨next, rest⟩⟩ <;> rfl
  | _ => rw [without_of_not_map rfl]

/-! ## Names -/

theorem get?_without_last (name : String) (value : Value) :
    (value.without [name]).get? name = none := by
  cases value with
  | map entries => exact Entries.lookup_without_self name entries
  | _ => rfl

theorem get?_without_self (name next : String) (rest : List String) (value : Value) :
    (value.without (name :: next :: rest)).get? name =
      (value.get? name).map (without (next :: rest)) := by
  cases value with
  | map entries =>
      apply (Entries.lookup_change name name (without (next :: rest)) entries).trans
      simp [get?]
  | _ => rfl

theorem get?_without_of_ne (apart : name ≠ other) (rest : List String) (value : Value) :
    (value.without (name :: rest)).get? other = value.get? other := by
  cases value with
  | map entries =>
      cases rest with
      | nil => exact Entries.lookup_without_of_ne apart entries
      | cons next rest =>
          apply (Entries.lookup_change name other (without (next :: rest)) entries).trans
          simp [apart, get?]
  | _ => rw [without_of_not_map rfl]

theorem field_without_of_ne (apart : name ≠ other) (rest : List String) (value : Value) :
    (value.without (name :: rest)).field other = value.field other :=
  congrArg (·.getD .null) (get?_without_of_ne apart rest value)

theorem field_without_self (name next : String) (rest : List String) (value : Value) :
    (value.without (name :: next :: rest)).field name =
      (value.field name).without (next :: rest) := by
  unfold field
  rw [get?_without_self]
  cases value.get? name with
  | none => exact (without_of_not_map rfl _).symm
  | some part => rfl

/-- What the first name leads to after something is taken away has lost it. -/
theorem get?_without_cases (found : (value.without (name :: rest)).get? name = some part) :
    ∃ before, value.get? name = some before ∧ part = before.without rest := by
  cases rest with
  | nil => exact nomatch found.symm.trans (get?_without_last name value)
  | cons next rest =>
      rw [get?_without_self, Option.map_eq_some_iff] at found
      obtain ⟨before, held, rfl⟩ := found
      exact ⟨before, held, rfl⟩

/-- A text is not changed, and nothing else becomes one. -/
theorem text?_without (path : List String) (value : Value) :
    (value.without path).text? = value.text? := by
  cases value with
  | map entries => rcases path with _ | ⟨name, _ | ⟨next, rest⟩⟩ <;> rfl
  | _ => rw [without_of_not_map rfl]

/-- A value from which something is taken refers by the pointer by which it referred before. -/
theorem reference?_of_without (refers : (value.without path).reference? = some pointer) :
    value.reference? = some pointer := by
  unfold reference? at refers ⊢
  rcases path with _ | ⟨name, rest⟩
  · simpa using refers
  · by_cases here : name = "$ref"
    · subst here
      cases rest with
      | nil => simp [get?_without_last] at refers
      | cons next rest =>
          rw [get?_without_self] at refers
          cases found : value.get? "$ref" with
          | none => simp [found] at refers
          | some part => simpa [found, text?_without] using refers
    · rwa [get?_without_of_ne here] at refers

theorem reference?_without_of_ne (apart : name ≠ "$ref") (rest : List String) (value : Value) :
    (value.without (name :: rest)).reference? = value.reference? :=
  congrArg (·.bind text?) (get?_without_of_ne apart rest value)

/-! ## Parts -/

/-- An entry that is left was there before, or what the first name leads to has lost
something. -/
theorem mem_entries_without_cases {entry : Scalar × Value}
    (listed : entry ∈ (value.without (name :: rest)).entries?.getD []) :
    entry ∈ value.entries?.getD [] ∨ ∃ before, (entry.1, before) ∈ value.entries?.getD [] ∧
      entry.1 = .string name ∧ entry.2 = before.without rest := by
  cases value with
  | map entries =>
      cases rest with
      | nil => exact Or.inl (List.mem_of_mem_filter listed)
      | cons next rest => exact Entries.mem_change_cases listed
  | _ =>
      rw [without_of_not_map rfl] at listed
      exact Or.inl listed

/-- What is held after something is taken away was held before, or what the first name leads to
has lost something. -/
theorem children_without_cases (listed : part ∈ (value.without (name :: rest)).children) :
    part ∈ value.children ∨ ∃ before ∈ value.children, part = before.without rest := by
  cases value with
  | map entries =>
      have listed : part ∈ (((Value.map entries).without (name :: rest)).entries?.getD []).map
          (·.2) := by
        cases rest <;> exact listed
      obtain ⟨entry, member, rfl⟩ := List.mem_map.mp listed
      rcases mem_entries_without_cases member with kept | ⟨before, kept, -, changed⟩
      · exact Or.inl (List.mem_map_of_mem kept)
      · exact Or.inr ⟨before, List.mem_map_of_mem kept, changed⟩
  | _ =>
      rw [without_of_not_map rfl] at listed
      exact Or.inl listed

/-- What is left refers by no pointer but those by which the whole referred. -/
theorem Refers.of_without (refers : (value.without path).Refers pointer) :
    value.Refers pointer := by
  induction path generalizing value with
  | nil => simpa using refers
  | cons name rest ih =>
      rcases refers_iff.mp refers with here | ⟨part, listed, inside⟩
      · exact refers_iff.mpr (Or.inl (reference?_of_without here))
      · rcases children_without_cases listed with kept | ⟨before, held, rfl⟩
        · exact inside.of_mem kept
        · exact (ih inside).of_mem held

/-- What is left of a JSON value is one. -/
theorem isJson_without (json : value.isJson = true) (path : List String) :
    (value.without path).isJson = true := by
  induction path generalizing value with
  | nil => simpa using json
  | cons name rest ih =>
      cases value with
      | map entries =>
          obtain ⟨distinct, texts⟩ := isJson_map_iff.mp json
          have left : ∀ entry ∈ ((Value.map entries).without (name :: rest)).entries?.getD [],
              entry.1.isText = true ∧ entry.2.isJson = true := by
            intro entry listed
            rcases mem_entries_without_cases listed with kept | ⟨before, member, -, changed⟩
            · exact texts entry kept
            · obtain ⟨text, part⟩ := texts _ member
              exact ⟨text, changed ▸ ih part⟩
          cases rest with
          | nil => exact isJson_map_iff.mpr ⟨distinct.sublist (List.filter_sublist.map _), left⟩
          | cons next rest =>
              refine isJson_map_iff.mpr ⟨?_, left⟩
              rwa [Entries.keys_change]
      | _ => rwa [without_of_not_map rfl]

/-! ## Nesting -/

/-- What is left nests no deeper. -/
theorem depth_without_le (path : List String) (value : Value) :
    (value.without path).depth ≤ value.depth := by
  induction path generalizing value with
  | nil => simp
  | cons name rest ih =>
      cases value with
      | map entries =>
          have own : (Value.map entries).depth = depthOfItems (Value.map entries).children + 1 :=
            depth_of_isContainer rfl
          have held := depthOfItems_le_iff.mp (Nat.le_refl (depthOfItems (Value.map entries).children))
          have container : ((Value.map entries).without (name :: rest)).isContainer = true := by
            cases rest <;> rfl
          rw [depth_of_isContainer container, own, Nat.add_le_add_iff_right]
          refine depthOfItems_le_iff.mpr fun part listed => ?_
          rcases children_without_cases listed with kept | ⟨before, member, rfl⟩
          · exact held part kept
          · exact Nat.le_trans (ih before) (held before member)
      | _ => exact Nat.le_of_eq (congrArg depth (without_of_not_map rfl _))

end Value

/-! ## Pointers -/

namespace Pointer

variable {document value : Value} {path keys : List String} {pointer : String}

/-- Neither of two ways begins with the other. -/
def Apart (path keys : List String) : Prop :=
  ¬ path <+: keys ∧ ¬ keys <+: path

instance (path keys : List String) : Decidable (Apart path keys) :=
  inferInstanceAs (Decidable (_ ∧ _))

theorem Apart.of_cons {key : String} (apart : Apart (key :: path) (key :: keys)) :
    Apart path keys := by
  simpa [Apart, List.cons_prefix_cons] using apart

/-- Keys that lead neither into the part nor to something that holds it lead to the same value
when it is taken away. -/
theorem follow?_without (apart : Apart path keys) (value : Value) :
    follow? (value.without path) keys = follow? value keys := by
  induction keys generalizing path value with
  | nil => exact absurd (List.nil_prefix) apart.2
  | cons key rest ih =>
      rcases path with _ | ⟨name, path⟩
      · exact absurd List.nil_prefix apart.1
      · cases value with
        | map entries =>
            obtain ⟨others, left⟩ : ∃ others,
                (Value.map entries).without (name :: path) = .map others := by
              cases path <;> exact ⟨_, rfl⟩
            have stepped : ∀ held, step? (.map held) key = (Value.map held).get? key :=
              fun _ => rfl
            rw [follow?, follow?, left, stepped, stepped, ← left]
            by_cases same : name = key
            · subst same
              cases path with
              | nil => exact absurd (by simp) apart.1
              | cons next path =>
                  rw [Value.get?_without_self]
                  cases found : (Value.map entries).get? name with
                  | none => rfl
                  | some part =>
                      simp only [Option.map_some, Option.bind_some, present?,
                        Value.isNull_without]
                      split
                      · rfl
                      · exact ih apart.of_cons part
            · rw [Value.get?_without_of_ne same]
        | _ => rw [Value.without_of_not_map rfl]

theorem walk?_without (apart : ∀ keys, keys? pointer = some keys → Apart path keys)
    (document : Value) : walk? (document.without path) pointer = walk? document pointer := by
  unfold walk?
  cases known : keys? pointer with
  | none => rfl
  | some keys => exact follow?_without (apart keys known) document

/-- When the walk of the validation is refused in what is left, it is refused in the whole. -/
theorem lookupKeys_of_without {fault : IndexFault}
    (refused : lookupKeys (value.without path) keys = .error fault) :
    lookupKeys value keys = .error fault := by
  induction keys generalizing path value with
  | nil => exact nomatch refused
  | cons key rest ih =>
      rcases path with _ | ⟨name, path⟩
      · simpa using refused
      · cases value with
        | map entries =>
            obtain ⟨others, left⟩ : ∃ others,
                (Value.map entries).without (name :: path) = .map others := by
              cases path <;> exact ⟨_, rfl⟩
            have stepped : ∀ held, lookupStep (.map held) key = .ok ((Value.map held).get? key) :=
              fun _ => rfl
            rw [left, lookupKeys_of_ok (stepped others), ← left] at refused
            rw [lookupKeys_of_ok (stepped entries)]
            by_cases same : name = key
            · subst same
              cases path with
              | nil => simp [Value.get?_without_last] at refused
              | cons next path =>
                  rw [Value.get?_without_self] at refused
                  cases found : (Value.map entries).get? name with
                  | none => simp [found] at refused
                  | some part =>
                      simp only [found, Option.map_some, Option.bind_some, present?,
                        Value.isNull_without] at refused ⊢
                      cases absent : part.isNull with
                      | true => simp [absent] at refused
                      | false =>
                          simp only [absent] at refused ⊢
                          exact ih refused
            · rwa [Value.get?_without_of_ne same] at refused
        | _ => rwa [Value.without_of_not_map rfl] at refused

theorem lookup_of_without {fault : IndexFault}
    (refused : lookup (document.without path) pointer = .error fault) :
    lookup document pointer = .error fault := by
  unfold lookup at refused ⊢
  cases known : keys? pointer with
  | none => simp [known] at refused
  | some keys =>
      simp only [known] at refused ⊢
      exact lookupKeys_of_without refused

end Pointer

end AsyncTypes

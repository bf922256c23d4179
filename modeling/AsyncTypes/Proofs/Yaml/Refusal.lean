import AsyncTypes.Proofs.Yaml.Form
import AsyncTypes.Yaml.Meaning

/-!
# Nodes that are refused

A node is refused at one of its parts.  A part is refused for what it denotes when it is a scalar,
or stands for one; all other refusals are those of a malformed text.
-/

namespace AsyncTypes.Yaml

/-! ## Parts of nodes -/

namespace Node

/-- One node is part of another. -/
inductive IsPartOf : Node → Node → Prop
  | refl (node : Node) : IsPartOf node node
  | item {part item : Node} {tag : Tag} {items : List Node} (inside : item ∈ items)
      (further : IsPartOf part item) : IsPartOf part (.sequence tag items)
  | key {part key value : Node} {tag : Tag} {entries : List (Node × Node)}
      (inside : (key, value) ∈ entries) (further : IsPartOf part key) :
      IsPartOf part (.mapping tag entries)
  | value {part key value : Node} {tag : Tag} {entries : List (Node × Node)}
      (inside : (key, value) ∈ entries) (further : IsPartOf part value) :
      IsPartOf part (.mapping tag entries)

/-- A node is refused for what it denotes.  An untagged scalar deceives by its form; a scalar
of another tag is refused by the reader of its tag, and a mapping with the tag of a scalar
by the reader of the text that it stands for, or because it is a timestamp. -/
inductive Refuses : Node → Fault → Prop
  | form {text : String} {fault : Fault} (deceives : Form.Deceives text.toList)
      (refused : scalarValue (Form.tagOf text.toList) text = .error fault) :
      Refuses (.scalar (Form.tagOf text.toList) text) fault
  | tag {tag : Tag} {text : String} {fault : Fault} (other : tag ≠ Form.tagOf text.toList)
      (refused : scalarValue tag text = .error fault) : Refuses (.scalar tag text) fault
  | text {tag : Tag} {entries : List (Node × Node)} {text : String} {fault : Fault}
      (scalar : tag.isScalar = true)
      (stands : Meaning.textOf? (.mapping tag entries) = some text)
      (refused : scalarValue tag text = .error fault) : Refuses (.mapping tag entries) fault
  | time {entries : List (Node × Node)} {text : String}
      (stands : Meaning.textOf? (.mapping .timestamp entries) = some text) :
      Refuses (.mapping .timestamp entries)
        (.wrongType "expected string or bytes-like object, got \x27list\x27")

end Node

/-- A fault is that of a malformed text, or one of some nodes has a part that is refused
with it. -/
def Blamed (nodes : List Node) (fault : Fault) : Prop :=
  (∃ level, fault = .malformed level) ∨
    ∃ node ∈ nodes, ∃ part : Node, part.IsPartOf node ∧ part.Refuses fault

theorem blamed_noValue (nodes : List Node) : Blamed nodes .noValue :=
  .inl ⟨.value, rfl⟩

/-- The keys and values of entries. -/
def nodesOf (entries : List (Node × Node)) : List Node :=
  entries.flatMap fun entry => [entry.1, entry.2]

/-- All parts of some nodes are parts of others. -/
def Covers (others nodes : List Node) : Prop :=
  ∀ node ∈ nodes, ∀ part : Node, part.IsPartOf node → ∃ outer ∈ others, part.IsPartOf outer

theorem covers_of_mem {others : List Node} {node : Node} (listed : node ∈ others) :
    Covers others [node] := by
  intro same isSame part isPart
  cases List.mem_singleton.mp isSame
  exact ⟨node, listed, isPart⟩

theorem covers_of_subset {others nodes : List Node} (listed : nodes ⊆ others) :
    Covers others nodes :=
  fun node isNode _ isPart => ⟨node, listed isNode, isPart⟩

theorem covers_items {others items : List Node} {tag : Tag}
    (listed : .sequence tag items ∈ others) : Covers others items :=
  fun _ isItem _ isPart => ⟨_, listed, .item isItem isPart⟩

theorem covers_nodesOf {others : List Node} {tag : Tag} {entries : List (Node × Node)}
    (listed : .mapping tag entries ∈ others) : Covers others (nodesOf entries) := by
  intro node isNode part isPart
  obtain ⟨⟨key, value⟩, inside, either⟩ := List.mem_flatMap.mp isNode
  simp only [List.mem_cons, List.not_mem_nil, or_false] at either
  rcases either with rfl | rfl
  · exact ⟨_, listed, .key inside isPart⟩
  · exact ⟨_, listed, .value inside isPart⟩

theorem Blamed.mono {nodes others : List Node} {fault : Fault} (blamed : Blamed nodes fault)
    (covers : Covers others nodes) : Blamed others fault := by
  refine blamed.imp_right ?_
  rintro ⟨node, listed, part, isPart, refuses⟩
  obtain ⟨outer, isOuter, further⟩ := covers node listed part isPart
  exact ⟨outer, isOuter, part, further, refuses⟩

/-! ## Faults of meanings -/

namespace Meaning

/-- All faults of a meaning, at whatever level, are blamed on some nodes. -/
def FaultsOf (nodes : List Node) (meaning : Meaning) : Prop :=
  ∀ level, ∀ found ∈ meaning.faults level, Blamed nodes found.2

variable {nodes : List Node}

theorem faultsOf_scalar (value : Scalar) : FaultsOf nodes (.scalar value) := by
  rintro level found listed
  rw [faults] at listed
  cases listed

theorem faultsOf_refused {fault : Fault} (blamed : Blamed nodes fault) :
    FaultsOf nodes (.refused fault) := by
  rintro level found listed
  rw [faults, List.mem_singleton] at listed
  exact listed ▸ blamed

theorem faultsOf_hollow {fault : Fault} (blamed : Blamed nodes fault) :
    FaultsOf nodes (.hollow fault) := by
  rintro level found listed
  rw [faults, List.mem_singleton] at listed
  exact listed ▸ blamed

theorem faultsOf_list {items : List Meaning} (each : ∀ item ∈ items, FaultsOf nodes item) :
    FaultsOf nodes (.list items) := by
  have inItems : ∀ level, ∀ found ∈ itemFaults level items, Blamed nodes found.2 := by
    intro level
    induction items with
    | nil => exact fun found listed => absurd listed (by rw [itemFaults]; exact List.not_mem_nil)
    | cons item rest ih =>
        rw [List.forall_mem_cons] at each
        intro found listed
        rw [itemFaults] at listed
        rcases List.mem_append.mp listed with here | later
        · exact each.1 level found here
        · exact ih each.2 found later
  intro level found listed
  rw [faults] at listed
  exact inItems _ found listed

/-- Both meanings of an entry have their faults from some nodes. -/
def EntryFaultsOf (nodes : List Node) (entry : Meaning × Meaning) : Prop :=
  FaultsOf nodes entry.1 ∧ FaultsOf nodes entry.2

theorem eq_noValue_of_mem_keyFault {key : Meaning} {fault : Fault}
    (listed : fault ∈ keyFault key) : fault = .noValue := by
  unfold keyFault at listed
  split at listed
  · cases listed
  · cases listed
  · exact List.mem_singleton.mp listed

theorem blamed_of_mem_entryFaults {entries : List (Meaning × Meaning)}
    (each : ∀ entry ∈ entries, EntryFaultsOf nodes entry) :
    ∀ level, ∀ found ∈ entryFaults level entries, Blamed nodes found.2 := by
  intro level
  induction entries with
  | nil => exact fun found listed => absurd listed (by rw [entryFaults]; exact List.not_mem_nil)
  | cons entry rest ih =>
      obtain ⟨key, value⟩ := entry
      rw [List.forall_mem_cons] at each
      intro found listed
      rw [entryFaults] at listed
      simp only [List.mem_append, List.mem_map] at listed
      rcases listed with ((inKey | ⟨fault, isFault, rfl⟩) | inValue) | later
      · exact each.1.1 level found inKey
      · exact .inl ⟨.value, eq_noValue_of_mem_keyFault isFault⟩
      · exact each.1.2 level found inValue
      · exact ih each.2 found later

theorem blamed_of_mem_pairFaults {entries : List (Meaning × Meaning)}
    (each : ∀ entry ∈ entries, EntryFaultsOf nodes entry) :
    ∀ level, ∀ found ∈ pairFaults level entries, Blamed nodes found.2 := by
  intro level
  induction entries with
  | nil => exact fun found listed => absurd listed (by rw [pairFaults]; exact List.not_mem_nil)
  | cons entry rest ih =>
      obtain ⟨key, value⟩ := entry
      rw [List.forall_mem_cons] at each
      intro found listed
      rw [pairFaults] at listed
      simp only [List.mem_append] at listed
      rcases listed with (inKey | inValue) | later
      · exact each.1.1 level found inKey
      · exact each.1.2 level found inValue
      · exact ih each.2 found later

theorem faultsOf_map {entries : List (Meaning × Meaning)}
    (each : ∀ entry ∈ entries, EntryFaultsOf nodes entry) : FaultsOf nodes (.map entries) := by
  intro level found listed
  rw [faults] at listed
  exact blamed_of_mem_entryFaults each _ found listed

theorem faultsOf_set {entries : List (Meaning × Meaning)}
    (each : ∀ entry ∈ entries, EntryFaultsOf nodes entry) : FaultsOf nodes (.set entries) := by
  intro level found listed
  rw [faults] at listed
  exact blamed_of_mem_entryFaults each _ found listed

theorem faultsOf_pairs {entries : List (Meaning × Meaning)}
    (each : ∀ entry ∈ entries, EntryFaultsOf nodes entry) : FaultsOf nodes (.pairs entries) := by
  intro level found listed
  rw [faults] at listed
  exact blamed_of_mem_pairFaults each _ found listed

theorem FaultsOf.mono {others : List Node} {meaning : Meaning} (faults : FaultsOf nodes meaning)
    (covers : Covers others nodes) : FaultsOf others meaning :=
  fun level found listed => (faults level found listed).mono covers

theorem EntryFaultsOf.mono {others : List Node} {entry : Meaning × Meaning}
    (faults : EntryFaultsOf nodes entry) (covers : Covers others nodes) :
    EntryFaultsOf others entry :=
  ⟨faults.1.mono covers, faults.2.mono covers⟩

/-! ## Faults of nodes -/

theorem faultsOf_ofText (tag : Tag) (text : String) :
    FaultsOf [.scalar tag text] (ofText tag text) := by
  rw [ofText]
  split
  · exact faultsOf_hollow (blamed_noValue _)
  · split
    · exact faultsOf_scalar _
    · next fault refused =>
        apply faultsOf_refused
        by_cases malformed : ∃ level, fault = .malformed level
        · exact .inl malformed
        · refine .inr ⟨_, List.mem_singleton_self _, _, .refl _, ?_⟩
          by_cases same : tag = Form.tagOf text.toList
          · subst same
            have escapes : Escapes (scalarValue (Form.tagOf text.toList) text) :=
              ⟨fault, refused, fun level same => malformed ⟨level, same⟩⟩
            exact .form ((Form.scalarValue_tagOf_escapes_iff text).mp escapes) refused
          · exact .tag same refused

theorem faultsOf_ofScalarTag {tag : Tag} {entries : List (Node × Node)}
    (scalar : tag.isScalar = true) :
    FaultsOf [.mapping tag entries] (ofScalarTag tag (.mapping tag entries)) := by
  rw [ofScalarTag]
  split
  · next text stands =>
      split
      · next time =>
          cases beq_iff_eq.mp time
          exact faultsOf_refused (.inr ⟨_, List.mem_singleton_self _, _, .refl _, .time stands⟩)
      · rw [ofText]
        split
        · exact faultsOf_hollow (blamed_noValue _)
        · split
          · exact faultsOf_scalar _
          · next fault refused =>
              exact faultsOf_refused (.inr ⟨_, List.mem_singleton_self _, _, .refl _,
                .text scalar stands refused⟩)
  · exact faultsOf_refused (blamed_noValue _)

/-- Gathered entries have their faults from some nodes, and gathering fails only as a malformed
text. -/
def Gathers {α : Type} (nodes : List Node) (gathered : α → Entries) : Except Fault α → Prop
  | .ok found => ∀ entry ∈ gathered found, EntryFaultsOf nodes entry
  | .error fault => fault = .noValue

theorem Gathers.bind {α β : Type} {gathered : α → Entries} {further : β → Entries}
    {result : Except Fault α} {next : α → Except Fault β}
    (gathers : Gathers nodes gathered result)
    (goesOn : ∀ found, (∀ entry ∈ gathered found, EntryFaultsOf nodes entry) →
      Gathers nodes further (next found)) : Gathers nodes further (result >>= next) := by
  cases result with
  | error fault => exact gathers
  | ok found => exact goesOn found gathers

theorem Gathers.mono {α : Type} {gathered : α → Entries} {others : List Node}
    {result : Except Fault α} (gathers : Gathers nodes gathered result)
    (covers : Covers others nodes) : Gathers others gathered result := by
  cases result with
  | error fault => exact gathers
  | ok found => exact fun entry listed => (gathers entry listed).mono covers

mutual

/-- The faults of a node's meaning are blamed on the node. -/
theorem faultsOf_ofNode : ∀ node : Node, FaultsOf [node] (ofNode node)
  | .scalar tag text => by
      rw [ofNode]
      exact faultsOf_ofText tag text
  | .sequence tag items => by
      have covers := covers_items (List.mem_singleton_self (Node.sequence tag items))
      have pairs : FaultsOf [.sequence tag items] (.pairs (ofPairs items)) :=
        faultsOf_pairs fun entry listed => (faultsOf_ofPairs items entry listed).mono covers
      unfold ofNode
      split
      · exact faultsOf_list fun meaning listed =>
          (faultsOf_ofItems items meaning listed).mono covers
      · exact pairs
      · exact pairs
      · exact faultsOf_hollow (blamed_noValue _)
      · exact faultsOf_hollow (blamed_noValue _)
      · exact faultsOf_refused (blamed_noValue _)
  | .mapping tag entries => by
      have gathers := (gathers_ofEntries entries).mono
        (covers_nodesOf (List.mem_singleton_self (Node.mapping tag entries)))
      unfold ofNode
      split
      · cases found : ofEntries entries with
        | error fault =>
            rw [found] at gathers
            exact faultsOf_hollow (gathers ▸ blamed_noValue _)
        | ok result =>
            rw [found] at gathers
            exact faultsOf_map gathers
      · cases found : ofEntries entries with
        | error fault =>
            rw [found] at gathers
            exact faultsOf_hollow (gathers ▸ blamed_noValue _)
        | ok result =>
            rw [found] at gathers
            exact faultsOf_set gathers
      · exact faultsOf_hollow (blamed_noValue _)
      · exact faultsOf_hollow (blamed_noValue _)
      · exact faultsOf_hollow (blamed_noValue _)
      · split
        · next scalar => exact faultsOf_ofScalarTag scalar
        · exact faultsOf_refused (blamed_noValue _)
  | .endless => by
      intro level found listed
      rw [ofNode, faults] at listed
      cases listed

theorem faultsOf_ofItems : ∀ items : List Node, ∀ meaning ∈ ofItems items, FaultsOf items meaning
  | [] => fun meaning listed => absurd listed (by rw [ofItems]; exact List.not_mem_nil)
  | item :: rest => by
      intro meaning listed
      rw [ofItems] at listed
      rcases List.mem_cons.mp listed with rfl | later
      · exact (faultsOf_ofNode item).mono (covers_of_mem List.mem_cons_self)
      · exact (faultsOf_ofItems rest meaning later).mono
          (covers_of_subset (List.subset_cons_self item rest))

theorem faultsOf_ofPairs : ∀ items : List Node, ∀ entry ∈ ofPairs items, EntryFaultsOf items entry
  | [] => fun entry listed => absurd listed (by rw [ofPairs]; exact List.not_mem_nil)
  | .mapping tag [(key, value)] :: rest => by
      intro entry listed
      rw [ofPairs] at listed
      rcases List.mem_cons.mp listed with rfl | later
      · have covers : Covers (.mapping tag [(key, value)] :: rest) (nodesOf [(key, value)]) :=
          covers_nodesOf List.mem_cons_self
        constructor
        · exact (faultsOf_ofNode key).mono fun node isKey => covers node (by simp_all [nodesOf])
        · exact (faultsOf_ofNode value).mono fun node isValue =>
            covers node (by simp_all [nodesOf])
      · exact (faultsOf_ofPairs rest entry later).mono
          (covers_of_subset (List.subset_cons_self _ rest))
  | .mapping _ [] :: rest | .mapping _ (_ :: _ :: _) :: rest | .scalar _ _ :: rest
  | .sequence _ _ :: rest | .endless :: rest => by
      intro entry listed
      simp only [ofPairs, List.mem_singleton] at listed
      rw [listed]
      exact ⟨faultsOf_refused (blamed_noValue _), faultsOf_scalar _⟩

/-- The entries of a mapping have their faults from its keys and values. -/
theorem gathers_ofEntries : ∀ entries : List (Node × Node),
    Gathers (nodesOf entries) (fun found => found.1 ++ found.2) (ofEntries entries)
  | [] => by
      rw [ofEntries]
      exact fun entry listed => absurd listed List.not_mem_nil
  | (key, value) :: rest => by
      have inKey : Covers (nodesOf ((key, value) :: rest)) [key] := covers_of_mem List.mem_cons_self
      have inValue : Covers (nodesOf ((key, value) :: rest)) [value] :=
        covers_of_mem (List.mem_cons_of_mem _ List.mem_cons_self)
      have others := (gathers_ofEntries rest).mono
        (covers_of_subset (List.subset_append_right [key, value] (nodesOf rest)))
      have valueFaults := (faultsOf_ofNode value).mono inValue
      unfold ofEntries
      split
      · refine ((gathers_mergedFrom value).mono inValue).bind fun first each =>
          others.bind fun found further => ?_
        intro entry listed
        rcases List.mem_append.mp listed with inMerged | inOwn
        · rcases List.mem_append.mp inMerged with inFirst | inOthers
          · exact each entry inFirst
          · exact further entry (List.mem_append_left _ inOthers)
        · exact further entry (List.mem_append_right _ inOwn)
      · refine others.bind fun found further => ?_
        intro entry listed
        rcases List.mem_append.mp listed with inMerged | inOwn
        · exact further entry (List.mem_append_left _ inMerged)
        · rcases List.mem_cons.mp inOwn with rfl | later
          · split
            · exact ⟨faultsOf_scalar _, valueFaults⟩
            · exact ⟨(faultsOf_ofNode key).mono inKey, valueFaults⟩
          · exact further entry (List.mem_append_right _ later)

/-- The entries that are taken from a node have their faults from it. -/
theorem gathers_mergedFrom : ∀ node : Node, Gathers [node] id (mergedFrom node)
  | .mapping tag entries => by
      rw [mergedFrom]
      exact ((gathers_ofEntries entries).mono
        (covers_nodesOf (List.mem_singleton_self _))).bind fun _ each => each
  | .sequence tag items => by
      rw [mergedFrom]
      exact (gathers_mergedFromItems items).mono (covers_items (List.mem_singleton_self _))
  | .endless => by
      rw [mergedFrom]
      exact fun entry listed => absurd listed List.not_mem_nil
  | .scalar tag text => by
      rw [mergedFrom]
      rfl

theorem gathers_mergedFromItems : ∀ items : List Node, Gathers items id (mergedFromItems items)
  | [] => by
      rw [mergedFromItems]
      exact fun entry listed => absurd listed List.not_mem_nil
  | .mapping tag entries :: rest => by
      have own := (gathers_ofEntries entries).mono
        (@covers_nodesOf (.mapping tag entries :: rest) tag entries List.mem_cons_self)
      have others := (gathers_mergedFromItems rest).mono
        (covers_of_subset (List.subset_cons_self (.mapping tag entries) rest))
      rw [mergedFromItems]
      refine own.bind fun found each => others.bind fun taken further => ?_
      intro entry listed
      rcases List.mem_append.mp listed with inTaken | inFound
      · exact further entry inTaken
      · exact each entry inFound
  | .endless :: rest => by
      rw [mergedFromItems]
      exact (gathers_mergedFromItems rest).mono (covers_of_subset (List.subset_cons_self _ rest))
  | .scalar _ _ :: rest | .sequence _ _ :: rest => by
      simp only [mergedFromItems]
      rfl

end

/-! ## The fault of a node -/

/-- The better one of two faults: that of a higher level, or else the earlier one. -/
def earliest (best : Option (Nat × Fault)) (fault : Nat × Fault) : Option (Nat × Fault) :=
  match best with
  | some (level, found) => if fault.1 < level then some fault else some (level, found)
  | none => some fault

theorem firstFault_eq (meaning : Meaning) :
    meaning.firstFault = ((meaning.faults 0).foldl earliest none).map (·.2) :=
  rfl

/-- A fault is the first one of its level among some, and none of them is of a higher level. -/
def IsFirst (found : Nat × Fault) : List (Nat × Fault) → Prop
  | [] => False
  | fault :: rest =>
      (fault = found ∧ ∀ other ∈ rest, found.1 ≤ other.1) ∨
        (found.1 < fault.1 ∧ IsFirst found rest)

theorem IsFirst.mem {found : Nat × Fault} {all : List (Nat × Fault)} (first : IsFirst found all) :
    found ∈ all := by
  induction all with
  | nil => exact first.elim
  | cons fault rest ih =>
      rcases first with ⟨rfl, -⟩ | ⟨-, later⟩
      · exact List.mem_cons_self
      · exact List.mem_cons_of_mem _ (ih later)

theorem foldl_earliest_eq_some_iff {found best : Nat × Fault} {all : List (Nat × Fault)} :
    all.foldl earliest (some best) = some found ↔ IsFirst found (best :: all) := by
  induction all generalizing best with
  | nil => simp [IsFirst]
  | cons fault rest ih =>
      rw [List.foldl_cons, earliest]
      split
      · next higher =>
          rw [ih]
          -- The best fault so far gives way to this one, which is of a higher level.
          constructor
          · intro first
            refine .inr ⟨?_, first⟩
            rcases first with ⟨rfl, -⟩ | ⟨further, -⟩
            · exact higher
            · exact Nat.lt_trans further higher
          · rintro (⟨rfl, atMost⟩ | ⟨-, first⟩)
            · exact absurd (atMost fault List.mem_cons_self) (Nat.not_le.mpr higher)
            · exact first
      · next notHigher =>
          have atMost := Nat.not_lt.mp notHigher
          rw [ih]
          constructor
          · rintro (⟨rfl, others⟩ | ⟨further, first⟩)
            · exact .inl ⟨rfl, List.forall_mem_cons.mpr ⟨atMost, others⟩⟩
            · exact .inr ⟨further, .inr ⟨Nat.lt_of_lt_of_le further atMost, first⟩⟩
          · rintro (⟨rfl, others⟩ | ⟨further, ⟨rfl, -⟩ | ⟨-, first⟩⟩)
            · exact .inl ⟨rfl, (List.forall_mem_cons.mp others).2⟩
            · exact absurd further (Nat.not_lt.mpr atMost)
            · exact .inr ⟨further, first⟩

/-- The fault of a meaning is the first one of the highest level. -/
theorem firstFault_eq_some_iff {meaning : Meaning} {fault : Fault} :
    meaning.firstFault = some fault ↔ ∃ level, IsFirst (level, fault) (meaning.faults 0) := by
  rw [firstFault_eq]
  cases all : meaning.faults 0 with
  | nil => simp [IsFirst]
  | cons first rest =>
      rw [List.foldl_cons, earliest, Option.map_eq_some_iff]
      constructor
      · rintro ⟨⟨level, found⟩, folded, rfl⟩
        exact ⟨level, foldl_earliest_eq_some_iff.mp folded⟩
      · rintro ⟨level, isFirst⟩
        exact ⟨(level, fault), foldl_earliest_eq_some_iff.mpr isFirst, rfl⟩

end Meaning

/-- A node is refused with the first fault of the highest level, if its meaning has any. -/
theorem Node.value_eq_error_iff {node : Node} {fault : Fault} :
    node.value = .error fault ↔
      ∃ level, Meaning.IsFirst (level, fault) ((Meaning.ofNode node).faults 0) := by
  rw [← Meaning.firstFault_eq_some_iff, Node.value]
  split
  · next found refused => simp [refused]
  · next none => simp [none]

end AsyncTypes.Yaml

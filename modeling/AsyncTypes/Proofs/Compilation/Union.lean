import AsyncTypes.Proofs.Compilation.Fidelity
import AsyncTypes.Proofs.Expression.Structure

/-!
# The unions of the channels

The declarations of a compilation end with the unions of the channels, one for each channel and
direction in which operations carry messages, and none for any other.  The members of a union are
the interfaces of the messages, each message name once, in the order in which the operations
mention the names.  The unions take free names one after another, so no two have one name.
-/

namespace AsyncTypes

/-- The messages that the operations of a channel carry in a direction, in their order. -/
def Channel.carried (channel : Channel) (direction : Direction) : List Message :=
  (channel.operations direction).flatMap (·.messages)

namespace TypeScript

/-! ## Texts of unions -/

/-- A name stands beside an operator as it is. -/
theorem parenthesize_name {name : String} (shape : IsName name) : parenthesize name = name := by
  have passed : PassedFrom 0 name.toList := passedFrom_word 0 fun c listed =>
    isWordCharacter_of_isNameCharacter (shape.characters c listed)
  rw [parenthesize, hasOperator_of_passedFrom passed]
  rfl

/-- The union of some names is written with bars between them. -/
theorem render_unionOfNames (fallback : String) {names : List String}
    (shaped : ∀ name ∈ names, IsName name) :
    (TypeExpr.joined .union (names.map .named)).render fallback =
      String.intercalate " | " names := by
  have several : (TypeExpr.union (names.map .named)).render fallback =
      String.intercalate " | " names := by
    rw [TypeExpr.render, TypeExpr.renderMembers_eq_map, List.map_map]
    refine congrArg (String.intercalate " | ") ?_
    refine (List.map_congr_left fun name listed => ?_).trans (List.map_id names)
    exact parenthesize_name (shaped name listed)
  match names with
  | [] => exact several
  | [name] => rfl
  | first :: second :: rest => exact several

/-! ## Members -/

theorem distinctFrom_map {α β : Type} (text : β → String) (image : α → β) (seen : List String)
    (items : List α) :
    distinctFrom text seen (items.map image) =
      (distinctFrom (text ∘ image) seen items).map image := by
  induction items generalizing seen with
  | nil => rfl
  | cons item rest ih =>
      rw [List.map_cons, distinctFrom, distinctFrom, Function.comp_apply, ih, ih]
      split
      · rfl
      · rw [List.map_cons]

theorem notMem_of_mem_distinctFrom {α : Type} {text : α → String} {seen : List String}
    {items : List α} {item : α} (listed : item ∈ distinctFrom text seen items) :
    text item ∉ seen := by
  induction items generalizing seen with
  | nil => exact absurd listed List.not_mem_nil
  | cons first rest ih =>
      rw [distinctFrom] at listed
      split at listed
      · exact ih listed
      · next fresh =>
          rcases List.mem_cons.mp listed with rfl | later
          · simpa using fresh
          · exact fun before => ih later (List.mem_cons_of_mem _ before)

theorem nodup_distinctFrom (seen names : List String) : (distinctFrom id seen names).Nodup := by
  induction names generalizing seen with
  | nil => exact List.nodup_nil
  | cons name rest ih =>
      rw [distinctFrom]
      split
      · exact ih seen
      · refine List.nodup_cons.mpr ⟨fun again => ?_, ih _⟩
        exact notMem_of_mem_distinctFrom again List.mem_cons_self

/-- The distinct images of some items are the images of the distinct items, when different items
have different images. -/
theorem distinct_map_of_injective {names : List String} {image : String → String}
    (injective : ∀ name ∈ names, ∀ other ∈ names, image name = image other → name = other) :
    distinct id (names.map image) = names.eraseDups.map image := by
  have same := @map_distinct _ _ _ _ image id names fun name listed other also =>
    ⟨injective name listed other also, congrArg image⟩
  rw [List.map_id, List.map_id] at same
  rw [← same, distinct, distinctFrom_map]
  rfl

variable {task : Task} {state : Compilation}

/-- The members of the union for some operations: the interfaces of the names of their messages,
each name once, in the order of the first mentions. -/
theorem unionMembers_eq {messages : List Message} (collected : Collected task messages state)
    {channel : Channel} {direction : Direction}
    (known : ∀ message ∈ channel.carried direction, message ∈ messages) :
    (Task.unionMembers state (channel.operations direction)).map some =
      (((channel.carried direction).map (·.name)).eraseDups).map state.messageName? := by
  let interface := fun name => (state.messageName? name).getD ""
  have named : ∀ name ∈ (channel.carried direction).map (·.name),
      state.messageName? name = some (interface name) := by
    intro name listed
    obtain ⟨message, member, rfl⟩ := List.mem_map.mp listed
    obtain ⟨first, found⟩ := firstNamed?_isSome (known message member)
    obtain ⟨own, given, -⟩ := collected.carries _ first found
    simp [interface, given]
  have injective : ∀ name ∈ (channel.carried direction).map (·.name),
      ∀ other ∈ (channel.carried direction).map (·.name),
        interface name = interface other → name = other := by
    intro name listed other also same
    have equal := named other also
    rw [← same] at equal
    exact collected.name_eq (named name listed) equal
  have members : Task.unionMembers state (channel.operations direction) =
      (((channel.carried direction).map (·.name)).eraseDups).map interface := by
    rw [← distinct_map_of_injective injective, Task.unionMembers, List.map_map,
      ← List.filterMap_eq_map]
    refine congrArg (distinct id) (List.filterMap_congr fun message listed => ?_)
    exact named _ (List.mem_map_of_mem listed)
  rw [members, List.map_map]
  refine List.map_congr_left fun name listed => ?_
  exact (named name (List.mem_eraseDups.mp listed)).symm

/-! ## One union -/

/-- The name that a union would have if it were free. -/
def wantedName (place : Channel × Direction) : String :=
  declarationName place.1.name (Task.unionEnding place.2)

/-- The declaration is a union of interfaces: those of the names of the messages that the channel
carries in the direction, each name once, in the order of the first mentions.  Its text has bars
between them. -/
def Unites (interface? : String → Option String) (place : Channel × Direction)
    (declaration : Declaration) : Prop :=
  ∃ members : List String, members ≠ [] ∧ members.Nodup ∧
    members.map some = (((place.1.carried place.2).map (·.name)).eraseDups).map interface? ∧
    declaration = .alias declaration.name none (TypeExpr.joined .union (members.map .named)) ∧
    ∀ options : Options, declaration.render options =
      options.exportWord ++ "type " ++ declaration.name ++ " = " ++
        String.intercalate " | " members ++ ";"

section

variable {messages : List Message} {channel : Channel} {direction : Direction}

theorem unionMembers_eq_nil_iff (collected : Collected task messages state)
    (known : ∀ message ∈ channel.carried direction, message ∈ messages) :
    Task.unionMembers state (channel.operations direction) = [] ↔
      channel.carried direction = [] := by
  have same := unionMembers_eq collected known
  constructor
  · intro nothing
    rw [nothing, List.map_nil] at same
    have erased := List.map_eq_nil_iff.mp same.symm
    by_contra carries
    obtain ⟨message, listed⟩ := List.exists_mem_of_ne_nil _ carries
    have named := List.mem_eraseDups.mpr (List.mem_map_of_mem (f := (·.name)) listed)
    rw [erased] at named
    exact absurd named List.not_mem_nil
  · intro nothing
    rw [nothing] at same
    exact List.map_eq_nil_iff.mp same

/-- The union of a channel in a direction, in a state in which all messages are collected. -/
theorem unites_unionOf (sound : Sound task state) (collected : Collected task messages state)
    (known : ∀ message ∈ channel.carried direction, message ∈ messages)
    (carries : channel.carried direction ≠ []) :
    Unites state.messageName? (channel, direction) (Task.unionOf state channel direction) := by
  have shaped : ∀ name ∈ Task.unionMembers state (channel.operations direction), IsName name :=
    fun name member => sound.accounts.usedShaped name (sound.accounts.namesUsed name
      (mem_names_of_mem_unionMembers collected.declared member))
  refine ⟨_, mt (unionMembers_eq_nil_iff collected known).mp carries, nodup_distinctFrom [] _,
    unionMembers_eq collected known, rfl, fun options => ?_⟩
  rw [Task.unionOf, Declaration.render, render_unionOfNames _ shaped]
  rfl

end

/-! ## All unions -/

/-- The channels with both their directions, in the order in which the unions are declared. -/
def places (channels : List Channel) : List (Channel × Direction) :=
  channels.flatMap fun channel => [(channel, .send), (channel, .receive)]

/-- Operations of the channel carry messages in the direction. -/
def moves (place : Channel × Direction) : Bool :=
  !(place.1.carried place.2).isEmpty

/-- Declare the unions of some channels and directions in order. -/
def declarePlaces : List (Channel × Direction) → Compile Unit
  | [] => return ()
  | place :: rest => do
      Task.declareUnion place.1 place.2
      declarePlaces rest

theorem declareAllUnions_eq (channels : List Channel) :
    Task.declareAllUnions channels = declarePlaces (places channels) := by
  induction channels with
  | nil => rfl
  | cons channel rest ih =>
      rw [Task.declareAllUnions, ih, Task.declareUnions, bind_assoc]
      rfl

theorem run_declareUnion_nil {channel : Channel} {direction : Direction}
    (nothing : Task.unionMembers state (channel.operations direction) = []) :
    (Task.declareUnion channel direction).run state = ((), state) := by
  change (if (Task.unionMembers state (channel.operations direction)).isEmpty then _ else _ :
    Compile Unit).run state = _
  rw [if_pos (List.isEmpty_iff.mpr nothing)]
  rfl

/-- The unions are declared one after another, each under the next free name. -/
theorem exists_unions {messages : List Message} (sound : Sound task state)
    (collected : Collected task messages state) (some : List (Channel × Direction))
    (known : ∀ place ∈ some, ∀ message ∈ place.1.carried place.2, message ∈ messages) :
    ∃ unions : List Declaration,
      ((declarePlaces some).run state).2.declarations = state.declarations ++ unions ∧
      unions.map (·.name) = freeNames state.used ((some.filter moves).map wantedName) ∧
      List.Forall₂ (Unites state.messageName?) (some.filter moves) unions := by
  induction some generalizing state with
  | nil => exact ⟨[], (List.append_nil _).symm, rfl, .nil⟩
  | cons place rest ih =>
      obtain ⟨channel, direction⟩ := place
      obtain ⟨here, later⟩ := List.forall_mem_cons.mp known
      have keeps := keeps_declareUnion sound collected.declared channel direction
      have same : Compilation.SameMessages state _ := leads_declareUnion channel direction state
      obtain ⟨unions, grown, names, unite⟩ :=
        ih keeps.sound (collected.mono same keeps.extension.declarations) later
      have interfaces : ((Task.declareUnion channel direction).run state).2.messageName? =
          state.messageName? := by
        funext name
        rw [Compilation.messageName?, same, Compilation.messageName?]
      have run : (declarePlaces ((channel, direction) :: rest)).run state =
          (declarePlaces rest).run ((Task.declareUnion channel direction).run state).2 := rfl
      rw [interfaces] at unite
      rw [run]
      by_cases carries : channel.carried direction = []
      · -- A direction without messages leaves the state as it is.
        have still : moves (channel, direction) = false := by simp [moves, carries]
        have unchanged :=
          run_declareUnion_nil ((unionMembers_eq_nil_iff collected here).mpr carries)
        rw [unchanged] at grown names ⊢
        rw [List.filter_cons_of_neg (Bool.eq_false_iff.mp still)]
        exact ⟨unions, grown, names, unite⟩
      · have more : moves (channel, direction) = true := by simp [moves, carries]
        have declared :=
          run_declareUnion sound (mt (unionMembers_eq_nil_iff collected here).mp carries)
        rw [declared] at grown names ⊢
        rw [List.filter_cons_of_pos more]
        refine ⟨Task.unionOf state channel direction :: unions, ?_, ?_, ?_⟩
        · rw [grown]
          exact List.append_assoc _ _ _
        · exact congrArg (_ :: ·) names
        · exact .cons (unites_unionOf sound collected here carries) unite

/-! ## Results -/

/-- After everything else is declared, one union is declared for each channel and direction in
which operations carry messages, in the order of the channels and sending before receiving, and
nothing for any other.  The members of a union are the interfaces of the names of these messages,
each once, in the order in which the operations mention them first.  Every message that an
operation carries has an interface, and all interfaces are declared before the unions.  The
unions take free names in order, so that no two of them have one name, nor has a union the name
of any other declaration. -/
theorem channel_unions_exact {document : Document} (distinct : document.KeysDistinct)
    (options : Options) :
    let task := Task.ofDocument document options
    let gathered := (task.gather.run task.start).2
    let final := compile document options
    let moving := (places document.channels).filter moves
    (∃ unions, final.declarations = gathered.declarations ++ unions ∧
      List.Forall₂ (Unites final.messageName?) moving unions ∧
      unions.map (·.name) = freeNames gathered.used (moving.map wantedName)) ∧
    (∀ channel ∈ document.channels, ∀ direction, ∀ message ∈ channel.carried direction,
      ∃ first interface, firstNamed? task.messages message.name = some first ∧
        final.messageName? message.name = some interface ∧
        Carries task gathered first interface) ∧
    (∀ entry ∈ final.messageNames, entry.2 ∈ gathered.names) ∧
    final.names.Nodup := by
  intro task gathered final moving
  have coherent := Task.coherent_ofDocument distinct options
  have keeps := keeps_gather coherent
  have collected : Collected task task.messages gathered := keeps.result.2
  have same : Compilation.SameMessages gathered final := leads_declareAllUnions document.channels _
  have interfaces : final.messageName? = gathered.messageName? := by
    funext name
    rw [Compilation.messageName?, same, Compilation.messageName?]
  have listed : ∀ channel ∈ document.channels, ∀ direction,
      ∀ message ∈ channel.carried direction, message ∈ task.messages := by
    intro channel member direction message carried
    obtain ⟨operation, operates, moves⟩ := List.mem_flatMap.mp carried
    exact List.mem_append_right _
      (List.mem_flatMap.mpr ⟨channel, member, mem_channelMessages operates moves⟩)
  have ofChannel : ∀ place ∈ places document.channels, place.1 ∈ document.channels := by
    intro place member
    obtain ⟨channel, inside, either⟩ := List.mem_flatMap.mp member
    have own : place.1 = channel := by
      rcases List.mem_cons.mp either with rfl | second
      · rfl
      · rw [List.mem_singleton.mp second]
    exact own ▸ inside
  refine ⟨?_, ?_, ?_, (sound_compile distinct options).accounts.namesDistinct⟩
  · obtain ⟨unions, grown, names, unite⟩ := exists_unions keeps.sound collected
      (places document.channels) fun place member => listed _ (ofChannel place member) _
    refine ⟨unions, ?_, interfaces ▸ unite, names⟩
    rw [← grown, ← declareAllUnions_eq]
    rfl
  · intro channel member direction message carried
    obtain ⟨first, found⟩ := firstNamed?_isSome (listed channel member direction message carried)
    obtain ⟨interface, named, carries⟩ := collected.carries _ first found
    exact ⟨first, interface, found, interfaces ▸ named, carries⟩
  · rw [same]
    exact collected.declared

/-- Two channels with keys that give one name, each of which sends an event. -/
def twoSignups : Document :=
  ⟨"Accounts", "1", none, "3.0.0",
    [sender "user/signup" (event (nodeOfType "string")),
      sender "user-signup" (event (nodeOfType "string"))], [], [], []⟩

theorem twoSignups_unions_exact :
    twoSignups.KeysDistinct ∧ ∃ unions,
      (compile twoSignups .default).declarations =
        (((Task.ofDocument twoSignups .default).gather.run
          (Task.ofDocument twoSignups .default).start).2).declarations ++ unions ∧
      unions.map (·.name) = ["UserSignupSendMessages", "UserSignupSendMessages2"] := by
  have distinct : twoSignups.KeysDistinct := by decide
  obtain ⟨⟨unions, declared, -, names⟩, -⟩ := channel_unions_exact distinct .default
  exact ⟨distinct, unions, declared, names⟩

end TypeScript

end AsyncTypes

import AsyncTypes.Proofs.Compilation.Account

/-!
# What a channel says about its messages

The union of a channel in a direction mentions an interface for every message that one of
its operations moves.  A message goes by its name: the interface is that of the first
message of the name, among those of the components and then those of the channels and
their operations.  Messages of different names have different interfaces.
-/

namespace AsyncTypes.TypeScript

variable {task : Task} {state after : Compilation}

/-! ## Unions -/

namespace Task

/-- The state in which the union of a channel in a direction is declared: the unions of the
channels before it are declared, and that of the direction before it. -/
def beforeUnion (task : Task) (earlier : List Channel) (channel : Channel) :
    Direction → Compilation
  | .send => ((do
      task.gather
      declareAllUnions earlier).run task.start).2
  | .receive => ((do
      task.gather
      declareAllUnions earlier
      declareUnion channel .send).run task.start).2

/-- The union of the messages that a channel moves in a direction. -/
def unionOf (state : Compilation) (channel : Channel) (direction : Direction) : Declaration :=
  .alias (freeName state.used (declarationName channel.name (unionEnding direction))) none
    (TypeExpr.joined .union
      ((unionMembers state (channel.operations direction)).map .named))

end Task

/-- The members of a union are the interfaces of the messages. -/
theorem mem_unionMembers {operations : List Operation} {operation : Operation}
    {message : Message} {interface : String} (operates : operation ∈ operations)
    (moves : message ∈ operation.messages)
    (named : state.messageName? message.name = some interface) :
    interface ∈ Task.unionMembers state operations := by
  have listed : interface ∈ (operations.flatMap (·.messages)).filterMap fun message =>
      state.messageName? message.name :=
    List.mem_filterMap.mpr ⟨message, List.mem_flatMap.mpr ⟨operation, operates, moves⟩, named⟩
  obtain ⟨kept, member, same⟩ := exists_mem_distinct id listed
  exact (id same : kept = interface) ▸ member

/-- A union with members takes a free name and is declared. -/
theorem run_declareUnion (sound : Sound task state) {channel : Channel} {direction : Direction}
    (some : Task.unionMembers state (channel.operations direction) ≠ []) :
    (Task.declareUnion channel direction).run state =
      ((), (state.withUsed (freeName state.used
        (declarationName channel.name (Task.unionEnding direction)))).withDeclaration
          (Task.unionOf state channel direction)) := by
  let name := freeName state.used (declarationName channel.name (Task.unionEnding direction))
  have free : name ∉ state.used := freeName_notMem state.used _
  have undeclared : name ∉ (state.withUsed name).names := fun declared =>
    free (sound.accounts.namesUsed name declared)
  rw [← run_declare undeclared]
  change (if (Task.unionMembers state (channel.operations direction)).isEmpty then _ else _ :
    Compile Unit).run state = _
  rw [if_neg (mt List.isEmpty_iff.mp some)]
  rfl

/-- A union with a member is declared, and it mentions the member. -/
theorem unionOf_declared (sound : Sound task state) {channel : Channel} {direction : Direction}
    {interface : String}
    (member : interface ∈ Task.unionMembers state (channel.operations direction)) :
    Task.unionOf state channel direction ∈
        ((Task.declareUnion channel direction).run state).2.declarations ∧
      (Task.unionOf state channel direction).Mentions interface := by
  constructor
  · rw [run_declareUnion sound (List.ne_nil_of_mem member)]
    exact List.mem_append_right _ (List.mem_singleton.mpr rfl)
  · refine ⟨_, List.mem_singleton.mpr rfl, ?_⟩
    rw [TypeExpr.Mentions, leaves_unionOfNames]
    exact List.mem_map_of_mem member

/-- The unions of some channels are declared one after another. -/
theorem declareAllUnions_append (earlier later : List Channel) :
    Task.declareAllUnions (earlier ++ later) =
      Task.declareAllUnions earlier >>= fun _ => Task.declareAllUnions later := by
  induction earlier with
  | nil => rfl
  | cons channel rest ih =>
      rw [List.cons_append, Task.declareAllUnions, ih, Task.declareAllUnions, bind_assoc]

/-- Before the union of a channel is declared, the state is sound, and all messages are
collected. -/
theorem beforeUnion_collected (coherent : task.Coherent) (earlier : List Channel)
    (channel : Channel) (direction : Direction) :
    Sound task (task.beforeUnion earlier channel direction) ∧
      Collected task task.messages (task.beforeUnion earlier channel direction) := by
  have gathered := keeps_gather coherent
  have unions := keeps_declareAllUnions earlier gathered.sound gathered.result.2.declared
  have collected := gathered.result.2.mono (leads_declareAllUnions earlier _)
    unions.extension.declarations
  cases direction with
  | send => exact ⟨unions.sound, collected⟩
  | receive =>
      have send := keeps_declareUnion unions.sound collected.declared channel .send
      exact ⟨send.sound, collected.mono (leads_declareUnion channel .send _)
        send.extension.declarations⟩

/-- What a relation leads along from the union of a channel to the end. -/
theorem leads_from_declareUnion {relation : Compilation → Compilation → Prop}
    [Respected relation] (task : Task) {earlier later : List Channel} {channel : Channel}
    (split : task.document.channels = earlier ++ channel :: later) (direction : Direction) :
    relation ((Task.declareUnion channel direction).run
      (task.beforeUnion earlier channel direction)).2 (task.collect.run task.start).2 := by
  rw [collect_eq_gather, split, declareAllUnions_append]
  cases direction with
  | send =>
      exact ((leads_declareUnion channel .receive).bind fun _ => leads_declareAllUnions later) _
  | receive => exact leads_declareAllUnions later _

/-! ## Results -/

/-- The messages that an operation of a channel moves are among those of the channel. -/
theorem mem_channelMessages {channel : Channel} {direction : Direction} {operation : Operation}
    {message : Message} (operates : operation ∈ channel.operations direction)
    (moves : message ∈ operation.messages) : message ∈ Task.channelMessages channel := by
  have either : operation ∈ channel.send ++ channel.receive := by
    cases direction with
    | send => exact List.mem_append_left _ operates
    | receive => exact List.mem_append_right _ operates
  exact List.mem_append_right _ (List.mem_flatMap.mpr ⟨operation, either, moves⟩)

theorem firstNamed?_isSome {messages : List Message} {message : Message}
    (listed : message ∈ messages) : ∃ first, firstNamed? messages message.name = some first := by
  apply Option.isSome_iff_exists.mp
  rw [firstNamed?, List.find?_isSome]
  exact ⟨message, listed, beq_self_eq_true _⟩

/-- Messages with one interface have one name. -/
theorem Collected.name_eq {messages : List Message} (collected : Collected task messages state)
    {name other interface : String} (named : state.messageName? name = some interface)
    (also : state.messageName? other = some interface) : name = other := by
  obtain ⟨first, found, rfl⟩ := Option.map_eq_some_iff.mp named
  obtain ⟨second, foundSecond, same⟩ := Option.map_eq_some_iff.mp also
  have equal := List.inj_on_of_nodup_map collected.distinct (List.mem_of_find?_eq_some foundSecond)
    (List.mem_of_find?_eq_some found) same
  have firstName : first.1 = name := by simpa using List.find?_some found
  have secondName : second.1 = other := by simpa using List.find?_some foundSecond
  rw [← firstName, ← secondName, equal]

/-- The union of a channel in a direction is declared when one of its operations moves a
message, and it mentions the interface of the message, which is that of the first message of
the name.  The payload and the headers of that message are declared for it.  Messages of
different names have different interfaces. -/
theorem union_mentions_first_messages {document : Document} (distinct : document.KeysDistinct)
    (options : Options) :
    let task := Task.ofDocument document options
    let final := compile document options
    (∀ earlier channel later, document.channels = earlier ++ channel :: later →
      ∀ direction, ∀ operation ∈ channel.operations direction,
        ∀ message ∈ operation.messages, ∃ first interface,
          firstNamed? task.messages message.name = some first ∧
            final.messageName? message.name = some interface ∧
            Task.unionOf (task.beforeUnion earlier channel direction) channel direction ∈
              final.declarations ∧
            (Task.unionOf (task.beforeUnion earlier channel direction) channel
              direction).Mentions interface ∧
            Carries task final first interface) ∧
      ∀ name other interface, final.messageName? name = some interface →
        final.messageName? other = some interface → name = other := by
  intro task final
  have coherent := Task.coherent_ofDocument distinct options
  constructor
  · intro earlier channel later split direction operation operates message moves
    obtain ⟨sound, collected⟩ := beforeUnion_collected coherent earlier channel direction
    have listed : message ∈ task.messages := by
      have inside : channel ∈ document.channels := split ▸ List.mem_append_right _ List.mem_cons_self
      exact List.mem_append_right _
        (List.mem_flatMap.mpr ⟨channel, inside, mem_channelMessages operates moves⟩)
    obtain ⟨first, found⟩ := firstNamed?_isSome listed
    obtain ⟨interface, named, carries⟩ := collected.carries _ first found
    obtain ⟨declared, mentions⟩ := unionOf_declared sound (mem_unionMembers operates moves named)
    let before := task.beforeUnion earlier channel direction
    obtain ⟨-, grown⟩ : Compilation.SteadyTo _ final := leads_from_declareUnion task split direction
    obtain ⟨-, added⟩ : Compilation.SteadyTo before _ := leads_declareUnion channel direction before
    have same : Compilation.SameMessages before final :=
      Respected.trans (leads_declareUnion channel direction before)
        (leads_from_declareUnion task split direction)
    have still : final.messageName? message.name = some interface := by
      rw [Compilation.messageName?, same]
      exact named
    exact ⟨first, interface, found, still, grown.subset declared, mentions,
      carries.mono (added.trans grown)⟩
  · have gathered := (keeps_gather coherent).result.2
    obtain ⟨-, grown⟩ : Compilation.SteadyTo (task.gather.run task.start).2 final :=
      leads_declareAllUnions document.channels _
    have collected : Collected task task.messages final :=
      gathered.mono (leads_declareAllUnions document.channels _) grown
    intro name other interface named also
    exact collected.name_eq named also

/-- A node of a type name. -/
def nodeOfType (typeName : String) : SchemaNode :=
  .schema ⟨none, none⟩ [] ⟨none, none, none⟩ ⟨.single typeName, none, [], none, .absent⟩

/-- A message without headers. -/
def event (payload : SchemaNode) : Message :=
  ⟨"event", none, payload, none⟩

/-- A channel that sends a message of its own. -/
def sender (name : String) (message : Message) : Channel :=
  ⟨name, none, none, [message], [⟨"publish", .send, name, [message], none⟩], []⟩

/-- Two channels that each send an event: the one a text, the other a number. -/
def twoEvents : Document :=
  ⟨"Events", "1", none, "3.0.0",
    [sender "orders" (event (nodeOfType "string")), sender "stock" (event (nodeOfType "number"))],
    [], [], []⟩

theorem declarations_twoEvents :
    (compile twoEvents .default).declarations =
      [.alias "EventPayload" none (.keyword "string"),
        .interface "EventMessage" none [⟨"payload", false, none, .named "EventPayload"⟩] none,
        .alias "OrdersSendMessages" none (.named "EventMessage"),
        .alias "StockSendMessages" none (.named "EventMessage")] := by
  rfl

theorem twoEvents_mentions_first_messages :
    twoEvents.KeysDistinct ∧
      Carries (Task.ofDocument twoEvents .default) (compile twoEvents .default)
        (event (nodeOfType "string")) "EventMessage" := by
  have distinct : twoEvents.KeysDistinct := by decide
  have stock := (union_mentions_first_messages distinct .default).1
    [sender "orders" (event (nodeOfType "string"))] _ [] rfl .send _ List.mem_cons_self
    (event (nodeOfType "number")) List.mem_cons_self
  obtain ⟨first, interface, found, named, -, -, carries⟩ := stock
  have text : first = event (nodeOfType "string") := (Option.some.inj found).symm
  have shared : (compile twoEvents .default).messageName? "event" = some "EventMessage" := by rfl
  have same : interface = "EventMessage" := Option.some.inj (named.symm.trans shared)
  rw [text, same] at carries
  exact ⟨distinct, carries⟩

/-- The event with a number goes by the interface of the event with a text, and no interface
is declared for a number. -/
theorem twoEvents_share_interface :
    (∃ channel ∈ twoEvents.channels, ∃ operation ∈ channel.operations .send,
        event (nodeOfType "number") ∈ operation.messages) ∧
      (∀ interface, ¬ Carries (Task.ofDocument twoEvents .default) (compile twoEvents .default)
        (event (nodeOfType "number")) interface) ∧
      (event (nodeOfType "string")).payload ≠ (event (nodeOfType "number")).payload ∧
      .alias "OrdersSendMessages" none (.named "EventMessage") ∈
        (compile twoEvents .default).declarations ∧
      .alias "StockSendMessages" none (.named "EventMessage") ∈
        (compile twoEvents .default).declarations := by
  refine ⟨?_, ?_, ?_, by simp [declarations_twoEvents], by simp [declarations_twoEvents]⟩
  · exact ⟨_, List.mem_cons_of_mem _ List.mem_cons_self, _, List.mem_cons_self, List.mem_cons_self⟩
  · rintro interface ⟨payload, headers, declares⟩
    obtain ⟨before, middle, -, -, declaration, run, -, listed⟩ := declares.payload
    have number : declaration = .alias payload none (.keyword "number") :=
      (congrArg Prod.fst run).symm
    have member := listed.subset (List.mem_append_right _ (List.mem_singleton.mpr rfl))
    rw [number, declarations_twoEvents] at member
    simp at member
  · simp [event, nodeOfType]

end AsyncTypes.TypeScript

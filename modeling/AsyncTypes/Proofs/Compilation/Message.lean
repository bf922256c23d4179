import AsyncTypes.Proofs.Compilation.Component
import AsyncTypes.Proofs.Compilation.Growth

/-!
# Messages keep a state sound

A message is declared by its payload, its headers and an interface for them, under names
that are taken for it.  Of the messages of one name the first is declared, and the others
go by its interface.
-/

namespace AsyncTypes.TypeScript

variable {task : Task} {own : List String} {state after later : Compilation}

/-! ## Nodes under names of their own -/

/-- The declaration under a name is compiled from a node: in a sound state without active
components the node gives the declaration, and it is collected next. -/
def CompiledFrom (task : Task) (after : Compilation) (name : String) (node : SchemaNode) :
    Prop :=
  ∃ before middle : Compilation, Sound task before ∧ before.active = [] ∧
    ∃ declaration, (declarationOf task task.reference name node).run before =
        (declaration, middle) ∧
      declaration.name = name ∧ middle.declarations ++ [declaration] <+: after.declarations

namespace CompiledFrom

variable {name : String} {node : SchemaNode}

theorem mono (compiled : CompiledFrom task after name node)
    (grown : after.declarations <+: later.declarations) : CompiledFrom task later name node := by
  obtain ⟨before, middle, sound, idle, declaration, run, named, listed⟩ := compiled
  exact ⟨before, middle, sound, idle, declaration, run, named, listed.trans grown⟩

theorem mem_names (compiled : CompiledFrom task after name node) : name ∈ after.names := by
  obtain ⟨before, middle, -, -, declaration, -, named, listed⟩ := compiled
  have collected := listed.subset (List.mem_append_right _ (List.mem_singleton.mpr rfl))
  exact Compilation.mem_names_iff.mpr ⟨declaration, collected, named⟩

end CompiledFrom

/-- A node is declared under a pending name. -/
theorem keeps_declareNode (coherent : task.Coherent) (sound : Sound task state)
    (idle : state.active = []) {name : String} (pending : Pending task state name)
    (node : SchemaNode) :
    Keeps task [name] state (declareNode task task.reference name node) fun _ after =>
      CompiledFrom task after name node := by
  have shape := sound.accounts.usedShaped name pending.taken
  have body := keeps_declarationOf coherent (resolves_reference coherent) shape node
    (fun _ _ _ place => nomatch place) sound idle
  apply (body.ran.around (by simp) [name] (by simpa using pending)).bind
  rintro declaration middle soundMiddle _ ⟨waiting, run, renders⟩
  have named := renders.named
  subst named
  have waits := waiting _ List.mem_cons_self
  refine (keeps_declare soundMiddle declaration waits List.mem_cons_self
    renders.declarable).ran.consequence ?_
  rintro _ last _ _ ⟨declared, -⟩
  rw [run_declare waits.undeclared] at declared
  cases declared
  exact ⟨state, middle, sound, idle, declaration, run, rfl, List.prefix_refl _⟩

/-! ## Parts of a message -/

/-- The interface of a message mentions its payload and its headers. -/
theorem declarable_messageInterface {name payload : String} {description : Option String}
    {headers : Option String} (used : ∀ part ∈ payload :: headers.toList, part ∈ state.used)
    (sound : Sound task state) :
    Declarable state (Task.messageInterface name description payload headers) := by
  have types : (Task.messageInterface name description payload headers).types =
      (payload :: headers.toList).map .named := by
    cases headers <;> rfl
  refine ⟨?_, ?_, fun aliased => Bool.noConfusion aliased⟩
  · intro type listed
    rw [types] at listed
    obtain ⟨part, member, rfl⟩ := List.mem_map.mp listed
    exact TypeExpr.writable_named (sound.accounts.usedShaped part (used part member))
  · rintro other ⟨type, listed, mentions⟩
    rw [types] at listed
    obtain ⟨part, member, rfl⟩ := List.mem_map.mp listed
    have same : other = part := by simpa [TypeExpr.Mentions] using mentions
    exact same ▸ used part member

/-- A message is declared by its interface and by the declarations for its parts: one for
its payload and one for its headers, if it has any. -/
structure DeclaresParts (task : Task) (after : Compilation) (message : Message)
    (interface payload : String) (headers : Option String) : Prop where
  interface : Task.messageInterface interface message.description payload headers ∈
    after.declarations
  payload : CompiledFrom task after payload message.payload
  isSome : headers.isSome = message.headers.isSome
  headers : ∀ name ∈ headers, ∀ node ∈ message.headers, CompiledFrom task after name node

namespace DeclaresParts

variable {message : Message} {interface payload : String} {headers : Option String}

theorem mono (declares : DeclaresParts task after message interface payload headers)
    (grown : after.declarations <+: later.declarations) :
    DeclaresParts task later message interface payload headers where
  interface := grown.subset declares.interface
  payload := declares.payload.mono grown
  isSome := declares.isSome
  headers := fun name given node has => (declares.headers name given node has).mono grown

theorem interface_mem_names
    (declares : DeclaresParts task after message interface payload headers) :
    interface ∈ after.names :=
  Compilation.mem_names_iff.mpr ⟨_, declares.interface, rfl⟩

theorem headers_mem_names
    (declares : DeclaresParts task after message interface payload headers) {name : String}
    (given : name ∈ headers) : name ∈ after.names := by
  have some : message.headers.isSome = true := declares.isSome ▸ Option.isSome_of_mem given
  obtain ⟨node, has⟩ := Option.isSome_iff_exists.mp some
  exact (declares.headers name given node has).mem_names

end DeclaresParts

/-- The parts of a message without headers are declared under pending names. -/
theorem keeps_declareParts_none (coherent : task.Coherent) (sound : Sound task state)
    (idle : state.active = []) (message : Message) (without : message.headers = none)
    {payload name : String} (apart : name ≠ payload)
    (payloadPending : Pending task state payload) (namePending : Pending task state name) :
    Keeps task [name, payload] state (task.declareParts message payload none name)
      fun _ after => DeclaresParts task after message name payload none := by
  have first := keeps_declareNode coherent sound idle payloadPending message.payload
  apply (first.around (by simp) [name] (by simpa [apart] using namePending)).bind
  rintro _ after soundAfter _ ⟨waiting, compiled⟩
  have used := soundAfter.accounts.namesUsed _ compiled.mem_names
  refine (keeps_declare soundAfter (Task.messageInterface name message.description payload none)
    (waiting name List.mem_cons_self) List.mem_cons_self
    (declarable_messageInterface (by simpa using used) soundAfter)).consequence ?_
  intro _ last _ extension listed
  exact {
    interface := listed
    payload := compiled.mono extension.declarations
    isSome := by rw [without]; rfl
    headers := fun _ given => nomatch given }

/-- The parts of a message with headers are declared under pending names. -/
theorem keeps_declareParts_some (coherent : task.Coherent) (sound : Sound task state)
    (idle : state.active = []) (message : Message) {payload headers name : String}
    {node : SchemaNode} (has : message.headers = some node) (headersApart : headers ≠ payload)
    (nameApart : name ∉ [headers, payload]) (payloadPending : Pending task state payload)
    (headersPending : Pending task state headers) (namePending : Pending task state name) :
    Keeps task [name, headers, payload] state
      (task.declareParts message payload (some (headers, node)) name) fun _ after =>
        DeclaresParts task after message name payload (some headers) := by
  simp only [List.mem_cons, List.not_mem_nil, or_false, not_or] at nameApart
  have first := keeps_declareNode coherent sound idle payloadPending message.payload
  refine (first.around (by simp) [headers, name]
    (by simp [headersApart, nameApart, headersPending, namePending])).bind ?_
  rintro _ after soundAfter extension ⟨waiting, payloadCompiled⟩
  have second := keeps_declareNode coherent soundAfter (extension.active.trans idle)
    (waiting headers (by simp)) node
  refine (second.around (by simp) [name]
    (by simp [nameApart, waiting name (by simp)])).bind ?_
  rintro _ last soundLast further ⟨stillWaiting, headersCompiled⟩
  have payloadStill := payloadCompiled.mono further.declarations
  have used : ∀ part ∈ [payload, headers], part ∈ last.used := by
    have payloadUsed := soundLast.accounts.namesUsed _ payloadStill.mem_names
    have headersUsed := soundLast.accounts.namesUsed _ headersCompiled.mem_names
    simp [payloadUsed, headersUsed]
  refine (keeps_declare soundLast
    (Task.messageInterface name message.description payload (some headers))
    (stillWaiting name (by simp)) List.mem_cons_self
    (declarable_messageInterface used soundLast)).consequence ?_
  intro _ final _ more listed
  exact {
    interface := listed
    payload := payloadStill.mono more.declarations
    isSome := by rw [has]; rfl
    headers := by
      rintro _ ⟨⟩ other also
      rw [has] at also
      cases also
      exact headersCompiled.mono more.declarations }

/-! ## Messages -/

/-- The message has the interface, which is declared with its parts. -/
def Carries (task : Task) (after : Compilation) (message : Message) (interface : String) : Prop :=
  ∃ payload headers, DeclaresParts task after message interface payload headers

theorem Carries.mono {message : Message} {interface : String}
    (carries : Carries task after message interface)
    (grown : after.declarations <+: later.declarations) : Carries task later message interface := by
  obtain ⟨payload, headers, declares⟩ := carries
  exact ⟨payload, headers, declares.mono grown⟩

theorem Carries.mem_names {message : Message} {interface : String}
    (carries : Carries task after message interface) : interface ∈ after.names := by
  obtain ⟨payload, headers, declares⟩ := carries
  exact declares.interface_mem_names

/-- From before to after, a message is collected: its name is known, or it is declared under
a name that is new. -/
inductive Collects (task : Task) (state : Compilation) (message : Message)
    (after : Compilation) : Prop
  | repeated (known : (state.messageName? message.name).isSome = true)
      (same : after.messageNames = state.messageNames)
  | first (interface : String) (unknown : state.messageName? message.name = none)
      (named : after.messageNames = state.messageNames ++ [(message.name, interface)])
      (fresh : interface ∉ state.used) (carries : Carries task after message interface)

/-- A name that is taken in a sound state was not taken twice. -/
theorem Sound.notMem_of_withUsed {name : String} (sound : Sound task (state.withUsed name)) :
    name ∉ state.used := by
  intro before
  have distinct : (state.used ++ [name]).Nodup := sound.accounts.usedDistinct
  exact (List.nodup_append.mp distinct).2.2 name before name (List.mem_singleton.mpr rfl) rfl

/-- Under names that are taken for them, the parts of a message are declared and collect the
message. -/
theorem collects_of_declareParts {named : Compilation} {message : Message}
    {interface payload : String} {headers : Option (String × SchemaNode)}
    (unknown : state.messageName? message.name = none) (fresh : interface ∉ state.used)
    (name : named.messageNames = state.messageNames ++ [(message.name, interface)])
    (run : (task.declareParts message payload headers interface).run named = ((), after))
    (declares : DeclaresParts task after message interface payload (headers.map (·.1))) :
    Collects task state message after := by
  have same : Compilation.SameMessages named
      ((task.declareParts message payload headers interface).run named).2 :=
    leads_declareParts message payload headers interface named
  rw [run] at same
  exact .first interface unknown (Eq.trans same name) fresh ⟨payload, _, declares⟩

/-- The names for the parts of a message are names. -/
theorem isName_messagePart (message : String) {ending : String}
    (listed : ending ∈ ["Payload", "Headers", "Message"]) :
    IsName (declarationName message "" ++ ending) := by
  have base : IsName (declarationName message "") := isName_declarationName message isHighText_nil
  have letters : ∀ ending ∈ ["Payload", "Headers", "Message"],
      ending.toList.all Unicode.isNameCharacter = true := by decide
  exact base.append (List.all_eq_true.mp (letters ending listed))

/-- A message is collected while no component is active. -/
theorem keeps_collectMessage (coherent : task.Coherent) (sound : Sound task state)
    (idle : state.active = []) (message : Message) :
    Keeps task [] state (task.collectMessage message) fun _ after =>
      Collects task state message after := by
  have name : ∀ ending ∈ ["Payload", "Headers", "Message"],
      IsName (declarationName message.name "" ++ ending) :=
    fun _ listed => isName_messagePart message.name listed
  apply Keeps.get
  split
  · next known =>
      refine (keeps_notify sound (by simp)).ran.consequence ?_
      rintro _ after _ _ ⟨run, -⟩
      cases run
      exact .repeated known rfl
  · next unknown =>
      rw [Option.not_isSome_iff_eq_none] at unknown
      apply Keeps.reserve sound (name "Payload" (by simp))
      intro payload soundPayload _ payloadPending
      cases has : message.headers with
      | none =>
          simp only [pure_bind]
          apply Keeps.reserve soundPayload (name "Message" (by simp))
          intro own soundOwn others ownPending
          apply (keeps_nameMessage soundOwn message.name List.mem_cons_self).bind
          rintro _ after soundAfter extension ⟨named, waiting⟩
          obtain ⟨apart, payloadWaiting⟩ := others payload payloadPending
          refine (keeps_declareParts_none coherent soundAfter (extension.active.trans idle) message
            has apart.symm (waiting payload payloadWaiting)
            (waiting own ownPending)).ran.consequence ?_
          rintro _ last _ _ ⟨run, declares⟩
          refine ⟨declares.interface_mem_names, declares.payload.mem_names, ?_⟩
          have fresh := fun before => soundOwn.notMem_of_withUsed (List.mem_append_left _ before)
          exact collects_of_declareParts unknown fresh named run declares
      | some node =>
          simp only [pure_bind]
          apply Keeps.reserve soundPayload (name "Headers" (by simp))
          intro headers soundHeaders othersHeaders headersPending
          apply Keeps.reserve soundHeaders (name "Message" (by simp))
          intro own soundOwn othersOwn ownPending
          apply (keeps_nameMessage soundOwn message.name List.mem_cons_self).bind
          rintro _ after soundAfter extension ⟨named, waiting⟩
          obtain ⟨headersApart, payloadThen⟩ := othersHeaders payload payloadPending
          obtain ⟨payloadApart, payloadWaiting⟩ := othersOwn payload payloadThen
          obtain ⟨ownApart, headersWaiting⟩ := othersOwn headers headersPending
          refine (keeps_declareParts_some coherent soundAfter (extension.active.trans idle) message
            has headersApart.symm (by simp [ownApart.symm, payloadApart.symm])
            (waiting payload payloadWaiting) (waiting headers headersWaiting)
            (waiting own ownPending)).ran.consequence ?_
          rintro _ last _ _ ⟨run, declares⟩
          refine ⟨declares.interface_mem_names, declares.headers_mem_names rfl,
            declares.payload.mem_names, ?_⟩
          have fresh := fun before => soundOwn.notMem_of_withUsed
            (List.mem_append_left _ (List.mem_append_left _ before))
          exact collects_of_declareParts unknown fresh named run declares

/-! ## Messages one after another -/

/-- The first of the messages that has a name. -/
def firstNamed? (messages : List Message) (name : String) : Option Message :=
  messages.find? fun message => message.name == name

/-- A message that comes later is the first of its name when there is none before. -/
theorem firstNamed?_append (seen : List Message) (message : Message) (name : String) :
    firstNamed? (seen ++ [message]) name =
      (firstNamed? seen name).or (if message.name = name then some message else none) := by
  unfold firstNamed?
  rw [List.find?_append]
  by_cases same : message.name = name
  · simp [same]
  · simp [same]

/-- The interface of a message is looked up among the older ones first. -/
theorem messageName?_of_append {message interface : String}
    (named : after.messageNames = state.messageNames ++ [(message, interface)]) (name : String) :
    after.messageName? name =
      (state.messageName? name).or (if message = name then some interface else none) := by
  unfold Compilation.messageName?
  rw [named, List.find?_append]
  cases state.messageNames.find? fun entry => entry.1 == name with
  | some entry => rfl
  | none =>
      by_cases same : message = name
      · simp [same]
      · simp [same]

/-- Of the messages that are collected, the first of each name is declared, under an
interface of its own. -/
structure Collected (task : Task) (messages : List Message) (state : Compilation) : Prop where
  unknown : ∀ name, firstNamed? messages name = none → state.messageName? name = none
  carries : ∀ name first, firstNamed? messages name = some first →
    ∃ interface, state.messageName? name = some interface ∧ Carries task state first interface
  distinct : (state.messageNames.map (·.2)).Nodup
  declared : ∀ entry ∈ state.messageNames, entry.2 ∈ state.names

/-- Before any message is collected, none has a name. -/
theorem collected_nil (none : state.messageNames = []) : Collected task [] state where
  unknown := fun name _ => by simp [Compilation.messageName?, none]
  carries := fun _ _ found => nomatch found
  distinct := by simp [none]
  declared := by simp [none]

/-- What is collected stays collected while the messages keep their names. -/
theorem Collected.mono {messages : List Message} (collected : Collected task messages state)
    (same : Compilation.SameMessages state after)
    (grown : state.declarations <+: after.declarations) : Collected task messages after := by
  have names : ∀ name, after.messageName? name = state.messageName? name := by
    intro name
    rw [Compilation.messageName?, same, Compilation.messageName?]
  constructor
  · intro name missing
    rw [names]
    exact collected.unknown name missing
  · intro name first found
    rw [names]
    obtain ⟨interface, named, carries⟩ := collected.carries name first found
    exact ⟨interface, named, carries.mono grown⟩
  · rw [same]
    exact collected.distinct
  · rw [same]
    exact fun entry listed => Compilation.mem_names_mono grown (collected.declared entry listed)

/-- One message more is collected. -/
theorem Collected.append {seen : List Message} {message : Message}
    (collected : Collected task seen state) (sound : Sound task state)
    (grown : state.declarations <+: after.declarations)
    (collects : Collects task state message after) :
    Collected task (seen ++ [message]) after := by
  have kept : ∀ entry ∈ state.messageNames, entry.2 ∈ after.names := fun entry listed =>
    Compilation.mem_names_mono grown (collected.declared entry listed)
  cases collects with
  | repeated known same =>
      have still := collected.mono same grown
      have firsts : ∀ name, firstNamed? (seen ++ [message]) name = firstNamed? seen name := by
        intro name
        rw [firstNamed?_append]
        cases found : firstNamed? seen name with
        | some first => rfl
        | none =>
            have other : message.name ≠ name := by
              rintro rfl
              rw [collected.unknown _ found] at known
              exact Bool.noConfusion known
            rw [if_neg other]
            rfl
      exact {
        unknown := fun name missing => still.unknown name (firsts name ▸ missing)
        carries := fun name first found => still.carries name first (firsts name ▸ found)
        distinct := still.distinct
        declared := still.declared }
  | first interface unknown named fresh carries =>
      have names := messageName?_of_append named
      have firsts := firstNamed?_append seen message
      have apart : interface ∉ state.messageNames.map (·.2) := by
        intro repeated
        obtain ⟨entry, listed, rfl⟩ := List.mem_map.mp repeated
        exact fresh (sound.accounts.namesUsed _ (collected.declared entry listed))
      exact {
        unknown := by
          intro name missing
          rw [firsts, Option.or_eq_none_iff] at missing
          rw [names, collected.unknown name missing.1, Option.none_or]
          simpa using missing.2
        carries := by
          intro name other found
          rw [firsts] at found
          rw [names]
          cases earlier : firstNamed? seen name with
          | some first =>
              rw [earlier] at found
              obtain ⟨known, already, carriesFirst⟩ := collected.carries name first earlier
              cases found
              exact ⟨known, by rw [already]; rfl, carriesFirst.mono grown⟩
          | none =>
              rw [earlier, Option.none_or, Option.ite_none_right_eq_some] at found
              obtain ⟨rfl, ⟨⟩⟩ := found
              exact ⟨interface, by rw [unknown, if_pos rfl]; rfl, carries⟩
        distinct := by
          rw [named, List.map_append]
          exact nodup_append_singleton collected.distinct apart
        declared := by
          intro entry listed
          rw [named] at listed
          rcases List.mem_append.mp listed with before | new
          · exact kept entry before
          · rw [List.mem_singleton.mp new]
            exact carries.mem_names }

/-- Some messages are collected while no component is active. -/
theorem keeps_collectMessages (coherent : task.Coherent) (messages : List Message)
    {seen : List Message} (collected : Collected task seen state) (sound : Sound task state)
    (idle : state.active = []) :
    Keeps task [] state (task.collectMessages messages) fun _ after =>
      Collected task (seen ++ messages) after := by
  induction messages generalizing state seen with
  | nil => exact Keeps.pure sound (by simpa using collected)
  | cons message rest ih =>
      apply (keeps_collectMessage coherent sound idle message).bind
      intro _ after soundAfter extension collects
      have more := collected.append sound extension.declarations collects
      rw [List.append_cons]
      exact ih more soundAfter (extension.active.trans idle)

end AsyncTypes.TypeScript

import AsyncTypes.Proofs.Compilation.Message

/-!
# Compiling a whole document

The components, the messages and the unions of the channels are declared one after
another while no component is active.  Each of these steps keeps the state sound and
declares the names that it takes, so at the end every name that was taken is declared.
-/

namespace AsyncTypes.TypeScript

variable {task : Task} {own : List String} {state : Compilation}

/-! ## Unions of channels -/

/-- The interfaces of all messages met so far are declared. -/
def MessagesDeclared (state : Compilation) : Prop :=
  ∀ entry ∈ state.messageNames, entry.2 ∈ state.names

theorem MessagesDeclared.extend {after : Compilation} (declared : MessagesDeclared state)
    (extension : Extends task [] state after) : MessagesDeclared after := by
  intro entry member
  rcases extension.messages entry member with before | mine | declaredAfter
  · exact Compilation.mem_names_mono extension.declarations (declared entry before)
  · exact absurd mine List.not_mem_nil
  · exact declaredAfter

/-- The members of a union are interfaces of messages. -/
theorem mem_names_of_mem_unionMembers {operations : List Operation} {name : String}
    (declared : MessagesDeclared state) (member : name ∈ Task.unionMembers state operations) :
    name ∈ state.names := by
  obtain ⟨message, -, found⟩ := List.mem_filterMap.mp (mem_of_mem_distinct member)
  obtain ⟨entry, listed, rfl⟩ := Option.map_eq_some_iff.mp found
  exact declared entry (List.mem_of_find?_eq_some listed)

/-- A union of names has the names as its leaves. -/
theorem leaves_unionOfNames (names : List String) :
    (TypeExpr.joined .union (names.map .named)).leaves = names.map .named := by
  rw [TypeExpr.leaves_joined TypeExpr.leaves_union, List.flatMap_map, List.map_eq_flatMap]
  simp only [TypeExpr.leaves_named]

/-- The union of declared names is declarable. -/
theorem declarable_union (sound : Sound task state) {members : List String} {name : String}
    (declared : ∀ member ∈ members, member ∈ state.names) :
    Declarable state (.alias name none (TypeExpr.joined .union (members.map .named))) := by
  have mentioned : ∀ other, (Declaration.alias name none
      (TypeExpr.joined .union (members.map .named))).Mentions other → other ∈ state.names := by
    rintro other ⟨type, listed, mentions⟩
    rw [List.mem_singleton.mp listed, TypeExpr.Mentions, leaves_unionOfNames] at mentions
    exact declared other (by simpa using mentions)
  refine ⟨?_, fun other mentions => sound.accounts.namesUsed other (mentioned other mentions),
    fun _ => mentioned⟩
  intro type listed leaf inside
  rw [List.mem_singleton.mp listed, leaves_unionOfNames] at inside
  obtain ⟨member, among, rfl⟩ := List.mem_map.mp inside
  exact sound.accounts.usedShaped member (sound.accounts.namesUsed member (declared member among))

theorem isHighText_unionEnding (direction : Direction) :
    IsHighText (Task.unionEnding direction).toList := by
  constructor
  · cases direction <;> exact List.all_eq_true.mp (by decide)
  · cases direction <;> (rintro c ⟨⟩; rfl)

/-- The union of a channel in one direction is declared when its members are. -/
theorem keeps_declareUnion (sound : Sound task state) (declared : MessagesDeclared state)
    (channel : Channel) (direction : Direction) :
    Keeps task [] state (Task.declareUnion channel direction) fun _ _ => True := by
  apply Keeps.get
  have known : ∀ member ∈ Task.unionMembers state (channel.operations direction),
      member ∈ state.names := fun member listed => mem_names_of_mem_unionMembers declared listed
  generalize Task.unionMembers state (channel.operations direction) = members at known
  cases members with
  | nil => exact Keeps.pure sound trivial
  | cons first others =>
      simp only [List.isEmpty_cons, Bool.false_eq_true, if_false]
      apply Keeps.reserve sound
        (isName_declarationName channel.name (isHighText_unionEnding direction))
      intro name soundName _ pending
      refine (keeps_declare soundName
        (.alias name none (TypeExpr.joined .union ((first :: others).map .named))) pending
        List.mem_cons_self (declarable_union soundName known)).consequence ?_
      intro _ after _ _ listed
      exact ⟨Compilation.mem_names_iff.mpr ⟨_, listed, rfl⟩, trivial⟩

/-- The unions of some channels are declared when their members are. -/
theorem keeps_declareAllUnions (channels : List Channel) (sound : Sound task state)
    (declared : MessagesDeclared state) :
    Keeps task [] state (Task.declareAllUnions channels) fun _ _ => True := by
  induction channels generalizing state with
  | nil => exact Keeps.pure sound trivial
  | cons channel rest ih =>
      have both : Keeps task [] state (Task.declareUnions channel) fun _ _ => True := by
        apply (keeps_declareUnion sound declared channel .send).bind
        intro _ after soundAfter extension _
        exact keeps_declareUnion soundAfter (declared.extend extension) channel .receive
      apply both.bind
      intro _ after soundAfter extension _
      exact ih soundAfter (declared.extend extension)

/-! ## Components -/

/-- Some components are declared one after another. -/
theorem keeps_ensureAll (coherent : task.Coherent) (keys : List String)
    (known : ∀ key ∈ keys, ∃ name, task.schemaName? key = some name)
    (sound : Sound task state) (idle : state.active = []) :
    Keeps task [] state (task.ensureAll keys) fun _ after =>
      ∀ key ∈ keys, ∀ name, task.schemaName? key = some name → name ∈ after.names := by
  induction keys generalizing state with
  | nil => exact Keeps.pure sound (by simp)
  | cons key rest ih =>
      obtain ⟨name, named⟩ := known key List.mem_cons_self
      apply (keeps_ensureSchema coherent named sound idle).bind
      intro _ after soundAfter extension declared
      refine (ih (fun other listed => known other (List.mem_cons_of_mem key listed)) soundAfter
        (extension.active.trans idle)).consequence ?_
      intro _ last _ further others other listed otherName otherNamed
      rcases List.mem_cons.mp listed with rfl | later
      · rw [named] at otherNamed
        rw [← Option.some.inj otherNamed]
        exact Compilation.mem_names_mono further.declarations declared
      · exact others other later otherName otherNamed

/-! ## The whole compilation -/

/-- The state in which a compilation starts is sound. -/
theorem sound_start (coherent : task.Coherent) : Sound task task.start where
  accounts := {
    usedDistinct := coherent.namesDistinct
    usedShaped := by
      intro name taken
      obtain ⟨entry, listed, rfl⟩ := List.mem_map.mp taken
      exact coherent.namesShaped entry listed
    componentsUsed := fun named =>
      List.mem_map.mpr ⟨_, Task.mem_schemaNames_of_schemaName? named, rfl⟩
    namesDistinct := List.nodup_nil
    namesUsed := fun name declared => absurd declared List.not_mem_nil
    noneRefused := rfl
    activeDistinct := List.nodup_nil
    activePending := fun key active => absurd active List.not_mem_nil }
  grounded := fun declaration listed => absurd listed List.not_mem_nil
  cuts := fun given => absurd given List.not_mem_nil

/-- What is collected before the unions of the channels. -/
def Task.gather (task : Task) : Compile Unit := do
  task.ensureAll (task.document.schemas.map (·.1))
  task.collectMessages task.document.messages
  task.collectMessages (task.document.channels.flatMap channelMessages)

/-- The messages of a document in the order in which they are collected. -/
def Task.messages (task : Task) : List Message :=
  task.document.messages ++ task.document.channels.flatMap channelMessages

/-- Before the unions of the channels, every component is declared, and every message is
collected. -/
theorem keeps_gather (coherent : task.Coherent) :
    Keeps task [] task.start task.gather fun _ after =>
      (∀ key name, task.schemaName? key = some name → name ∈ after.names) ∧
        Collected task task.messages after := by
  have known : ∀ key ∈ task.document.schemas.map (·.1),
      ∃ name, task.schemaName? key = some name := by
    intro key listed
    exact Option.isSome_iff_exists.mp ((coherent.schemaName?_isSome_iff key).mpr listed)
  apply (keeps_ensureAll coherent _ known (sound_start coherent) rfl).ran.bind
  rintro _ first soundFirst extensionFirst ⟨run, components⟩
  have idleFirst : first.active = [] := extensionFirst.active
  have unnamed : first.messageNames = [] := by
    have same : Compilation.SameMessages task.start
      ((task.ensureAll (task.document.schemas.map (·.1))).run task.start).2 :=
      leads_ensureAll _ task.start
    rwa [run] at same
  apply (keeps_collectMessages coherent _ (collected_nil unnamed) soundFirst idleFirst).bind
  intro _ second soundSecond extensionSecond collected
  have idleSecond : second.active = [] := extensionSecond.active.trans idleFirst
  apply (keeps_collectMessages coherent _ collected soundSecond idleSecond).consequence
  intro _ third _ extensionThird collectedAll
  constructor
  · intro key name named
    have grown := (extensionSecond.trans extensionThird).declarations
    exact Compilation.mem_names_mono grown (components key (coherent.mem_keys named) name named)
  · exact collectedAll

/-- A compilation gathers its declarations and then declares the unions. -/
theorem collect_eq_gather (task : Task) :
    task.collect = task.gather >>= fun _ => Task.declareAllUnions task.document.channels :=
  rfl

/-- A whole compilation ends in a sound state, in which every component is declared. -/
theorem keeps_collect (coherent : task.Coherent) :
    Keeps task [] task.start task.collect fun _ after =>
      ∀ key name, task.schemaName? key = some name → name ∈ after.names := by
  rw [collect_eq_gather]
  apply (keeps_gather coherent).bind
  rintro _ after sound _ ⟨components, collected⟩
  apply (keeps_declareAllUnions _ sound collected.declared).consequence
  intro _ last _ extension _ key name named
  exact Compilation.mem_names_mono extension.declarations (components key name named)

end AsyncTypes.TypeScript

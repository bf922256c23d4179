import AsyncTypes.Proofs.Compilation.Step

/-!
# Steps that keep a state sound

A step *keeps* a state when it ends in a sound state that extends it; what it gives then
is described by a postcondition.  Every operation of a compilation has one rule.
-/

namespace AsyncTypes.TypeScript

/-- Taken in the given state, the step ends in a sound state that extends it, and the
postcondition holds of its result. -/
structure Keeps {α : Type} (task : Task) (own : List String) (state : Compilation)
    (step : Compile α) (post : α → Compilation → Prop) : Prop where
  sound : Sound task (step.run state).2
  extension : Extends task own state (step.run state).2
  result : post (step.run state).1 (step.run state).2

variable {α β : Type} {task : Task} {own : List String} {state : Compilation}

/-! ## Sequences of steps -/

theorem Keeps.pure (sound : Sound task state) {value : α}
    {post : α → Compilation → Prop} (result : post value state) :
    Keeps task own state (Pure.pure value) post :=
  ⟨sound, Extends.refl task own state, result⟩

theorem Keeps.bind {step : Compile α} {next : α → Compile β} {middle : α → Compilation → Prop}
    {post : β → Compilation → Prop} (first : Keeps task own state step middle)
    (second : ∀ value after, Sound task after → Extends task own state after →
      middle value after → Keeps task own after (next value) post) :
    Keeps task own state (step >>= next) post := by
  have rest := second _ _ first.sound first.extension first.result
  exact ⟨rest.sound, first.extension.trans rest.extension, rest.result⟩

theorem Keeps.consequence {step : Compile α} {strong post : α → Compilation → Prop}
    (keeps : Keeps task own state step strong)
    (weaken : ∀ value after, Sound task after → Extends task own state after →
      strong value after → post value after) : Keeps task own state step post :=
  ⟨keeps.sound, keeps.extension, weaken _ _ keeps.sound keeps.extension keeps.result⟩

/-- What a step gives is what its run gives. -/
theorem Keeps.ran {step : Compile α} {post : α → Compilation → Prop}
    (keeps : Keeps task own state step post) :
    Keeps task own state step fun value after =>
      step.run state = (value, after) ∧ post value after :=
  ⟨keeps.sound, keeps.extension, rfl, keeps.result⟩

/-- Names for declarations to come stay pending through a step that does not declare
them; so a step may be taken while they are. -/
theorem Keeps.around {inner : List String} {step : Compile α} {post : α → Compilation → Prop}
    (keeps : Keeps task inner state step post) (inside : ∀ name ∈ inner, name ∈ own)
    (held : List String) (pending : ∀ name ∈ held, name ∉ inner ∧ Pending task state name) :
    Keeps task own state step fun value after =>
      (∀ name ∈ held, Pending task after name) ∧ post value after where
  sound := keeps.sound
  extension := keeps.extension.widen inside
  result := by
    refine ⟨?_, keeps.result⟩
    intro name member
    obtain ⟨others, waiting⟩ := pending name member
    exact waiting.extend keeps.extension others

/-! ## Operations -/

/-- A step that begins by reading the state is what it is for that state. -/
theorem Keeps.get {next : Compilation → Compile α} {post : α → Compilation → Prop}
    (keeps : Keeps task own state (next state) post) :
    Keeps task own state (MonadState.get >>= next) post :=
  ⟨keeps.sound, keeps.extension, keeps.result⟩

theorem keeps_notify (sound : Sound task state) {notice : Notice}
    (explained : ∀ {place key fallback}, notice = .circularReference place key fallback →
      Cut task state place key fallback) :
    Keeps task own state (Compile.notify notice) fun _ after => notice ∈ after.notices :=
  ⟨sound.withNotice explained, extends_withNotice state notice,
    List.mem_append_right _ (List.mem_singleton.mpr rfl)⟩

theorem keeps_nameMessage (sound : Sound task state) (message : String) {name : String}
    (mine : name ∈ own) :
    Keeps task own state (Compile.nameMessage message name) fun _ after =>
      after.messageNames = state.messageNames ++ [(message, name)] ∧
        ∀ part, Pending task state part → Pending task after part :=
  ⟨sound.withMessage message name, extends_withMessage mine, rfl,
    fun _ pending => ⟨pending.taken, pending.undeclared, pending.hoisted⟩⟩

/-- A declaration whose name is not declared is collected. -/
theorem run_declare {declaration : Declaration} (undeclared : declaration.name ∉ state.names) :
    (Compile.declare declaration).run state = ((), state.withDeclaration declaration) := by
  have free : ¬ state.isDeclared declaration.name = true := by
    rwa [Compilation.isDeclared_iff]
  change ((), if state.isDeclared declaration.name = true then _ else _) = _
  rw [if_neg free]
  rfl

theorem keeps_declare (sound : Sound task state) (declaration : Declaration)
    (pending : Pending task state declaration.name) (mine : declaration.name ∈ own)
    (declarable : Declarable state declaration) :
    Keeps task own state (Compile.declare declaration) fun _ after =>
      declaration ∈ after.declarations := by
  have run := run_declare pending.undeclared
  constructor
  · rw [run]
    exact sound.withDeclaration pending declarable
  · rw [run]
    exact extends_withDeclaration mine
  · rw [run]
    exact List.mem_append_right _ (List.mem_singleton.mpr rfl)

/-- A step that takes a name and declares it keeps what its rest keeps, amid one name
more. -/
theorem Keeps.reserve (sound : Sound task state) {wanted : String} (shape : IsName wanted)
    {next : String → Compile α} {post : α → Compilation → Prop}
    (rest : ∀ name, Sound task (state.withUsed name) →
      (∀ part, Pending task state part →
        part ≠ name ∧ Pending task (state.withUsed name) part) →
      Pending task (state.withUsed name) name →
      Keeps task (name :: own) (state.withUsed name) (next name) fun value last =>
        name ∈ last.names ∧ post value last) :
    Keeps task own state (Compile.reserve wanted >>= next) post := by
  have free := freeName_notMem state.used wanted
  have extension : Extends task (freeName state.used wanted :: own) state
      (state.withUsed (freeName state.used wanted)) := extends_withUsed state _
  have others : ∀ part, Pending task state part → part ≠ freeName state.used wanted ∧
      Pending task (state.withUsed (freeName state.used wanted)) part := by
    intro part pending
    constructor
    · intro same
      exact free (same ▸ pending.taken)
    · exact ⟨extension.used part pending.taken, pending.undeclared, pending.hoisted⟩
  have keeps := rest _ (sound.withUsed free (shape.free state.used)) others
    (sound.pending_withUsed free)
  exact ⟨keeps.sound, (extension.trans keeps.extension).forget free keeps.result.1,
    keeps.result.2⟩

end AsyncTypes.TypeScript

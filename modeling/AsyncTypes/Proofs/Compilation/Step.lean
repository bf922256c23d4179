import AsyncTypes.Proofs.Compilation.Sound

/-!
# Steps of a compilation

A step takes a sound state to a sound state and extends it: every name that it takes is
declared when it ends, and it declares no name that was taken before but those of
components that were not active.  So a name that is reserved for a declaration stays
free until that declaration is complete.
-/

namespace AsyncTypes.TypeScript

variable {task : Task} {own : List String} {state middle after : Compilation}

/-! ## Extensions -/

/-- A name is declared, or it is one of those that are left aside. -/
def Settled (own : List String) (state : Compilation) (name : String) : Prop :=
  name ∈ own ∨ name ∈ state.names

namespace Settled

variable {name : String}

theorem mono (settled : Settled own state name)
    (grown : state.declarations <+: after.declarations) : Settled own after name :=
  settled.imp_right (Compilation.mem_names_mono grown)

theorem widen {wider : List String} (settled : Settled own state name)
    (inside : ∀ name ∈ own, name ∈ wider) : Settled wider state name :=
  settled.imp_left (inside name)

/-- A name that is declared need not be left aside. -/
theorem forget {other : String} (settled : Settled (other :: own) state name)
    (declared : other ∈ state.names) : Settled own state name := by
  rcases settled with mine | settled
  · rcases List.mem_cons.mp mine with rfl | mine
    · exact Or.inr declared
    · exact Or.inl mine
  · exact Or.inr settled

end Settled

/-- A state is extended by a step, but for the names in `own`: those may be taken and not
declared, or declared though they were taken before. -/
structure Extends (task : Task) (own : List String) (state after : Compilation) : Prop
    extends Grows task state after where
  active : after.active = state.active
  settled : ∀ name ∈ after.used, name ∈ state.used ∨ Settled own after name
  kept : ∀ name ∈ after.names, name ∈ state.names ∨ name ∈ own ∨ name ∉ state.used ∨
    ∃ key, key ∉ state.active ∧ task.schemaName? key = some name
  messages : ∀ entry ∈ after.messageNames,
    entry ∈ state.messageNames ∨ Settled own after entry.2

namespace Extends

theorem refl (task : Task) (own : List String) (state : Compilation) :
    Extends task own state state where
  toGrows := Grows.refl task state
  active := rfl
  settled := fun _ member => Or.inl member
  kept := fun _ member => Or.inl member
  messages := fun _ member => Or.inl member

theorem trans (first : Extends task own state middle) (second : Extends task own middle after) :
    Extends task own state after where
  toGrows := first.toGrows.trans second.toGrows
  active := second.active.trans first.active
  settled := by
    intro name taken
    rcases second.settled name taken with taken | rest
    · exact (first.settled name taken).imp_right (·.mono second.declarations)
    · exact Or.inr rest
  kept := by
    intro name declared
    rcases second.kept name declared with declared | mine | fresh | ⟨key, inactive, named⟩
    · exact first.kept name declared
    · exact Or.inr (Or.inl mine)
    · exact Or.inr (Or.inr (Or.inl fun taken => fresh (first.used name taken)))
    · exact Or.inr (Or.inr (Or.inr ⟨key, first.active ▸ inactive, named⟩))
  messages := by
    intro entry member
    rcases second.messages entry member with member | rest
    · exact (first.messages entry member).imp_right (·.mono second.declarations)
    · exact Or.inr rest

theorem widen {wider : List String} (extension : Extends task own state after)
    (inside : ∀ name ∈ own, name ∈ wider) : Extends task wider state after where
  toGrows := extension.toGrows
  active := extension.active
  settled := fun name taken => (extension.settled name taken).imp_right (·.widen inside)
  kept := by
    intro name declared
    rcases extension.kept name declared with before | mine | rest
    · exact Or.inl before
    · exact Or.inr (Or.inl (inside name mine))
    · exact Or.inr (Or.inr rest)
  messages := fun entry member => (extension.messages entry member).imp_right (·.widen inside)

/-- A name that a step takes and declares is not named any more. -/
theorem forget {name : String} (extension : Extends task (name :: own) state after)
    (fresh : name ∉ state.used) (declared : name ∈ after.names) :
    Extends task own state after where
  toGrows := extension.toGrows
  active := extension.active
  settled := fun other taken => (extension.settled other taken).imp_right (·.forget declared)
  kept := by
    intro other member
    rcases extension.kept other member with before | mine | rest
    · exact Or.inl before
    · rcases List.mem_cons.mp mine with rfl | mine
      · exact Or.inr (Or.inr (Or.inl fresh))
      · exact Or.inr (Or.inl mine)
    · exact Or.inr (Or.inr rest)
  messages := fun entry member =>
    (extension.messages entry member).imp_right (·.forget declared)

end Extends

/-! ## Names for declarations to come -/

/-- A name that is taken for a declaration to come, and is no component's. -/
structure Pending (task : Task) (state : Compilation) (name : String) : Prop where
  taken : name ∈ state.used
  undeclared : name ∉ state.names
  hoisted : ∀ key, task.schemaName? key ≠ some name

/-- A pending name stays pending while other names are declared. -/
theorem Pending.extend {name : String} (pending : Pending task state name)
    (extension : Extends task own state after) (others : name ∉ own) :
    Pending task after name where
  taken := extension.used name pending.taken
  undeclared := by
    intro declared
    rcases extension.kept name declared with before | mine | fresh | ⟨key, -, named⟩
    · exact pending.undeclared before
    · exact others mine
    · exact fresh pending.taken
    · exact pending.hoisted key named
  hoisted := pending.hoisted

/-! ## Sound states -/

/-- A sound state grows into a sound one when what is new about it is sound. -/
theorem Sound.grow (sound : Sound task state) (grows : Grows task state after)
    (accounts : Accounts task after)
    (declarations : ∀ declaration ∈ after.declarations,
      declaration ∈ state.declarations ∨ Grounded task after declaration)
    (notices : ∀ {place key fallback}, .circularReference place key fallback ∈ after.notices →
      .circularReference place key fallback ∈ state.notices ∨
        Cut task after place key fallback) : Sound task after where
  accounts := accounts
  grounded := by
    intro declaration listed
    rcases declarations declaration listed with before | grounded
    · exact (sound.grounded declaration before).mono grows
    · exact grounded
  cuts := by
    intro place key fallback given
    rcases notices given with before | cut
    · exact (sound.cuts before).mono grows
    · exact cut

/-! ## Taking a name -/

theorem nodup_append_singleton {names : List String} {name : String} (distinct : names.Nodup)
    (free : name ∉ names) : (names ++ [name]).Nodup := by
  rw [← List.concat_eq_append]
  exact distinct.concat free

/-- The state after a free name is taken. -/
def Compilation.withUsed (state : Compilation) (name : String) : Compilation :=
  { state with used := state.used ++ [name] }

@[simp]
theorem Compilation.names_withUsed (state : Compilation) (name : String) :
    (state.withUsed name).names = state.names :=
  rfl

theorem grows_withUsed (state : Compilation) (name : String) :
    Grows task state (state.withUsed name) where
  declarations := List.prefix_refl _
  used := fun _ member => List.mem_append_left _ member
  notices := fun _ member => member
  schedule := List.Sublist.refl _

theorem extends_withUsed (state : Compilation) (name : String) :
    Extends task (name :: own) state (state.withUsed name) where
  toGrows := grows_withUsed state name
  active := rfl
  settled := by
    intro other taken
    rcases List.mem_append.mp taken with before | mine
    · exact Or.inl before
    · exact Or.inr (Or.inl (List.mem_cons.mpr (Or.inl (List.mem_singleton.mp mine))))
  kept := fun _ member => Or.inl member
  messages := fun _ member => Or.inl member

theorem Sound.withUsed (sound : Sound task state) {name : String} (free : name ∉ state.used)
    (shape : IsName name) : Sound task (state.withUsed name) := by
  refine sound.grow (grows_withUsed state name) ?_ (fun _ listed => Or.inl listed)
    (fun given => Or.inl given)
  have accounts := sound.accounts
  exact {
    usedDistinct := nodup_append_singleton accounts.usedDistinct free
    usedShaped := by
      intro other taken
      rcases List.mem_append.mp taken with before | mine
      · exact accounts.usedShaped other before
      · rwa [List.mem_singleton.mp mine]
    componentsUsed := fun named => List.mem_append_left _ (accounts.componentsUsed named)
    namesDistinct := accounts.namesDistinct
    namesUsed := fun other declared => List.mem_append_left _ (accounts.namesUsed other declared)
    noneRefused := accounts.noneRefused
    activeDistinct := accounts.activeDistinct
    activePending := accounts.activePending }

/-- A free name that is taken is pending. -/
theorem Sound.pending_withUsed (sound : Sound task state) {name : String}
    (free : name ∉ state.used) : Pending task (state.withUsed name) name where
  taken := List.mem_append_right _ (List.mem_singleton.mpr rfl)
  undeclared := fun declared => free (sound.accounts.namesUsed name declared)
  hoisted := fun _ named => free (sound.accounts.componentsUsed named)

/-! ## Giving notice -/

/-- The state after a notice. -/
def Compilation.withNotice (state : Compilation) (notice : Notice) : Compilation :=
  { state with notices := state.notices ++ [notice] }

theorem extends_withNotice (state : Compilation) (notice : Notice) :
    Extends task own state (state.withNotice notice) where
  declarations := List.prefix_refl _
  used := fun _ member => member
  notices := fun _ member => List.mem_append_left _ member
  schedule := List.Sublist.refl _
  active := rfl
  settled := fun _ taken => Or.inl taken
  kept := fun _ member => Or.inl member
  messages := fun _ member => Or.inl member

/-- A notice keeps a state sound when it is a cut or no circular reference. -/
theorem Sound.withNotice (sound : Sound task state) {notice : Notice}
    (explained : ∀ {place key fallback}, notice = .circularReference place key fallback →
      Cut task state place key fallback) : Sound task (state.withNotice notice) := by
  have extension : Extends task [] state (state.withNotice notice) :=
    extends_withNotice state notice
  have grows := extension.toGrows
  refine sound.grow grows ?_ (fun _ listed => Or.inl listed) ?_
  · have accounts := sound.accounts
    exact ⟨accounts.usedDistinct, accounts.usedShaped, accounts.componentsUsed,
      accounts.namesDistinct, accounts.namesUsed, accounts.noneRefused, accounts.activeDistinct,
      accounts.activePending⟩
  · intro place key fallback given
    rcases List.mem_append.mp given with before | new
    · exact Or.inl before
    · exact Or.inr ((explained (List.mem_singleton.mp new).symm).mono grows)

/-! ## Naming a message -/

/-- The state after a message is named. -/
def Compilation.withMessage (state : Compilation) (message name : String) : Compilation :=
  { state with messageNames := state.messageNames ++ [(message, name)] }

theorem extends_withMessage {message name : String} (mine : name ∈ own) :
    Extends task own state (state.withMessage message name) where
  declarations := List.prefix_refl _
  used := fun _ member => member
  notices := fun _ member => member
  schedule := List.Sublist.refl _
  active := rfl
  settled := fun _ taken => Or.inl taken
  kept := fun _ member => Or.inl member
  messages := by
    intro entry member
    rcases List.mem_append.mp member with before | new
    · exact Or.inl before
    · exact Or.inr (Or.inl (List.mem_singleton.mp new ▸ mine))

/-- The names of messages do not matter to a sound state. -/
theorem Sound.withMessage (sound : Sound task state) (message name : String) :
    Sound task (state.withMessage message name) := by
  have extension : Extends task [name] state (state.withMessage message name) :=
    extends_withMessage (List.mem_singleton.mpr rfl)
  refine sound.grow extension.toGrows ?_ (fun _ listed => Or.inl listed) (fun given => Or.inl given)
  have accounts := sound.accounts
  exact { accounts with }

/-! ## Declaring -/

/-- The state after a declaration. -/
def Compilation.withDeclaration (state : Compilation) (declaration : Declaration) :
    Compilation :=
  { state with declarations := state.declarations ++ [declaration] }

@[simp]
theorem Compilation.names_withDeclaration (state : Compilation) (declaration : Declaration) :
    (state.withDeclaration declaration).names = state.names ++ [declaration.name] := by
  simp [Compilation.names, withDeclaration]

/-- The state in which the innermost active component is declared, and `below` are the
components that are still active. -/
def Compilation.completed (state : Compilation) (declaration : Declaration)
    (below : List String) : Compilation :=
  { state with declarations := state.declarations ++ [declaration], active := below }

@[simp]
theorem Compilation.names_completed (state : Compilation) (declaration : Declaration)
    (below : List String) :
    (state.completed declaration below).names = state.names ++ [declaration.name] := by
  simp [Compilation.names, completed]

/-- A new declaration keeps the accounts, as long as no component that stays active has its
name. -/
theorem Accounts.completed (accounts : Accounts task state) {declaration : Declaration}
    {below : List String} (undeclared : declaration.name ∉ state.names)
    (taken : declaration.name ∈ state.used) (distinct : below.Nodup)
    (waiting : ∀ key ∈ below, key ∈ state.active ∧
      task.schemaName? key ≠ some declaration.name) :
    Accounts task (state.completed declaration below) where
  usedDistinct := accounts.usedDistinct
  usedShaped := accounts.usedShaped
  componentsUsed := accounts.componentsUsed
  namesDistinct := by
    rw [Compilation.names_completed]
    exact nodup_append_singleton accounts.namesDistinct undeclared
  namesUsed := by
    intro name declared
    rw [Compilation.names_completed] at declared
    rcases List.mem_append.mp declared with before | new
    · exact accounts.namesUsed name before
    · exact List.mem_singleton.mp new ▸ taken
  noneRefused := accounts.noneRefused
  activeDistinct := distinct
  activePending := by
    intro key active
    obtain ⟨stays, apart⟩ := waiting key active
    obtain ⟨name, named, pending⟩ := accounts.activePending key stays
    refine ⟨name, named, ?_⟩
    rw [Compilation.names_completed]
    intro declared
    rcases List.mem_append.mp declared with before | new
    · exact pending before
    · exact apart (List.mem_singleton.mp new ▸ named)

/-- What a declaration needs, whatever its name: types that can be written, names that
are taken, and in an alias names that are declared. -/
structure Declarable (state : Compilation) (declaration : Declaration) : Prop where
  writable : ∀ type ∈ declaration.types, type.Writable
  used : ∀ name, declaration.Mentions name → name ∈ state.used
  declared : declaration.isAlias = true → ∀ name, declaration.Mentions name → name ∈ state.names

/-- A declarable declaration is grounded once it is collected. -/
theorem Declarable.grounded {declaration : Declaration}
    (declarable : Declarable state declaration) (free : declaration.name ∉ state.names)
    (collected : state.declarations ++ [declaration] = after.declarations)
    (used : state.used = after.used)
    (outlined : ∀ {key node}, task.schemaName? key = some declaration.name →
      task.document.schema? key = some node → Outlined task after key node declaration) :
    Grounded task after declaration where
  writable := declarable.writable
  used := fun name mentioned => used ▸ declarable.used name mentioned
  before := fun aliased name mentioned =>
    (Compilation.DeclaresBefore.of_mem (declarable.declared aliased name mentioned) free).mono
      ⟨[declaration], collected⟩
  outlined := outlined

theorem extends_withDeclaration {declaration : Declaration} (mine : declaration.name ∈ own) :
    Extends task own state (state.withDeclaration declaration) where
  declarations := List.prefix_append _ _
  used := fun _ member => member
  notices := fun _ member => member
  schedule := by
    unfold Task.schedule
    rw [Compilation.names_withDeclaration]
    exact (List.sublist_append_left _ _).append (List.Sublist.refl _)
  active := rfl
  settled := fun _ taken => Or.inl taken
  kept := by
    intro name declared
    rw [Compilation.names_withDeclaration] at declared
    rcases List.mem_append.mp declared with before | new
    · exact Or.inl before
    · exact Or.inr (Or.inl (List.mem_singleton.mp new ▸ mine))
  messages := fun _ member => Or.inl member

/-- A declaration under a pending name keeps a state sound. -/
theorem Sound.withDeclaration (sound : Sound task state) {declaration : Declaration}
    (pending : Pending task state declaration.name)
    (declarable : Declarable state declaration) :
    Sound task (state.withDeclaration declaration) := by
  have extension : Extends task [declaration.name] state (state.withDeclaration declaration) :=
    extends_withDeclaration (List.mem_singleton.mpr rfl)
  refine sound.grow extension.toGrows ?_ ?_ (fun given => Or.inl given)
  · exact sound.accounts.completed pending.undeclared pending.taken sound.accounts.activeDistinct
      fun key active => ⟨active, pending.hoisted key⟩
  · intro other listed
    rcases List.mem_append.mp listed with before | new
    · exact Or.inl before
    · rw [List.mem_singleton.mp new]
      exact Or.inr (declarable.grounded pending.undeclared rfl rfl
        fun named => absurd named (pending.hoisted _))

/-! ## Component schemas -/

/-- The state in which the body of a component begins. -/
def Compilation.entered (state : Compilation) (key : String) : Compilation :=
  { state with active := key :: state.active }

theorem grows_entered (task : Task) (state : Compilation) (key : String) :
    Grows task state (state.entered key) where
  declarations := List.prefix_refl _
  used := fun _ member => member
  notices := fun _ member => member
  schedule := (List.Sublist.refl _).append ((List.sublist_cons_self _ _).filterMap _)

/-- The body of a component begins in a sound state when the component is neither active
nor declared. -/
theorem Sound.entered (sound : Sound task state) {key name : String}
    (named : task.schemaName? key = some name) (undeclared : name ∉ state.names)
    (inactive : key ∉ state.active) : Sound task (state.entered key) := by
  refine sound.grow (grows_entered task state key) ?_ (fun _ listed => Or.inl listed)
    (fun given => Or.inl given)
  have accounts := sound.accounts
  exact { accounts with
    activeDistinct := List.nodup_cons.mpr ⟨inactive, accounts.activeDistinct⟩
    activePending := by
      intro other active
      rcases List.mem_cons.mp active with rfl | before
      · exact ⟨name, named, undeclared⟩
      · exact accounts.activePending other before }

section

variable {declaration : Declaration} {key : String} {below : List String}

/-- Declaring the innermost active component leaves the schedule as it is. -/
theorem grows_completed (named : task.schemaName? key = some declaration.name)
    (innermost : state.active = key :: below) :
    Grows task state (state.completed declaration below) where
  declarations := List.prefix_append _ _
  used := fun _ member => member
  notices := fun _ member => member
  schedule := by
    have same : task.schedule state = task.schedule (state.completed declaration below) := by
      simp [Task.schedule, innermost, named, Compilation.completed, Compilation.names]
    exact same ▸ List.Sublist.refl _

/-- Declaring the innermost active component keeps a state sound. -/
theorem Sound.completed (coherent : task.Coherent) (sound : Sound task state)
    (named : task.schemaName? key = some declaration.name)
    (innermost : state.active = key :: below) (declarable : Declarable state declaration)
    (outlined : ∀ node, task.document.schema? key = some node →
      Outlined task (state.completed declaration below) key node declaration) :
    Sound task (state.completed declaration below) := by
  have accounts := sound.accounts
  have undeclared : declaration.name ∉ state.names := by
    obtain ⟨name, also, undeclared⟩ := accounts.activePending key (by simp [innermost])
    rw [named] at also
    exact Option.some.inj also ▸ undeclared
  have distinct : (key :: below).Nodup := innermost ▸ accounts.activeDistinct
  refine sound.grow (grows_completed named innermost) ?_ ?_ (fun given => Or.inl given)
  · apply accounts.completed undeclared (accounts.componentsUsed named)
      (List.nodup_cons.mp distinct).2
    intro other active
    constructor
    · exact innermost ▸ List.mem_cons_of_mem key active
    · intro also
      have same : other = key := coherent.schemaName?_injective also named
      exact (List.nodup_cons.mp distinct).1 (same ▸ active)
  · intro other listed
    rcases List.mem_append.mp listed with before | new
    · exact Or.inl before
    · rw [List.mem_singleton.mp new]
      refine Or.inr (declarable.grounded undeclared rfl rfl ?_)
      intro also node alsoNamed found
      rw [coherent.schemaName?_injective alsoNamed named] at found ⊢
      exact outlined node found

/-- The body of a component and its declaration, taken together, extend the state. -/
theorem extends_completed (named : task.schemaName? key = some declaration.name)
    (inactive : key ∉ state.active) (body : Extends task [] (state.entered key) middle) :
    Extends task own state (middle.completed declaration state.active) where
  toGrows := ((grows_entered task state key).trans body.toGrows).trans
    (grows_completed named body.active)
  active := rfl
  settled := by
    intro name taken
    rcases body.settled name taken with before | settled
    · exact Or.inl before
    · exact Or.inr ((settled.widen (List.nil_subset own)).mono (List.prefix_append _ _))
  kept := by
    intro name declared
    rw [Compilation.names_completed] at declared
    rcases List.mem_append.mp declared with declared | new
    · rcases body.kept name declared with before | mine | fresh | ⟨other, elsewhere, also⟩
      · exact Or.inl before
      · exact absurd mine List.not_mem_nil
      · exact Or.inr (Or.inr (Or.inl fresh))
      · exact Or.inr (Or.inr (Or.inr
          ⟨other, fun active => elsewhere (List.mem_cons_of_mem key active), also⟩))
    · exact Or.inr (Or.inr (Or.inr ⟨key, inactive, List.mem_singleton.mp new ▸ named⟩))
  messages := by
    intro entry member
    rcases body.messages entry member with before | settled
    · exact Or.inl before
    · exact Or.inr ((settled.widen (List.nil_subset own)).mono (List.prefix_append _ _))

end

end AsyncTypes.TypeScript

/-!
# Log entries

Work is logged as data: a computation in `Logged` answers with the entries it
wrote, in order.  What is shown is decided later, by a threshold.
-/

namespace AsyncTypes

namespace Log

/-- How grave an entry is. -/
inductive Level
  | debug
  | info
  | warning
  | error
  | critical
deriving DecidableEq, Inhabited

namespace Level

/-- The weight of a level; graver entries weigh more. -/
def weight : Level → Nat
  | .debug => 10
  | .info => 20
  | .warning => 30
  | .error => 40
  | .critical => 50

/-- The name of a level. -/
def name : Level → String
  | .debug => "DEBUG"
  | .info => "INFO"
  | .warning => "WARNING"
  | .error => "ERROR"
  | .critical => "CRITICAL"

end Level

/-- The part of the program that wrote an entry. -/
inductive Source
  | commandLine
  | loading
  | extraction
  | generation
deriving DecidableEq, Inhabited

/-- The name under which a part of the program logs. -/
def Source.name : Source → String
  | .commandLine => "src.typegen.cli"
  | .loading => "src.typegen.services.spec_loader"
  | .extraction => "src.typegen.services.asyncapi_parser"
  | .generation => "src.typegen.services.typescript_generator"

/-- One line of the log. -/
structure Entry where
  level : Level
  source : Source
  text : String
deriving DecidableEq

/-- The entries that a threshold lets through. -/
def atLeast (threshold : Nat) (entries : List Entry) : List Entry :=
  entries.filter fun entry => threshold ≤ entry.level.weight

end Log

/-- A result together with the log of its computation. -/
structure Logged (α : Type) where
  value : α
  log : List Log.Entry

namespace Logged

instance : Monad Logged where
  pure value := ⟨value, []⟩
  bind first next :=
    let second := next first.value
    ⟨second.value, first.log ++ second.log⟩

instance : LawfulMonad Logged := LawfulMonad.mk' Logged
  (fun computation => by
    show (⟨computation.value, computation.log ++ []⟩ : Logged _) = computation
    rw [List.append_nil])
  (fun _ _ => rfl)
  (fun first next last => by
    show (⟨_, (first.log ++ (next first.value).log) ++ _⟩ : Logged _) = ⟨_, first.log ++ (_ ++ _)⟩
    rw [List.append_assoc]
    rfl)

/-- The value of a sequence is the value of its second part at the value of the first. -/
@[simp]
theorem value_bind {α β : Type} (first : Logged α) (next : α → Logged β) :
    (first >>= next).value = (next first.value).value :=
  rfl

/-- The log of a sequence is the logs of its parts, in order. -/
@[simp]
theorem log_bind {α β : Type} (first : Logged α) (next : α → Logged β) :
    (first >>= next).log = first.log ++ (next first.value).log :=
  rfl

@[simp]
theorem value_pure {α : Type} (value : α) : (pure value : Logged α).value = value :=
  rfl

@[simp]
theorem log_pure {α : Type} (value : α) : (pure value : Logged α).log = [] :=
  rfl

/-- The results for the items of a list, in order; an item may have none. -/
def collect {α β : Type} (visit : α → Logged (Option β)) : List α → Logged (List β)
  | [] => return []
  | item :: rest => do
      let result ← visit item
      let others ← collect visit rest
      return result.toList ++ others

/-- The collected values are the values of the visits. -/
@[simp]
theorem value_collect {α β : Type} (visit : α → Logged (Option β)) (items : List α) :
    (collect visit items).value = items.filterMap fun item => (visit item).value := by
  induction items with
  | nil => rfl
  | cons item rest ih =>
      simp only [collect, value_bind, value_pure, ih, List.filterMap_cons]
      cases (visit item).value <;> rfl

/-- Write one entry. -/
def note (level : Log.Level) (source : Log.Source) (text : String) : Logged Unit :=
  ⟨(), [⟨level, source, text⟩]⟩

end Logged

end AsyncTypes

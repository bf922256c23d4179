import AsyncTypes.Loading
import AsyncTypes.Proofs.Json.Reading
import AsyncTypes.Proofs.Yaml.Composition
import AsyncTypes.Proofs.Yaml.Refusal

/-!
# What becomes of a text

A text of a document is read as a mapping, or is refused with a parsing failure, or ends the run
without a failure.
-/

namespace AsyncTypes

namespace Json

/-- The reading of a text comes to an integer with more digits than are read. -/
def MeetsLongNumber (text : String) : Prop :=
  ∃ count, read text = .error (.numberTooLong count) ∧ HasLongNumber text.toList count

end Json

namespace Yaml

/-- The composition of a document comes to an escape for which there is no character. -/
def MeetsStrayCode (text : String) : Prop :=
  text.toList.all isAllowed = true ∧
    ∃ fault, Node.ofTokens (.ofText text.toList) = .error fault ∧ HasStrayCode text.toList fault

/-- The document is composed, and the first fault of its highest level is that of a part that is
refused for what it denotes. -/
def MeetsRefusedPart (text : String) : Prop :=
  text.toList.all isAllowed = true ∧
    ∃ root level fault, Node.ofTokens (.ofText text.toList) = .ok (some root) ∧
      Meaning.IsFirst (level, fault) ((Meaning.ofNode root).faults 0) ∧
      (∀ level, fault ≠ .malformed level) ∧
      ∃ part : Node, part.IsPartOf root ∧ part.Refuses fault

/-- A stray code is no malformed token. -/
theorem HasStrayCode.ne_malformed {text : List Char} {fault : Fault}
    (stray : HasStrayCode text fault) (level : Level) : fault ≠ .malformed level := by
  obtain ⟨digits, code, -, -, -, refused⟩ := stray
  rw [characterOf] at refused
  rintro rfl
  split at refused
  · cases refused
  · split at refused
    · cases refused
    · split at refused <;> cases refused

/-- The composition of a text is refused for another reason than being malformed exactly at a
stray code. -/
theorem escapes_iff_hasStrayCode {text : List Char} {fault : Fault}
    (refused : Node.ofTokens (.ofText text) = .error fault) :
    (∀ level, fault ≠ .malformed level) ↔ HasStrayCode text fault := by
  refine ⟨fun other => ?_, HasStrayCode.ne_malformed⟩
  rcases Node.fault_ofTokens refused with ⟨level, malformed⟩ | behind
  · exact absurd malformed (other level)
  · exact (Tokens.fault_ofText behind).resolve_left (other .token)

/-- A node is refused for another reason than being malformed exactly when its first fault is that
of a part that is refused. -/
theorem Node.value_escapes_iff (root : Node) :
    Escapes root.value ↔ ∃ level fault,
      Meaning.IsFirst (level, fault) ((Meaning.ofNode root).faults 0) ∧
        (∀ level, fault ≠ .malformed level) ∧
          ∃ part : Node, part.IsPartOf root ∧ part.Refuses fault := by
  constructor
  · rintro ⟨fault, refused, other⟩
    obtain ⟨level, first⟩ := value_eq_error_iff.mp refused
    rcases Meaning.faultsOf_ofNode root 0 (level, fault) first.mem with
      ⟨same, malformed⟩ | ⟨node, isRoot, blamed⟩
    · exact absurd malformed (other same)
    · cases List.mem_singleton.mp isRoot
      exact ⟨level, fault, first, other, blamed⟩
  · rintro ⟨level, fault, first, other, -⟩
    exact ⟨fault, value_eq_error_iff.mpr ⟨level, first⟩, other⟩

/-- A text is refused for another reason than being malformed exactly at a stray code or at a
refused part. -/
theorem read_escapes_iff (text : String) :
    Escapes (read text) ↔ MeetsStrayCode text ∨ MeetsRefusedPart text := by
  rw [read]
  split
  · next forbidden =>
      have notAllowed : ¬ text.toList.all isAllowed = true := by simpa using forbidden
      refine iff_of_false (not_escapes_malformed _) ?_
      rintro (⟨allowed, -⟩ | ⟨allowed, -⟩)
      · exact notAllowed allowed
      · exact notAllowed allowed
  · next permitted =>
      have allowed : text.toList.all isAllowed = true := by simpa using permitted
      simp only [MeetsStrayCode, MeetsRefusedPart, allowed, true_and]
      cases composed : Node.ofTokens (.ofText text.toList) with
      | error fault =>
          show Escapes (.error fault : Except Fault Value) ↔ _
          rw [escapes_error_iff, escapes_iff_hasStrayCode composed]
          simp
      | ok root? =>
          cases root? with
          | none =>
              show Escapes (.ok Value.null : Except Fault Value) ↔ _
              simp [not_escapes_ok]
          | some root =>
              show Escapes root.value ↔ _
              rw [Node.value_escapes_iff]
              simp

end Yaml

namespace Loading

/-- A text is read as a mapping, or refused with a parsing failure. -/
def Settled (result : Except Stop Value) : Prop :=
  (∃ value, result = .ok value ∧ value.isMap = true) ∨
    ∃ cause, result = .error (.failure (.parsing cause))

/-- Whether a text is settled. -/
def isSettled : Except Stop Value → Bool
  | .ok value => value.isMap
  | .error (.failure (.parsing _)) => true
  | .error _ => false

theorem isSettled_iff (result : Except Stop Value) : isSettled result = true ↔ Settled result := by
  unfold isSettled
  split
  · next value => simp [Settled]
  · next cause => exact iff_of_true rfl (.inr ⟨cause, rfl⟩)
  · next stop other =>
      refine iff_of_false Bool.false_ne_true ?_
      rintro (⟨value, read, -⟩ | ⟨cause, failed⟩)
      · cases read
      · cases failed
        exact other cause rfl

instance (result : Except Stop Value) : Decidable (Settled result) :=
  decidable_of_iff (isSettled result = true) (isSettled_iff result)

theorem requireMap_settled (refuse : String → ParsingCause) (value : Value) :
    Settled (requireMap refuse value) := by
  rw [requireMap]
  split
  · next mapping => exact .inl ⟨value, rfl, mapping⟩
  · exact .inr ⟨_, rfl⟩

/-- A JSON text is settled unless it has a long number. -/
theorem readJson_settled_iff (source text : String) {next : Value → Except Stop Value}
    (settles : ∀ value, Settled (next value)) :
    Settled (readJson source text >>= next) ↔ ¬ Json.MeetsLongNumber text := by
  rw [readJson]
  cases found : Json.read text with
  | ok value =>
      refine iff_of_true (settles value) ?_
      rintro ⟨count, refused, -⟩
      cases found.symm.trans refused
  | error fault =>
      rcases Json.fault_read found with ⟨problem, position, rfl⟩ | ⟨count, rfl, long⟩
      · refine iff_of_true (.inr ⟨_, rfl⟩) ?_
        rintro ⟨count, refused, -⟩
        cases found.symm.trans refused
      · refine iff_of_false ?_ fun fails => fails ⟨count, found, long⟩
        rintro (⟨value, read, -⟩ | ⟨cause, failed⟩)
        · cases read
        · cases failed

/-- A YAML text is settled unless it is refused for another reason than being malformed. -/
theorem readYaml_settled_iff (text : String) {refuse : Yaml.Level → ParsingCause}
    {next : Value → Except Stop Value} (settles : ∀ value, Settled (next value)) :
    Settled (readYaml refuse text >>= next) ↔
      ¬ (Yaml.MeetsStrayCode text ∨ Yaml.MeetsRefusedPart text) := by
  rw [← Yaml.read_escapes_iff, readYaml]
  cases Yaml.read text with
  | ok value => exact iff_of_true (settles value) (Yaml.not_escapes_ok value)
  | error fault =>
      cases fault with
      | malformed level => exact iff_of_true (.inr ⟨_, rfl⟩) (Yaml.not_escapes_malformed level)
      | _ =>
          refine iff_of_false ?_ fun fails => fails ⟨_, rfl, fun level => nofun⟩
          rintro (⟨value, read, -⟩ | ⟨cause, failed⟩)
          · cases read
          · cases failed

/-- A month beyond the twelfth. -/
def monthThirteen : String := "when: 2024-13-01\n"

end Loading

end AsyncTypes

import AsyncTypes.Proofs.Compilation.Account
import AsyncTypes.Proofs.Compilation.Invariant

/-!
# Names cannot carry syntax

Keys and values of a document are arbitrary text.  Whatever they are, no name of a declaration
and no name of a member of an enumeration holds an ASCII character that means something to a
reader of the output, and none of them is empty or starts with a digit.
-/

namespace AsyncTypes.TypeScript

/-- The name is not empty, it does not start with a digit of any script, and its ASCII characters
are letters, digits and underscores. -/
structure IsSafe (name : String) : Prop where
  filled : name ≠ ""
  start : startsWithDigit name = false
  ascii : ∀ c ∈ name.toList, c.toNat < 0x80 → c.isAlphanum = true ∨ c = '_'

/-- An ASCII character of a name is a letter, a digit or the underscore. -/
theorem alphanum_of_isNameCharacter {c : Char} (character : Unicode.isNameCharacter c = true)
    (ascii : c.toNat < 0x80) : c.isAlphanum = true ∨ c = '_' := by
  simpa [Unicode.isNameCharacter, Nat.not_le.mpr ascii] using character

/-- What has the shape of a name is safe. -/
theorem IsName.isSafe {name : String} (shape : IsName name) : IsSafe name := by
  obtain ⟨first, rest, spelled, start, continued⟩ := shape
  simp only [Unicode.isNameStart, Bool.and_eq_true, Bool.not_eq_true'] at start
  obtain ⟨⟨character, -⟩, noDigit⟩ := start
  constructor
  · rintro rfl
    simp at spelled
  · simp [startsWithDigit, spelled, noDigit]
  · intro c listed ascii
    rw [spelled] at listed
    rcases List.mem_cons.mp listed with rfl | later
    · exact alphanum_of_isNameCharacter character ascii
    · exact alphanum_of_isNameCharacter (continued c later) ascii

/-- For every document and all options, the declared names are safe, those of components, hoisted
parts, messages and unions, and so are the names of the members of all enumerations. -/
theorem names_safe (document : Document) (options : Options) :
    (∀ name ∈ (generate document options).declarations, IsSafe name) ∧
      ∀ declaration ∈ (compile document options).declarations,
        ∀ member ∈ declaration.members, IsSafe member.1 := by
  have formed := (wellFormed_compile document options).declarations
  constructor
  · intro name declared
    obtain ⟨declaration, listed, rfl⟩ := List.mem_map.mp declared
    exact (formed declaration listed).named.isSafe
  · intro declaration listed member inside
    exact ((formed declaration listed).members member inside).isSafe

/-- An enumeration of texts whose key and values are made to end the declaration. -/
def hostileTexts : Document :=
  componentsOnly
    [("²\x7d; drop", .schema ⟨none, none⟩ [.string "²\x7d; drop", .string "*/", .string "1 = 'x'"]
      ⟨none, none, none⟩ ⟨.single "string", none, [], none, .absent⟩)]

/-- Options under which texts become enumerations. -/
def enumerating : Options :=
  { Options.default with enumStyle := .enumeration }

theorem hostileTexts_safe :
    (generate hostileTexts enumerating).declarations = ["_²Drop"] ∧ IsSafe "_²Drop" ∧
      ∀ member ∈ ["_²_DROP", "EMPTY", "_1_X"], IsSafe member := by
  have declared : (compile hostileTexts enumerating).declarations =
      [.enumeration "_²Drop" none [("_²_DROP", "²\x7d; drop"), ("EMPTY", "*/"),
        ("_1_X", "1 = 'x'")]] := by
    rfl
  have names : (generate hostileTexts enumerating).declarations = ["_²Drop"] := by
    simp [generate, Task.generated, declared, Declaration.name]
  obtain ⟨safe, members⟩ := names_safe hostileTexts enumerating
  rw [names] at safe
  rw [declared] at members
  refine ⟨names, safe _ List.mem_cons_self, fun member listed => ?_⟩
  have each := List.forall_mem_singleton.mp members
  exact List.forall_mem_map.mpr each member listed

end AsyncTypes.TypeScript

import AsyncTypes.Proofs.Name.Free

/-!
# The shape of declaration names

A declaration name starts with a character that is neither a lower-case letter nor a
digit of any script, and its ASCII characters are letters, digits and underscores.  The
words of a key are capitalized, so every name that is made from a key has this shape,
and a longer name keeps it.
-/

namespace AsyncTypes

namespace Unicode

/-- Beyond ASCII, or a letter or digit of ASCII, or the underscore. -/
def isNameCharacter (c : Char) : Bool :=
  0x80 ≤ c.toNat || c.isAlphanum || c == '_'

/-- A character that may start a name. -/
def isNameStart (c : Char) : Bool :=
  isNameCharacter c && !c.isLower && !isDigit c

/-- A property of every ASCII character holds when it holds at each of their codes. -/
theorem forall_ascii (property : Char → Prop)
    (atCodes : ∀ code < 0x80, property (Char.ofNat code)) {c : Char} (ascii : c.toNat < 0x80) :
    property c := by
  have atCode := atCodes c.toNat ascii
  rwa [Char.ofNat_toNat] at atCode

theorem not_isLower_of_beyond {c : Char} (beyond : 0x80 ≤ c.toNat) : c.isLower = false := by
  apply Bool.eq_false_iff.mpr
  intro lower
  have upTo : c.toNat ≤ 'z'.toNat :=
    UInt32.le_iff_toNat_le.mp (of_decide_eq_true (Bool.and_eq_true_iff.mp lower).2)
  have bound : 'z'.toNat = 0x7a := rfl
  omega

/-- A capital letter of ASCII is no lower-case letter. -/
theorem not_isLower_of_isUpper {c : Char} (capital : c.isUpper = true) : c.isLower = false := by
  apply Bool.eq_false_iff.mpr
  intro lower
  have upTo : c.toNat ≤ 'Z'.toNat :=
    UInt32.le_iff_toNat_le.mp (of_decide_eq_true capital).2
  have atLeast : 'a'.toNat ≤ c.toNat :=
    UInt32.le_iff_toNat_le.mp (of_decide_eq_true (Bool.and_eq_true_iff.mp lower).1)
  have apart : 'Z'.toNat < 'a'.toNat := by decide
  omega

/-! ## Upper case -/

/-- A character beyond ASCII or a capital letter. -/
def isRaised (c : Char) : Bool :=
  0x80 ≤ c.toNat || c.isUpper

/-- The run leads beyond ASCII, or moves a single character to a capital letter. -/
def CaseRun.leadsUp (run : CaseRun) : Bool :=
  let low := (run.first + run.shift).toNat
  let high := (run.last + run.shift).toNat
  (0x80 ≤ low && (high < 0xd800 || (0xe000 ≤ low && high < 0x110000))) ||
    (run.first == run.last && (Char.ofNat low).isUpper)

theorem upperRuns_leadUp : ∀ run ∈ upperRuns, run.leadsUp = true := by
  decide +kernel

theorem upperSeveral_raised :
    ∀ entry ∈ upperSeveral,
      entry.2 ≠ [] ∧ ∀ code ∈ entry.2, isRaised (Char.ofNat code) = true := by
  decide +kernel

theorem toNat_ofNat_of_valid {code : Nat} (valid : code.isValidChar) :
    (Char.ofNat code).toNat = code := by
  rw [Char.ofNat, dif_pos valid]
  rfl

/-- A run that leads up raises each of its characters. -/
theorem CaseRun.raises {run : CaseRun} (up : run.leadsUp = true) {code : Nat}
    (covered : run.covers code = true) :
    isRaised (Char.ofNat (code + run.shift).toNat) = true := by
  simp only [CaseRun.covers, Bool.and_eq_true, decide_eq_true_eq] at covered
  obtain ⟨⟨fromFirst, toLast⟩, -⟩ := covered
  simp only [CaseRun.leadsUp, Bool.or_eq_true, Bool.and_eq_true, decide_eq_true_eq,
    beq_iff_eq] at up
  rcases up with ⟨low, high⟩ | ⟨single, capital⟩
  · have valid : (code + run.shift).toNat.isValidChar := by
      simp only [Nat.isValidChar]
      omega
    simp only [isRaised, toNat_ofNat_of_valid valid, Bool.or_eq_true, decide_eq_true_eq]
    left
    omega
  · have same : code = run.first := by omega
    simp [isRaised, same, capital]

/-- The upper case of a letter or a number is made of name characters that are no
lower-case letters. -/
theorem upper_shape {c : Char} (alphanumeric : isAlphanumeric c = true) :
    upper c ≠ [] ∧ ∀ d ∈ upper c, isNameCharacter d = true ∧ d.isLower = false := by
  have ofRaised : ∀ d, isRaised d = true → isNameCharacter d = true ∧ d.isLower = false := by
    intro d raised
    rcases Bool.or_eq_true_iff.mp raised with beyond | capital
    · have beyond : 0x80 ≤ d.toNat := of_decide_eq_true beyond
      exact ⟨by simp [isNameCharacter, beyond], not_isLower_of_beyond beyond⟩
    · have letter : d.isAlphanum = true :=
        Bool.or_eq_true_iff.mpr (Or.inl (Bool.or_eq_true_iff.mpr (Or.inl capital)))
      exact ⟨by simp [isNameCharacter, letter], not_isLower_of_isUpper capital⟩
  by_cases ascii : c.toNat < 0x80
  · revert alphanumeric
    have checked := forall_ascii (fun c => isAlphanumeric c = true →
      upper c ≠ [] ∧ (upper c).all (fun d => isNameCharacter d && !d.isLower) = true)
      (by decide +kernel) ascii
    simpa using checked
  · simp only [upper, ascii, if_false, mapCase]
    split
    · next entry found =>
        obtain ⟨some, raised⟩ := upperSeveral_raised entry (List.mem_of_find?_eq_some found)
        refine ⟨by simpa using some, ?_⟩
        intro d member
        obtain ⟨code, listed, rfl⟩ := List.mem_map.mp member
        exact ofRaised _ (raised code listed)
    · split
      · next run found =>
          have covered := List.find?_some found
          have up := upperRuns_leadUp run (List.mem_of_find?_eq_some found)
          constructor
          · simp
          · intro d member
            rw [List.mem_singleton.mp member]
            exact ofRaised _ (CaseRun.raises up covered)
      · constructor
        · simp
        · intro d member
          rw [List.mem_singleton.mp member]
          exact ofRaised c (by simp [isRaised, Nat.not_lt.mp ascii])

theorem isNameCharacter_of_isAlphanumeric {c : Char} (alphanumeric : isAlphanumeric c = true) :
    isNameCharacter c = true := by
  by_cases ascii : c.toNat < 0x80
  · have letter : c.isAlphanum = true := by
      simpa [isAlphanumeric, hasProperty, ascii] using alphanumeric
    simp [isNameCharacter, letter]
  · simp [isNameCharacter, Nat.not_lt.mp ascii]

end Unicode

namespace TypeScript

/-! ## Words of a key -/

/-- Extending the first of some parts changes that part only. -/
theorem mem_extendFirst {c : Char} {parts : List (List Char)} {part : List Char}
    (member : part ∈ Text.extendFirst c parts) :
    part = [c] ∨ (∃ shorter ∈ parts, part = c :: shorter) ∨ part ∈ parts := by
  cases parts with
  | nil => simp_all [Text.extendFirst]
  | cons first rest =>
      rcases List.mem_cons.mp member with rfl | later
      · exact Or.inr (Or.inl ⟨first, List.mem_cons_self, rfl⟩)
      · exact Or.inr (Or.inr (List.mem_cons_of_mem first later))

/-- Every word is a non-empty run of letters and numbers. -/
theorem words_shape (text : List Char) :
    ∀ word ∈ words text, word ≠ [] ∧ ∀ c ∈ word, Unicode.isAlphanumeric c = true := by
  fun_induction words text with
  | case1 => simp
  | case2 c letter => simp [letter]
  | case3 c letter next rest nextLetter ih =>
      intro word member
      rcases mem_extendFirst member with rfl | ⟨shorter, listed, rfl⟩ | listed
      · simp [letter]
      · constructor
        · simp
        · intro d position
          rcases List.mem_cons.mp position with rfl | later
          · exact letter
          · exact (ih shorter listed).2 d later
      · exact ih word listed
  | case4 c letter next rest nextOther ih =>
      intro word member
      rcases List.mem_cons.mp member with rfl | listed
      · simp [letter]
      · exact ih word listed
  | case5 c rest other ih => exact ih

/-- A text of name characters that does not start with a lower-case letter. -/
def IsHighText (text : List Char) : Prop :=
  (∀ c ∈ text, Unicode.isNameCharacter c = true) ∧ ∀ c ∈ text.head?, c.isLower = false

theorem isHighText_nil : IsHighText [] :=
  ⟨by simp, by simp⟩

theorem IsHighText.append {first second : List Char} (high : IsHighText first)
    (next : IsHighText second) : IsHighText (first ++ second) := by
  constructor
  · intro c member
    rcases List.mem_append.mp member with before | after
    · exact high.1 c before
    · exact next.1 c after
  · cases first with
    | nil => exact next.2
    | cons d rest => exact high.2

/-- A capitalized word starts high. -/
theorem isHighText_capitalized {word : List Char}
    (alphanumeric : ∀ c ∈ word, Unicode.isAlphanumeric c = true) :
    IsHighText (capitalized word) := by
  cases word with
  | nil => exact isHighText_nil
  | cons c rest =>
      obtain ⟨some, shape⟩ := Unicode.upper_shape (alphanumeric c List.mem_cons_self)
      constructor
      · intro d member
        rcases List.mem_append.mp member with raised | kept
        · exact (shape d raised).1
        · exact Unicode.isNameCharacter_of_isAlphanumeric
            (alphanumeric d (List.mem_cons_of_mem c kept))
      · intro d head
        cases image : Unicode.upper c with
        | nil => exact absurd image some
        | cons first others =>
            have same : first = d := by simpa [capitalized, image] using head
            exact (shape d (by simp [image, same])).2

theorem isHighText_pascalCase (text : String) : IsHighText (pascalCase text).toList := by
  rw [pascalCase, String.toList_ofList]
  have shape := words_shape text.toList
  generalize words text.toList = parts at shape
  induction parts with
  | nil => exact isHighText_nil
  | cons word rest ih =>
      rw [List.flatMap_cons]
      exact (isHighText_capitalized (shape word List.mem_cons_self).2).append
        (ih fun other listed => shape other (List.mem_cons_of_mem word listed))

/-! ## Names -/

/-- The shape of a declaration name: a character that may start a name, and name
characters. -/
def IsName (name : String) : Prop :=
  ∃ first rest, name.toList = first :: rest ∧ Unicode.isNameStart first = true ∧
    ∀ c ∈ rest, Unicode.isNameCharacter c = true

/-- A longer name is a name. -/
theorem IsName.append {name ending : String} (shape : IsName name)
    (part : ∀ c ∈ ending.toList, Unicode.isNameCharacter c = true) : IsName (name ++ ending) := by
  obtain ⟨first, rest, spelled, start, continued⟩ := shape
  refine ⟨first, rest ++ ending.toList, by simp [spelled], start, ?_⟩
  intro c member
  rcases List.mem_append.mp member with before | after
  · exact continued c before
  · exact part c after

theorem isNameCharacter_of_isDigit {c : Char} (digit : c.isDigit = true) :
    Unicode.isNameCharacter c = true := by
  simp [Unicode.isNameCharacter, Char.isAlphanum, digit]

/-- A name with a number after it is a name. -/
theorem IsName.numbered {name : String} (shape : IsName name) (number : Nat) :
    IsName (name ++ toString number) := by
  apply shape.append
  intro c member
  rw [Nat.toString_eq_repr, Nat.toList_repr] at member
  exact isNameCharacter_of_isDigit
    (Nat.isDigit_of_mem_toDigits (by decide) (by decide) member)

/-- A free name has the shape of the wanted one. -/
theorem IsName.free {wanted : String} (shape : IsName wanted) (taken : List String) :
    IsName (freeName taken wanted) := by
  rcases freeName_eq taken wanted with kept | ⟨number, numbered⟩
  · rwa [kept]
  · rw [numbered]
    exact shape.numbered number

theorem isName_guardDigit {name : String} (some : name ≠ "") (high : IsHighText name.toList) :
    IsName (guardDigit name) := by
  cases spelled : name.toList with
  | nil => exact absurd (String.toList_eq_nil_iff.mp spelled) some
  | cons first rest =>
      rw [spelled] at high
      by_cases digit : Unicode.isDigit first = true
      · refine ⟨'_', first :: rest, ?_, by decide, high.1⟩
        simp [guardDigit, startsWithDigit, spelled, digit]
      · refine ⟨first, rest, ?_, ?_, fun c later => high.1 c (List.mem_cons_of_mem first later)⟩
        · simp [guardDigit, startsWithDigit, spelled, digit]
        · simp [Unicode.isNameStart, high.1 first List.mem_cons_self, high.2 first rfl, digit]

/-- The name for a key is a name, with any ending that starts high. -/
theorem isName_declarationName (key : String) {ending : String}
    (high : IsHighText ending.toList) : IsName (declarationName key ending) := by
  simp only [declarationName]
  split
  · exact ⟨'U', "nnamed".toList, by decide, by decide, List.all_eq_true.mp (by decide)⟩
  · next some =>
      have guarded : IsName (guardDigit (pascalCase key ++ ending)) :=
        isName_guardDigit some (by
          rw [String.toList_append]
          exact (isHighText_pascalCase key).append high)
      unfold guardReserved
      split
      · exact guarded.append (List.all_eq_true.mp (by decide))
      · exact guarded

/-- The names for keys are names. -/
theorem isName_of_mem_nameKeys {used keys : List String} {entry : String × String}
    (member : entry ∈ (nameKeys used keys).1) : IsName entry.2 := by
  induction keys generalizing used with
  | nil => simp [nameKeys] at member
  | cons key rest ih =>
      simp only [nameKeys, List.mem_cons] at member
      rcases member with rfl | later
      · exact (isName_declarationName key (by simpa using isHighText_nil)).free _
      · exact ih later

/-! ## Members of enumerations -/

/-- Words that underscores join are letters, numbers and underscores. -/
theorem alphanumeric_or_underscore {parts : List (List Char)}
    (letters : ∀ part ∈ parts, ∀ c ∈ part, Unicode.isAlphanumeric c = true) :
    ∀ c ∈ ['_'].intercalate parts, Unicode.isAlphanumeric c = true ∨ c = '_' := by
  induction parts with
  | nil => exact fun c member => absurd member List.not_mem_nil
  | cons part rest ih =>
      rw [List.forall_mem_cons] at letters
      cases rest with
      | nil => simpa using fun c member => Or.inl (letters.1 c member)
      | cons next rest =>
          rw [List.intercalate_cons_cons, List.append_assoc, List.forall_mem_append,
            List.forall_mem_append]
          exact ⟨fun c member => Or.inl (letters.1 c member), by simp, ih letters.2⟩

/-- The upper case of words that underscores join starts high. -/
theorem isHighText_upperText {text : List Char}
    (shape : ∀ c ∈ text, Unicode.isAlphanumeric c = true ∨ c = '_') :
    IsHighText (Unicode.upperText text) := by
  have raised : ∀ c ∈ Unicode.upperText text,
      Unicode.isNameCharacter c = true ∧ c.isLower = false := by
    intro d member
    obtain ⟨c, listed, image⟩ := List.mem_flatMap.mp member
    rcases shape c listed with alphanumeric | rfl
    · exact (Unicode.upper_shape alphanumeric).2 d image
    · have same : d = '_' := by simpa [Unicode.upper] using image
      subst same
      decide
  exact ⟨fun c member => (raised c member).1,
    fun c first => (raised c (List.mem_of_mem_head? first)).2⟩

theorem isName_enumMember (value : String) : IsName (enumMember value) := by
  simp only [enumMember]
  split
  · exact ⟨'E', "MPTY".toList, by decide, by decide, List.all_eq_true.mp (by decide)⟩
  · next some =>
      apply isName_guardDigit some
      rw [String.toList_ofList]
      exact isHighText_upperText (alphanumeric_or_underscore fun word listed =>
        (words_shape _ word listed).2)

theorem IsName.freeMember {wanted : String} (shape : IsName wanted) (taken : List String) :
    IsName (freeMember taken wanted) := by
  unfold TypeScript.freeMember
  split
  · exact (shape.append (List.all_eq_true.mp (by decide))).numbered _
  · exact shape

/-- The member names for values have the shape of declaration names. -/
theorem isName_of_mem_enumMembersFrom {taken values : List String} {member : String}
    (listed : member ∈ enumMembersFrom taken values) : IsName member := by
  induction values generalizing taken with
  | nil => exact absurd listed List.not_mem_nil
  | cons value rest ih =>
      rcases List.mem_cons.mp listed with rfl | later
      · exact (isName_enumMember value).freeMember taken
      · exact ih later

end TypeScript

end AsyncTypes

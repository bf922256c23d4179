import AsyncTypes.Proofs.Expression.Operator

/-!
# Reading the text of a type

A reader turns the text of a type back into its tree.  It knows the precedence of the
operators and nothing of the writer: square brackets come after the operand that they belong
to, an ampersand joins before a bar does, parentheses hold a type, and a word or a literal in
quotes is an operand as a whole.  The reader keeps the groups that are open, the innermost
first.  The text of a tree in which unions and intersections have several members is read as
that tree, so such trees differ when their texts do.
-/

namespace AsyncTypes.TypeScript

/-! ## Trees -/

/-- The structure of a type; an atom is a word or a literal. -/
inductive TypeTree
  | atom (text : String)
  | array (item : TypeTree)
  | union (members : List TypeTree)
  | intersection (members : List TypeTree)
deriving Inhabited

namespace TypeTree

mutual

/-- Whether two trees are equal can be decided. -/
def decideEq : (first second : TypeTree) → Decidable (first = second)
  | .atom first, .atom second => decidable_of_iff (first = second) (by simp)
  | .array first, .array second =>
      let _ := decideEq first second
      decidable_of_iff (first = second) (by simp)
  | .union first, .union second =>
      let _ := decideEqAll first second
      decidable_of_iff (first = second) (by simp)
  | .intersection first, .intersection second =>
      let _ := decideEqAll first second
      decidable_of_iff (first = second) (by simp)
  | .atom _, .array _ | .atom _, .union _ | .atom _, .intersection _
  | .array _, .atom _ | .array _, .union _ | .array _, .intersection _
  | .union _, .atom _ | .union _, .array _ | .union _, .intersection _
  | .intersection _, .atom _ | .intersection _, .array _ | .intersection _, .union _ =>
      isFalse (by simp)

/-- Whether two lists of trees are equal can be decided. -/
def decideEqAll : (first second : List TypeTree) → Decidable (first = second)
  | [], [] => isTrue rfl
  | [], _ :: _ | _ :: _, [] => isFalse (by simp)
  | first :: rest, second :: others =>
      let _ := decideEq first second
      let _ := decideEqAll rest others
      decidable_of_iff (first = second ∧ rest = others) (by simp)

end

instance : DecidableEq TypeTree :=
  decideEq

/-- The tree is a union or an intersection of several members. -/
def isJoined : TypeTree → Bool
  | .union members | .intersection members => 1 < members.length
  | _ => false

/-- One member stands for itself, several are joined. -/
def joined (join : List TypeTree → TypeTree) : List TypeTree → TypeTree
  | [member] => member
  | members => join members

/-- The union of the members, equal ones merged. -/
def unionOf (members : List TypeTree) : TypeTree :=
  joined union members.eraseDups

/-- The intersection of the members, equal ones merged. -/
def intersectionOf (members : List TypeTree) : TypeTree :=
  joined intersection members.eraseDups

end TypeTree

/-! ## Tokens -/

/-- What the text of a type is made of. -/
inductive Token
  | atom (text : String)
  | bar
  | ampersand
  | openParenthesis
  | closeParenthesis
  | openBracket
  | closeBracket
deriving DecidableEq

/-- The token of a word or a literal; there is none between two delimiters. -/
def wordToken (word : List Char) : List Token :=
  if word.isEmpty then [] else [.atom (String.ofList word)]

/-- The token of a delimiter; a blank has none. -/
def markToken : Char → List Token
  | '|' => [.bar]
  | '&' => [.ampersand]
  | '(' => [.openParenthesis]
  | ')' => [.closeParenthesis]
  | '[' => [.openBracket]
  | ']' => [.closeBracket]
  | _ => []

/-- The tokens of a text. -/
def tokens (text : String) : List Token :=
  scanFrom wordToken markToken false [] text.toList

/-! ## The reader -/

/-- What stands after the last operator of a group: no operand yet, an operand, or an operand
with a square bracket that is open. -/
inductive Operand
  | missing
  | whole (tree : TypeTree)
  | indexed (tree : TypeTree)

/-- A group that has been read in part: the alternatives before the last bar and, after it, the
factors before the last ampersand, both most recent first, and what stands after that. -/
structure Group where
  alternatives : List TypeTree
  factors : List TypeTree
  operand : Operand

namespace Group

/-- A group of which nothing has been read. -/
def start : Group :=
  ⟨[], [], .missing⟩

/-- The factors of the last alternative, when the last of them is complete. -/
def factors? (group : Group) : Option (List TypeTree) :=
  match group.operand with
  | .whole tree => some (tree :: group.factors).reverse
  | _ => none

/-- The alternatives of the group, when the last of them is complete. -/
def alternatives? (group : Group) : Option (List TypeTree) :=
  group.factors?.map fun factors =>
    (TypeTree.joined .intersection factors :: group.alternatives).reverse

/-- What the group has been read as, when it is complete. -/
def tree? (group : Group) : Option TypeTree :=
  group.alternatives?.map (TypeTree.joined .union)

end Group

/-- One token is read amid the groups that are open. -/
def readToken : List Group → Token → Option (List Group)
  | ⟨alternatives, factors, .missing⟩ :: outer, .atom text =>
      some (⟨alternatives, factors, .whole (.atom text)⟩ :: outer)
  | group@⟨_, _, .missing⟩ :: outer, .openParenthesis => some (.start :: group :: outer)
  | ⟨alternatives, factors, .whole tree⟩ :: outer, .openBracket =>
      some (⟨alternatives, factors, .indexed tree⟩ :: outer)
  | ⟨alternatives, factors, .indexed tree⟩ :: outer, .closeBracket =>
      some (⟨alternatives, factors, .whole (.array tree)⟩ :: outer)
  | ⟨alternatives, factors, .whole tree⟩ :: outer, .ampersand =>
      some (⟨alternatives, tree :: factors, .missing⟩ :: outer)
  | group@⟨_, _, .whole _⟩ :: outer, .bar =>
      group.alternatives?.map fun alternatives => ⟨alternatives.reverse, [], .missing⟩ :: outer
  | group :: ⟨alternatives, factors, .missing⟩ :: outer, .closeParenthesis =>
      group.tree?.map fun tree => ⟨alternatives, factors, .whole tree⟩ :: outer
  | _, _ => none

/-- The groups that are open after some tokens. -/
def readTokens (groups : List Group) (tokens : List Token) : Option (List Group) :=
  tokens.foldlM readToken groups

/-- The tree of a text, if the text can be read. -/
def parse (text : String) : Option TypeTree :=
  match readTokens [.start] (tokens text) with
  | some [group] => group.tree?
  | _ => none

/-! ## Reading parts -/

theorem readTokens_append (groups : List Group) (first second : List Token) :
    readTokens groups (first ++ second) =
      (readTokens groups first).bind fun middle => readTokens middle second :=
  List.foldlM_append

theorem readTokens_cons (groups : List Group) (token : Token) (rest : List Token) :
    readTokens groups (token :: rest) =
      (readToken groups token).bind fun middle => readTokens middle rest :=
  List.foldlM_cons

/-- Wherever an operand is missing, the tokens are read as one. -/
def ReadsOperand (tokens : List Token) (tree : TypeTree) : Prop :=
  ∀ alternatives factors outer,
    readTokens (⟨alternatives, factors, .missing⟩ :: outer) tokens =
      some (⟨alternatives, factors, .whole tree⟩ :: outer)

/-- Where a group starts, the tokens are read as the whole group. -/
def ReadsGroup (tokens : List Token) (tree : TypeTree) : Prop :=
  ∀ outer, ∃ group, readTokens (.start :: outer) tokens = some (group :: outer) ∧
    group.tree? = some tree

variable {tale : List Token} {tree : TypeTree}

theorem readsOperand_atom (text : String) : ReadsOperand [.atom text] (.atom text) :=
  fun _ _ _ => rfl

theorem ReadsOperand.group (reads : ReadsOperand tale tree) : ReadsGroup tale tree :=
  fun outer => ⟨_, reads [] [] outer, rfl⟩

/-- In parentheses a group is an operand. -/
theorem ReadsGroup.parentheses (reads : ReadsGroup tale tree) :
    ReadsOperand (.openParenthesis :: (tale ++ [.closeParenthesis])) tree := by
  intro alternatives factors outer
  obtain ⟨group, read, whole⟩ := reads (⟨alternatives, factors, .missing⟩ :: outer)
  have closed : readToken (group :: ⟨alternatives, factors, .missing⟩ :: outer)
      .closeParenthesis = some (⟨alternatives, factors, .whole tree⟩ :: outer) := by
    simp [readToken, whole]
  rw [readTokens_cons]
  simp only [readToken, Option.bind_some]
  rw [readTokens_append, read, Option.bind_some, readTokens_cons, closed]
  rfl

/-- An operand with square brackets after it is read as an array. -/
theorem ReadsOperand.array (reads : ReadsOperand tale tree) :
    ReadsOperand (tale ++ [.openBracket, .closeBracket]) (.array tree) := by
  intro alternatives factors outer
  rw [readTokens_append, reads]
  rfl

/-- Operands with ampersands between them are read as the factors of an alternative. -/
theorem readTokens_factors {tales : List (List Token)} {trees : List TypeTree}
    (reads : List.Forall₂ ReadsOperand tales trees) (some : trees ≠ [])
    (alternatives factors : List TypeTree) (outer : List Group) :
    ∃ group, readTokens (⟨alternatives, factors, .missing⟩ :: outer)
        ([Token.ampersand].intercalate tales) = .some (group :: outer) ∧
      group.alternatives = alternatives ∧ group.factors? = .some (factors.reverse ++ trees) := by
  induction reads generalizing factors with
  | nil => exact absurd rfl some
  | @cons tale tree tales trees first others ih =>
      cases others with
      | nil =>
          refine ⟨⟨alternatives, factors, .whole tree⟩, ?_, rfl, by simp [Group.factors?]⟩
          simpa using first alternatives factors outer
      | @cons next second tales trees here later =>
          obtain ⟨group, read, same, parts⟩ := ih (by simp) (tree :: factors)
          refine ⟨group, ?_, same, by simpa using parts⟩
          have join : [Token.ampersand].intercalate (tale :: next :: tales) =
              tale ++ (.ampersand :: [Token.ampersand].intercalate (next :: tales)) := by
            simp [List.intercalate]
          rw [join, readTokens_append, first, Option.bind_some, readTokens_cons]
          exact read

/-- Operands with bars between them are read as the alternatives of a group. -/
theorem readTokens_alternatives {tales : List (List Token)} {trees : List TypeTree}
    (reads : List.Forall₂ ReadsOperand tales trees) (some : trees ≠ [])
    (alternatives : List TypeTree) (outer : List Group) :
    ∃ group, readTokens (⟨alternatives, [], .missing⟩ :: outer)
        ([Token.bar].intercalate tales) = .some (group :: outer) ∧
      group.alternatives? = .some (alternatives.reverse ++ trees) := by
  induction reads generalizing alternatives with
  | nil => exact absurd rfl some
  | @cons tale tree tales trees first others ih =>
      cases others with
      | nil =>
          refine ⟨⟨alternatives, [], .whole tree⟩, ?_, ?_⟩
          · simpa using first alternatives [] outer
          · simp [Group.alternatives?, Group.factors?, TypeTree.joined]
      | @cons next second tales trees here later =>
          obtain ⟨group, read, parts⟩ := ih (by simp) (tree :: alternatives)
          refine ⟨group, ?_, by simpa using parts⟩
          have join : [Token.bar].intercalate (tale :: next :: tales) =
              tale ++ (.bar :: [Token.bar].intercalate (next :: tales)) := by
            simp [List.intercalate]
          have passed : readToken (⟨alternatives, [], .whole tree⟩ :: outer) .bar =
              .some (⟨tree :: alternatives, [], .missing⟩ :: outer) := by
            simp [readToken, Group.alternatives?, Group.factors?, TypeTree.joined]
          rw [join, readTokens_append, first, Option.bind_some, readTokens_cons, passed]
          exact read

theorem joined_of_several (join : List TypeTree → TypeTree) {trees : List TypeTree}
    (several : 1 < trees.length) : TypeTree.joined join trees = join trees := by
  match trees with
  | [_] => exact absurd several (by simp)
  | [] | _ :: _ :: _ => rfl

/-- Several operands with bars between them are a union. -/
theorem readsGroup_union {tales : List (List Token)} {trees : List TypeTree}
    (reads : List.Forall₂ ReadsOperand tales trees) (several : 1 < trees.length) :
    ReadsGroup ([Token.bar].intercalate tales) (.union trees) := by
  intro outer
  have some : trees ≠ [] := by
    rintro rfl
    exact absurd several (by decide)
  obtain ⟨group, read, parts⟩ := readTokens_alternatives reads some [] outer
  refine ⟨group, read, ?_⟩
  rw [Group.tree?, parts, Option.map_some, List.reverse_nil, List.nil_append,
    joined_of_several _ several]

/-- Several operands with ampersands between them are an intersection. -/
theorem readsGroup_intersection {tales : List (List Token)} {trees : List TypeTree}
    (reads : List.Forall₂ ReadsOperand tales trees) (several : 1 < trees.length) :
    ReadsGroup ([Token.ampersand].intercalate tales) (.intersection trees) := by
  intro outer
  have some : trees ≠ [] := by
    rintro rfl
    exact absurd several (by decide)
  obtain ⟨group, read, none, parts⟩ := readTokens_factors reads some [] [] outer
  refine ⟨group, read, ?_⟩
  rw [Group.tree?, Group.alternatives?, parts, none, Option.map_some, Option.map_some,
    List.reverse_nil, List.nil_append, joined_of_several _ several]
  rfl

/-! ## Texts of trees -/

/-- A text that a reader takes as a whole: a word, or a literal in quotes. -/
def IsAtom (text : String) : Prop :=
  (text ≠ "" ∧ ∀ c ∈ text.toList, isWordCharacter c = true) ∨
    ∃ content, text = stringLiteral content

theorem IsAtom.passed {text : String} (atom : IsAtom text) : PassedFrom 0 text.toList := by
  rcases atom with ⟨-, word⟩ | ⟨content, rfl⟩
  · exact passedFrom_word 0 word
  · exact passedFrom_stringLiteral 0 content

theorem IsAtom.ne_empty {text : String} (atom : IsAtom text) : text ≠ "" := by
  rcases atom with ⟨some, -⟩ | ⟨content, rfl⟩
  · exact some
  · intro empty
    have same := congrArg String.toList empty
    simp [stringLiteral] at same

/-- An atom has one token. -/
theorem IsAtom.scans {text : String} (atom : IsAtom text) :
    Scans wordToken markToken text.toList [.atom text] := by
  have token : wordToken text.toList = [.atom text] := by
    have some : text.toList.isEmpty = false := by simpa using atom.ne_empty
    simp [wordToken, some]
  rw [← token]
  rcases atom with ⟨-, word⟩ | ⟨content, rfl⟩
  · exact scans_plain rfl fun c listed => isPlain_of_isWordCharacter (word c listed)
  · exact scans_stringLiteral rfl content

namespace TypeTree

mutual

/-- The text of a tree; beside an operator a union or an intersection is in parentheses. -/
def text : TypeTree → String
  | .atom text => text
  | .array item => parenthesize (text item) ++ "[]"
  | .union members => String.intercalate " | " (texts members)
  | .intersection members => String.intercalate " & " (texts members)

/-- The texts of the members of a union or an intersection. -/
def texts : List TypeTree → List String
  | [] => []
  | member :: rest => parenthesize (text member) :: texts rest

end

theorem texts_eq_map (members : List TypeTree) :
    texts members = members.map fun member => parenthesize member.text := by
  induction members with
  | nil => rw [texts, List.map_nil]
  | cons member rest ih => rw [texts, List.map_cons, ih]

/-- The atoms of the tree are taken as a whole, and its unions and intersections have several
members. -/
inductive Solid : TypeTree → Prop
  | atom {text : String} : IsAtom text → Solid (.atom text)
  | array {item : TypeTree} : Solid item → Solid (.array item)
  | union {members : List TypeTree} :
      1 < members.length → (∀ member ∈ members, Solid member) → Solid (.union members)
  | intersection {members : List TypeTree} :
      1 < members.length → (∀ member ∈ members, Solid member) → Solid (.intersection members)

theorem solid_joined {join : List TypeTree → TypeTree} {members : List TypeTree}
    (joins : 1 < members.length → Solid (join members)) (some : members ≠ [])
    (solid : ∀ member ∈ members, Solid member) : Solid (joined join members) := by
  match members with
  | [] => exact absurd rfl some
  | [member] => exact solid member List.mem_cons_self
  | _ :: _ :: _ => exact joins (by simp)

theorem eraseDups_ne_nil {members : List TypeTree} (some : members ≠ []) :
    members.eraseDups ≠ [] := by
  cases members with
  | nil => exact absurd rfl some
  | cons member rest => simp [List.eraseDups_cons]

theorem solid_unionOf {members : List TypeTree} (some : members ≠ [])
    (solid : ∀ member ∈ members, Solid member) : Solid (unionOf members) := by
  have kept : ∀ member ∈ members.eraseDups, Solid member := fun member listed =>
    solid member (List.mem_eraseDups.mp listed)
  exact solid_joined (fun several => .union several kept) (eraseDups_ne_nil some) kept

theorem solid_intersectionOf {members : List TypeTree} (some : members ≠ [])
    (solid : ∀ member ∈ members, Solid member) : Solid (intersectionOf members) := by
  have kept : ∀ member ∈ members.eraseDups, Solid member := fun member listed =>
    solid member (List.mem_eraseDups.mp listed)
  exact solid_joined (fun several => .intersection several kept) (eraseDups_ne_nil some) kept

/-! ## Reading the text of a tree -/

/-- The text is spelled as that of the tree, and its tokens are read as the tree: as a group
where a group starts, and as an operand in parentheses or when the tree is not joined. -/
structure IsRead (tree : TypeTree) : Prop where
  spelled : SpelledAs tree.isJoined tree.text
  scanned : ∃ tale, Scans wordToken markToken tree.text.toList tale ∧ ReadsGroup tale tree ∧
    (tree.isJoined = false → ReadsOperand tale tree)

theorem IsRead.of_operand {tree : TypeTree} (passed : PassedFrom 0 tree.text.toList)
    (single : tree.isJoined = false) {tale : List Token}
    (scans : Scans wordToken markToken tree.text.toList tale) (reads : ReadsOperand tale tree) :
    IsRead tree where
  spelled := single ▸ spelledAs_of_passedFrom passed
  scanned := ⟨tale, scans, reads.group, fun _ => reads⟩

/-- Beside an operator a tree is read as an operand. -/
theorem IsRead.operand {tree : TypeTree} (read : IsRead tree) :
    ∃ tale, Scans wordToken markToken (parenthesize tree.text).toList tale ∧
      ReadsOperand tale tree := by
  obtain ⟨tale, scans, group, operand⟩ := read.scanned
  cases single : tree.isJoined with
  | false =>
      refine ⟨tale, ?_, operand single⟩
      rwa [parenthesize, read.spelled.found, single, if_neg (by simp)]
  | true =>
      refine ⟨.openParenthesis :: (tale ++ [.closeParenthesis]), ?_, group.parentheses⟩
      have inside := scans.between rfl ['('] [')'] (List.all_eq_true.mp (by decide))
        (List.all_eq_true.mp (by decide))
      rw [parenthesize, read.spelled.found, single, if_pos rfl]
      simpa [markToken] using inside

/-- Beside operators trees are read as operands. -/
theorem operands_of_isRead {members : List TypeTree} (read : ∀ member ∈ members, IsRead member) :
    ∃ tales, List.Forall₂ (Scans wordToken markToken)
        ((texts members).map String.toList) tales ∧ List.Forall₂ ReadsOperand tales members := by
  induction members with
  | nil => exact ⟨[], .nil, .nil⟩
  | cons member rest ih =>
      obtain ⟨tale, scans, reads⟩ := (read member List.mem_cons_self).operand
      obtain ⟨tales, others, operands⟩ := ih fun other listed =>
        read other (List.mem_cons_of_mem member listed)
      rw [texts, List.map_cons]
      exact ⟨tale :: tales, .cons scans others, .cons reads operands⟩

/-- Joined members are read as what they are joined to. -/
theorem isRead_joined {members : List TypeTree} {operator : Char} {token : Token}
    {join : List TypeTree → TypeTree} (isOperator : operator = '|' ∨ operator = '&')
    (mark : [' ', operator, ' '].flatMap markToken = [token])
    (joins : (join members).isJoined = true)
    (written : (join members).text =
      String.intercalate (String.ofList [' ', operator, ' ']) (texts members))
    (reads : ∀ tales, List.Forall₂ ReadsOperand tales members →
      ReadsGroup ([token].intercalate tales) (join members))
    (several : 1 < members.length) (read : ∀ member ∈ members, IsRead member) :
    IsRead (join members) := by
  obtain ⟨tales, scans, operands⟩ := operands_of_isRead read
  have delimits : ∀ c ∈ [' ', operator, ' '], isDelimiter c = true := by
    rcases isOperator with rfl | rfl <;> exact List.all_eq_true.mp (by decide)
  constructor
  · have passed : ∀ text ∈ texts members, PassedFrom 0 text.toList := by
      rw [texts_eq_map]
      intro text listed
      obtain ⟨member, inside, rfl⟩ := List.mem_map.mp listed
      exact (read member inside).spelled.parenthesize
    have spelled := spelledAs_intercalate isOperator passed
    rw [texts_eq_map, List.length_map, decide_eq_true several, ← texts_eq_map] at spelled
    rw [joins, written]
    exact spelled
  · refine ⟨[token].intercalate tales, ?_, reads tales operands, fun single => ?_⟩
    · have silent : wordToken [] = [] := rfl
      have told := scans_intercalate silent (List.cons_ne_nil _ _) delimits scans
      rw [written, String.toList_intercalate, String.toList_ofList]
      rwa [mark] at told
    · rw [joins] at single
      exact Bool.noConfusion single

/-- The text of a solid tree is read as the tree. -/
theorem Solid.isRead {tree : TypeTree} (solid : Solid tree) : IsRead tree := by
  induction solid with
  | @atom text atom =>
      apply IsRead.of_operand _ rfl _ (readsOperand_atom text)
      · rw [TypeTree.text]
        exact atom.passed
      · rw [TypeTree.text]
        exact atom.scans
  | @array item _ read =>
      obtain ⟨tale, scans, reads⟩ := read.operand
      have brackets := scans.between rfl [] ['[', ']'] (List.all_eq_true.mp (by decide))
        (List.all_eq_true.mp (by decide))
      apply IsRead.of_operand _ rfl _ reads.array
      · rw [TypeTree.text, String.toList_append]
        exact read.spelled.parenthesize.append (passedFrom_brackets 0)
      · rw [TypeTree.text, String.toList_append]
        simpa [markToken] using brackets
  | @union members several _ read =>
      exact isRead_joined (Or.inl rfl) rfl (decide_eq_true several) (by rw [TypeTree.text])
        (fun _ operands => readsGroup_union operands several) several read
  | @intersection members several _ read =>
      exact isRead_joined (Or.inr rfl) rfl (decide_eq_true several) (by rw [TypeTree.text])
        (fun _ operands => readsGroup_intersection operands several) several read

/-- Reading the text of a solid tree gives the tree. -/
theorem Solid.parse_text {tree : TypeTree} (solid : Solid tree) : parse tree.text = some tree := by
  obtain ⟨tale, scans, reads, -⟩ := solid.isRead.scanned
  obtain ⟨group, read, whole⟩ := reads []
  have scanned := scans [] follows_nil
  rw [List.append_nil] at scanned
  have all : tokens tree.text = tale := by
    rw [tokens, scanned]
    simp [scanFrom, wordToken]
  simp only [parse, all, read, whole]

example : parse "'a | b'[] | (A | B & C[])[] & D" =
    some (.union [.array (.atom "'a | b'"),
      .intersection [.array (.union [.atom "A", .intersection [.atom "B", .array (.atom "C")]]),
        .atom "D"]]) := by
  decide +kernel

/-- The text of a solid tree has an operator at its top level exactly when the tree is joined. -/
theorem Solid.hasOperator_text {tree : TypeTree} (solid : Solid tree) :
    hasOperator tree.text = tree.isJoined :=
  solid.isRead.spelled.found

/-- Solid trees with one text are equal. -/
theorem Solid.eq_of_text_eq {first second : TypeTree} (solid : Solid first)
    (other : Solid second) (same : first.text = second.text) : first = second := by
  have read := solid.parse_text
  rw [same, other.parse_text] at read
  exact (Option.some.inj read).symm

end TypeTree

end AsyncTypes.TypeScript

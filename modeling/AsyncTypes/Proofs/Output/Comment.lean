import AsyncTypes.Proofs.Compilation.Invariant
import AsyncTypes.Proofs.Output.CommentText
import AsyncTypes.Proofs.Output.PropertyKey

/-!
# The comments of an output

A reader of an output goes through code, literals in quotes and comments, and it tells the
comments, each from its opening to the first terminator after it.  It stops where the text is
broken: at a literal or a comment that does not end, or at a character of code that would open
something else.  An output is read to its end, and its comments are those that the compiler
has written, so no text of a document ends its comment or opens another one.
-/

namespace AsyncTypes.TypeScript

/-! ## Reading comments -/

/-- Where a reader is: in code, in a literal, or in a comment of which it has read these
characters, most recent first. -/
inductive Place
  | code
  | literal
  | comment (read : List Char)

/-- A character that is read as code: it opens no literal and no comment, and it is no part of
what does. -/
def isCode (c : Char) : Bool :=
  !(['\'', '\x22', '\x60', '/', '\\'].contains c)

/-- The comments of a text that is read from a place, when it is read to its end. -/
def commentsFrom : Place → List Char → Option (List String)
  | .code, [] => some []
  | .code, '/' :: '*' :: rest => commentsFrom (.comment ['*', '/']) rest
  | .code, c :: rest =>
      if c = '\'' then commentsFrom .literal rest
      else if isCode c then commentsFrom .code rest
      else none
  | .literal, '\'' :: rest => commentsFrom .code rest
  | .literal, '\\' :: c :: rest => if isLineEnd c then none else commentsFrom .literal rest
  | .literal, c :: rest => if isLineEnd c then none else commentsFrom .literal rest
  | .comment read, '*' :: '/' :: rest =>
      (commentsFrom .code rest).map (String.ofList (read.reverse ++ ['*', '/']) :: ·)
  | .comment read, c :: rest => commentsFrom (.comment (c :: read)) rest
  | .literal, [] | .comment _, [] => none

/-- The comments of a text. -/
def comments (text : String) : Option (List String) :=
  commentsFrom .code text.toList

/-- Whatever follows the text, its comments are told of it, and the reader goes on with code. -/
def Remarks (text : String) (told : List String) : Prop :=
  ∀ rest, commentsFrom .code (text.toList ++ rest) = (commentsFrom .code rest).map (told ++ ·)

/-- The text has no comments. -/
def Silent (text : String) : Prop :=
  Remarks text []

namespace Remarks

variable {first second : String} {told more : List String}

theorem append (remarks : Remarks first told) (also : Remarks second more) :
    Remarks (first ++ second) (told ++ more) := by
  intro rest
  rw [String.toList_append, List.append_assoc, remarks, also, Option.map_map]
  congr 1
  funext later
  exact (List.append_assoc told more later).symm

/-- Without what follows, a text is read to its end. -/
theorem comments_eq (remarks : Remarks first told) : comments first = some told := by
  have whole := remarks []
  rwa [List.append_nil, commentsFrom, Option.map_some, List.append_nil] at whole

/-- A text without comments may follow. -/
theorem followed (remarks : Remarks first told) (silent : Silent second) :
    Remarks (first ++ second) told := by
  simpa using remarks.append silent

/-- A text of code has no comments. -/
theorem code (plain : first.toList.all isCode = true) : Silent first := by
  have told : ∀ text rest : List Char, text.all isCode = true →
      commentsFrom .code (text ++ rest) = commentsFrom .code rest := by
    intro text rest plain
    induction text with
    | nil => rfl
    | cons c text ih =>
        rw [List.all_cons, Bool.and_eq_true] at plain
        have quote : c ≠ '\'' := by
          rintro rfl
          exact absurd plain.1 (by decide)
        have slash : c ≠ '/' := by
          rintro rfl
          exact absurd plain.1 (by decide)
        rw [List.cons_append, commentsFrom, if_neg quote, if_pos plain.1, ih plain.2]
        exact fun _ same => absurd same slash
  intro rest
  rw [told _ _ plain]
  exact Option.map_id'.symm

/-- The literal of a text has no comments, whatever the text is. -/
theorem literal (text : String) : Silent (stringLiteral text) := by
  have escaped : ∀ content rest : List Char,
      commentsFrom .literal (content.flatMap escapeCharacter ++ rest) =
        commentsFrom .literal rest := by
    intro content rest
    induction content with
    | nil => rfl
    | cons c content ih =>
        rw [List.flatMap_cons, List.append_assoc]
        rcases escapeCharacter_cases c with
          ⟨d, escaped, online, -⟩ | ⟨same, backslash, quote, online⟩
        · simp [escaped, commentsFrom, online, ih]
        · simp [same, commentsFrom, backslash, online, ih]
  intro rest
  rw [stringLiteral, String.toList_ofList, List.cons_append, List.cons_append, List.append_assoc,
    commentsFrom, if_pos rfl, escaped]
  · exact Option.map_id'.symm
  · simp

/-- A comment without a terminator inside is told, up to the terminator at its end. -/
theorem comment {body : String} (unbroken : Unbroken body) :
    Remarks ("/*" ++ body ++ "*/") ["/*" ++ body ++ "*/"] := by
  have closes : ∀ read body rest : List Char, body.IsChain Apart →
      commentsFrom (.comment read) (body ++ '*' :: '/' :: rest) =
        (commentsFrom .code rest).map
          (String.ofList (read.reverse ++ body ++ ['*', '/']) :: ·) := by
    intro read body rest apart
    induction body generalizing read with
    | nil => simp [commentsFrom]
    | cons c body ih =>
        rw [List.cons_append, commentsFrom, ih _ (List.isChain_cons.mp apart).2]
        · simp
        · exact not_closes apart rest
  intro rest
  have spelled : ("/*" ++ body ++ "*/").toList = '/' :: '*' :: (body.toList ++ ['*', '/']) := by
    simp
  have whole : "/*" ++ body ++ "*/" =
      String.ofList ('/' :: '*' :: (body.toList ++ ['*', '/'])) := by
    rw [← spelled, String.ofList_toList]
  rw [whole, String.toList_ofList]
  simpa [commentsFrom] using closes ['*', '/'] body.toList rest unbroken

/-- A comment whose body is a frame is told as it is spelled. -/
theorem of_frame {body whole : String} (frame : IsFrame body)
    (spelled : whole = "/*" ++ body ++ "*/") : Remarks whole [whole] := by
  rw [spelled]
  exact comment frame.1

/-- Texts that code separates have their comments in order. -/
theorem intercalate {separator : String} (plain : separator.toList.all isCode = true)
    {texts : List String} {tales : List (List String)} (each : List.Forall₂ Remarks texts tales) :
    Remarks (separator.intercalate texts) tales.flatten := by
  induction each with
  | nil => exact code rfl
  | @cons text tale rest others first later ih =>
      cases later with
      | nil => simpa using first
      | cons next more =>
          rw [String.intercalate_cons_cons, List.flatten_cons]
          simpa using (first.append (code plain)).append ih

end Remarks

/-! ## Written comments -/

/-- The comment in front of a declaration, for its description. -/
def docComment (text : String) : String :=
  "/**\n * " ++ commentText text ++ "\n */"

/-- The comment in front of a field, for its description. -/
def lineComment (text : String) : String :=
  "/** " ++ commentText text ++ " */"

theorem remarks_docComment (text : String) : Remarks (docComment text) [docComment text] := by
  have frame : IsFrame ("*\n * " ++ commentText text ++ "\n ") :=
    IsFrame.around (by decide) (unbroken_commentText text) (by decide)
  apply Remarks.of_frame frame
  rw [← String.toList_inj]
  simp [docComment]

theorem remarks_lineComment (text : String) : Remarks (lineComment text) [lineComment text] := by
  have frame : IsFrame ("* " ++ commentText text ++ " ") :=
    IsFrame.around (by decide) (unbroken_commentText text) (by decide)
  apply Remarks.of_frame frame
  rw [← String.toList_inj]
  simp [lineComment]

/-- The comment at the head of an output is told, whatever the document is called and however
it is described. -/
theorem remarks_heading (document : Document) :
    Remarks (heading document) [heading document] := by
  have title : IsFrame ("*\n * Generated from AsyncAPI spec: " ++ commentText document.title ++
      " v") :=
    IsFrame.around (by decide) (unbroken_commentText document.title) (by decide)
  have version := unbroken_commentText document.version
  have closing : IsFrame "\n *\n * This file is auto-generated. Do not edit it manually.\n " := by
    decide +kernel
  cases described : given? document.description with
  | none =>
      apply Remarks.of_frame (title.around version closing)
      rw [← String.toList_inj]
      simp [heading, described, String.intercalate_cons_cons]
  | some text =>
      have opening : IsFrame "\n * " := by decide
      apply Remarks.of_frame
        ((title.around version opening).around (unbroken_commentText text) closing)
      rw [← String.toList_inj]
      simp [heading, described, String.intercalate_cons_cons]

theorem remarks_blockComment (description : Option String) :
    Remarks (blockComment description) ((given? description).toList.map docComment) := by
  unfold blockComment
  cases given? description with
  | none => exact .code rfl
  | some text =>
      have spelled : "/**\n * " ++ commentText text ++ "\n */\n" = docComment text ++ "\n" := by
        rw [← String.toList_inj]
        simp [docComment]
      simpa [spelled] using (remarks_docComment text).append (.code (by decide))

/-! ## Types and names -/

/-- A class without the characters that are no code consists of code. -/
theorem isCode_of_class {among : Char → Bool}
    (apart : ['\'', '\x22', '\x60', '/', '\\'].any among = false) {text : List Char}
    (all : ∀ c ∈ text, among c = true) : text.all isCode = true := by
  rw [List.all_eq_true]
  intro c listed
  rw [isCode, Bool.not_eq_true', ← Bool.not_eq_true, List.contains_iff_mem]
  intro opens
  exact List.any_eq_false.mp apart c opens (all c listed)

theorem remarks_name {name : String} (named : IsName name) : Silent name :=
  .code (isCode_of_class (by decide) named.characters)

/-- The text of a type that can be written has no comments. -/
theorem TypeExpr.Writable.remarks {type : TypeExpr} (writable : type.Writable)
    (options : Options) : Silent (type.render options.fallback) := by
  have append : ∀ first second : String, Silent first → Silent second →
      Silent (first ++ second) := fun _ _ silent also => silent.followed also
  have delimits : ∀ text : String, text.toList.all isDelimiter = true → Silent text :=
    fun _ delimits => .code (isCode_of_class (by decide) (List.all_eq_true.mp delimits))
  refine TypeExpr.render_of_leaves append delimits type fun leaf inside => ?_
  rcases (writable leaf inside).leaf_or_literal options with plain | ⟨content, same⟩
  · exact .code (isCode_of_class (by decide) plain)
  · rw [same]
    exact .literal content

/-- A property key has no comments, whether it stands bare or in quotes. -/
theorem remarks_propertyKey (key : String) : Silent (propertyKey key) := by
  have plain : ∀ text : List Char,
      (∀ c ∈ text, (continuesIdentifier c || c == '\n') = true) → text.all isCode = true :=
    fun _ => isCode_of_class (by decide)
  unfold propertyKey
  split
  · next bare =>
      apply Remarks.code
      apply plain
      rcases isBareKey_cases bare with identifier | ⟨name, identifier, spelled⟩
      · intro c member
        rw [continuesIdentifier_of_mem identifier c member]
        rfl
      · rw [spelled, List.forall_mem_append]
        constructor
        · intro c member
          rw [continuesIdentifier_of_mem identifier c member]
          rfl
        · simp
  · exact .literal key

/-! ## Declarations -/

/-- The comment of a field, when it has one. -/
def Field.comments (field : Field) : List String :=
  (given? field.description).toList.map lineComment

/-- The comments of a declaration in order. -/
def Declaration.comments : Declaration → List String
  | .alias _ description _ | .enumeration _ description _ =>
      (given? description).toList.map docComment
  | .interface _ description fields _ =>
      (given? description).toList.map docComment ++ fields.flatMap Field.comments

/-- The line of a field comes after that of its comment. -/
theorem forall₂_lines (options : Options) {field : Field} (writable : field.type.Writable) :
    List.Forall₂ Remarks (field.lines options.fallback)
      (field.comments.map (fun comment => [comment]) ++ [[]]) := by
  have mark : Silent (if field.optional then "?" else "") := by
    split
    · exact .code (by decide)
    · exact .code rfl
  have key : Silent ("  " ++ propertyKey field.key) :=
    (Remarks.code rfl).followed (remarks_propertyKey field.key)
  have property : Silent ("  " ++ propertyKey field.key ++ (if field.optional then "?" else "") ++
      ": " ++ field.type.render options.fallback ++ ";") :=
    (((key.followed mark).followed (.code rfl)).followed (writable.remarks options)).followed
      (.code rfl)
  unfold Field.lines Field.comments
  cases given? field.description with
  | none => exact .cons property .nil
  | some text =>
      have comment : Remarks ("  " ++ lineComment text) [lineComment text] :=
        (Remarks.code rfl).append (remarks_lineComment text)
      have spelled : "  " ++ lineComment text = "  /** " ++ commentText text ++ " */" := by
        rw [← String.toList_inj]
        simp [lineComment]
      rw [spelled] at comment
      exact .cons comment (.cons property .nil)

theorem remarks_memberLine {member : String × String} (named : IsName member.1) :
    Silent (Declaration.memberLine member) := by
  have name : Silent ("  " ++ member.1) := (Remarks.code rfl).followed (remarks_name named)
  exact ((name.followed (.code rfl)).followed (.literal member.2)).followed (.code rfl)

theorem forall₂_fieldLines (options : Options) {fields : List Field}
    (writable : AllWritable (fields.map (·.type))) :
    List.Forall₂ Remarks (fields.flatMap (Field.lines options.fallback))
      (fields.flatMap fun field => field.comments.map (fun comment => [comment]) ++ [[]]) := by
  induction fields with
  | nil => exact .nil
  | cons field rest ih =>
      rw [List.map_cons, AllWritable, List.forall_mem_cons] at writable
      rw [List.flatMap_cons, List.flatMap_cons]
      exact List.rel_append (forall₂_lines options writable.1) (ih writable.2)

/-- The lines between the braces of an interface have the comments of its fields. -/
theorem remarks_bodyLines (options : Options) {fields : List Field} {index : Option TypeExpr}
    (writable : RecordWritable (fields, index)) :
    Remarks (String.intercalate "\n" (Declaration.bodyLines options.fallback fields index))
      (fields.flatMap Field.comments) := by
  obtain ⟨fieldsWritable, indexWritable⟩ := List.forall_mem_append.mp writable
  have indexLines : List.Forall₂ Remarks (index.map fun type =>
      "  [key: string]: " ++ type.render options.fallback ++ ";").toList
      (index.toList.map fun _ => []) := by
    cases index with
    | none => exact .nil
    | some type =>
        have signature : Silent ("  [key: string]: " ++ type.render options.fallback) :=
          (Remarks.code rfl).followed ((indexWritable type List.mem_cons_self).remarks options)
        exact .cons (signature.followed (.code rfl)) .nil
  have fieldsTold : ∀ fields : List Field, (fields.flatMap fun field =>
      field.comments.map (fun comment => [comment]) ++ [[]]).flatten =
        fields.flatMap Field.comments := by
    intro fields
    induction fields with
    | nil => rfl
    | cons field rest ih => simp [ih, ← List.flatMap_def]
  have told : ((fields.flatMap fun field : Field =>
      field.comments.map (fun comment => [comment]) ++ [[]]) ++
        index.toList.map fun _ => []).flatten = fields.flatMap Field.comments := by
    rw [List.flatten_append, fieldsTold]
    simp
  rw [← told]
  exact .intercalate rfl (List.rel_append (forall₂_fieldLines options fieldsWritable) indexLines)

/-- The block of a well-formed declaration has the comments of the declaration. -/
theorem Declaration.WellFormed.remarks {declaration : Declaration}
    (formed : declaration.WellFormed) (options : Options) :
    Remarks (declaration.render options) declaration.comments := by
  have exported : Silent options.exportWord := by
    unfold Options.exportWord
    split
    · exact .code (by decide)
    · exact .code rfl
  have head : ∀ {keyword : String}, keyword.toList.all isCode = true →
      Remarks (blockComment declaration.description ++ options.exportWord ++ keyword ++
        declaration.name) ((given? declaration.description).toList.map docComment) :=
    fun plain => (((remarks_blockComment _).followed exported).followed (.code plain)).followed
      (remarks_name formed.named)
  match declaration with
  | .alias name description type =>
      have written := (formed.types type List.mem_cons_self).remarks options
      have plain : "type ".toList.all isCode = true := rfl
      exact (((head plain).followed (.code rfl)).followed written).followed (.code rfl)
  | .enumeration name description members =>
      have plain : "enum ".toList.all isCode = true := rfl
      have lines : List.Forall₂ Remarks (members.map memberLine) (members.map fun _ => []) := by
        rw [List.forall₂_map_left_iff, List.forall₂_map_right_iff, List.forall₂_same]
        exact fun member listed => remarks_memberLine (formed.members member listed)
      have last : List.Forall₂ Remarks ["\x7d"] [[]] := .cons (.code rfl) .nil
      have body : Silent (String.intercalate "\n" (members.map memberLine ++ ["\x7d"])) := by
        simpa [Silent] using Remarks.intercalate rfl (List.rel_append lines last)
      exact ((head plain).followed (.code rfl)).followed body
  | .interface name description fields index =>
      have plain : "interface ".toList.all isCode = true := rfl
      have body := remarks_bodyLines options formed.types
      rw [render]
      split
      · next none =>
          rw [none] at body
          have silent : fields.flatMap Field.comments = [] :=
            (Option.some.inj body.comments_eq).symm
          rw [comments, silent, List.append_nil]
          exact (head plain).followed (.code rfl)
      · exact (((head plain).followed (.code rfl)).append body).followed (.code rfl)

/-! ## Outputs -/

/-- No text breaks out of its comment.  A text is made safe without a terminator and without
line ends in it, and it stays as it is when it is made safe once more.  Each comment that is
written for a description, and the comment at the head of an output, ends with the terminator
at its own end, whatever follows it.  And the comments of an output are exactly these, those of
the declarations in their order after the one at the head. -/
theorem comments_unbroken :
    (∀ text : String, ¬ ['*', '/'] <:+: (commentText text).toList ∧
      (∀ c ∈ (commentText text).toList, isLineEnd c = false) ∧
      commentText (commentText text) = commentText text) ∧
    (∀ text, Remarks (docComment text) [docComment text]) ∧
    (∀ text, Remarks (lineComment text) [lineComment text]) ∧
    ∀ (document : Document) (options : Options),
      Remarks (heading document) [heading document] ∧
      comments (generate document options).output =
        some (heading document ::
          (compile document options).declarations.flatMap Declaration.comments) := by
  refine ⟨fun text => ⟨no_terminator (unbroken_commentText text),
    fun _ => not_isLineEnd_of_mem_commentText, commentText_commentText text⟩, remarks_docComment,
    remarks_lineComment, ?_⟩
  intro document options
  refine ⟨remarks_heading document, ?_⟩
  have formed := (wellFormed_compile document options).declarations
  have blocks : List.Forall₂ Remarks
      ((compile document options).declarations.map (Declaration.render options))
      ((compile document options).declarations.map Declaration.comments) := by
    rw [List.forall₂_map_left_iff, List.forall₂_map_right_iff, List.forall₂_same]
    exact fun declaration listed => (formed declaration listed).remarks options
  have whole := Remarks.intercalate (by decide : "\n\n".toList.all isCode = true)
    (.cons (remarks_heading document) blocks)
  have ended := whole.followed (.code (by decide : "\n".toList.all isCode = true))
  rw [List.flatten_cons, ← List.flatMap_def] at ended
  exact ended.comments_eq

end AsyncTypes.TypeScript

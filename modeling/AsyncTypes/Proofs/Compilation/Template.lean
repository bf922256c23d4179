import AsyncTypes.Proofs.Compilation.Outline
import AsyncTypes.Proofs.Expression.Operator

/-!
# Texts with places for the options

A template is a text with places for the word for the fallback.  The template of a type
depends on no option, since the parentheses in it are told by the type.  So every block is
its comment, the word in front of a declaration and a template that is filled, and every
warning is a template that is filled.
-/

namespace AsyncTypes.TypeScript

/-! ## Templates -/

/-- A piece of a template: a text, or a place for the word for the fallback. -/
inductive Piece
  | text (content : String)
  | fallback
deriving DecidableEq

/-- A text with places for the word for the fallback. -/
abbrev Template := List Piece

namespace Template

/-- The text of a template, given the word for the fallback. -/
def fill (fallback : String) : Template → String
  | [] => ""
  | .text content :: rest => content ++ fill fallback rest
  | .fallback :: rest => fallback ++ fill fallback rest

@[simp]
theorem fill_nil (fallback : String) : fill fallback [] = "" :=
  rfl

@[simp]
theorem fill_text (fallback content : String) (rest : Template) :
    fill fallback (.text content :: rest) = content ++ fill fallback rest :=
  rfl

@[simp]
theorem fill_fallback (fallback : String) (rest : Template) :
    fill fallback (.fallback :: rest) = fallback ++ fill fallback rest :=
  rfl

@[simp]
theorem fill_append (fallback : String) (first second : Template) :
    fill fallback (first ++ second) = fill fallback first ++ fill fallback second := by
  induction first with
  | nil => simp
  | cons piece rest ih => cases piece <;> simp [ih, String.append_assoc]

/-- Templates with a text between them. -/
def join (separator : String) (templates : List Template) : Template :=
  [Piece.text separator].intercalate templates

/-- Joined templates are filled one by one. -/
@[simp]
theorem fill_join (fallback separator : String) (templates : List Template) :
    fill fallback (join separator templates) =
      separator.intercalate (templates.map (fill fallback)) := by
  induction templates with
  | nil => rfl
  | cons first rest ih =>
      cases rest with
      | nil => simp [join]
      | cons second rest =>
          have later : fill fallback ([Piece.text separator].intercalate (second :: rest)) =
              separator.intercalate ((second :: rest).map (fill fallback)) := ih
          rw [join, List.intercalate_cons_cons, fill_append, fill_append, later]
          simp [String.append_assoc]

/-- A template that may stand beside an operator, told whether it is joined. -/
def parenthesize (joined : Bool) (template : Template) : Template :=
  if joined then .text "(" :: template ++ [.text ")"] else template

theorem fill_parenthesize {fallback : String} {joined : Bool} {template : Template}
    (told : hasOperator (fill fallback template) = joined) :
    fill fallback (parenthesize joined template) =
      TypeScript.parenthesize (fill fallback template) := by
  unfold TypeScript.parenthesize
  rw [told, parenthesize]
  split
  · simp [String.append_assoc]
  · rfl

end Template

open Template

/-! ## Types -/

namespace TypeExpr

mutual

/-- The template of a type. -/
def template : TypeExpr → Template
  | .fallback => [.fallback]
  | .named name => [.text name]
  | .keyword word => [.text word]
  | .literal text => [.text text]
  | .array item => Template.parenthesize item.isJoined (template item) ++ [.text "[]"]
  | .union members => Template.join " | " (memberTemplates members)
  | .intersection members => Template.join " & " (memberTemplates members)

/-- The templates of the members of a union or an intersection. -/
def memberTemplates : List TypeExpr → List Template
  | [] => []
  | member :: rest =>
      Template.parenthesize member.isJoined (template member) :: memberTemplates rest

end

mutual

/-- The template of a type is filled to its text. -/
theorem Writable.fill_template (options : Options) : ∀ type : TypeExpr, type.Writable →
    fill options.fallback type.template = type.render options.fallback
  | .fallback, _ => by simp [template, render]
  | .named name, _ => by simp [template, render]
  | .keyword word, _ => by simp [template, render]
  | .literal text, _ => by simp [template, render]
  | .array item, writable => by
      have inside : item.Writable := by simpa [Writable] using writable
      have filled := Writable.fill_template options item inside
      have told := inside.hasOperator_render options
      rw [← filled] at told
      rw [template, fill_append, fill_parenthesize told, filled, render]
      simp
  | .union members, writable => by
      rw [template, fill_join, render,
        Writable.fill_memberTemplates options members (by simpa [Writable] using writable)]
  | .intersection members, writable => by
      rw [template, fill_join, render,
        Writable.fill_memberTemplates options members (by simpa [Writable] using writable)]

theorem Writable.fill_memberTemplates (options : Options) : ∀ members : List TypeExpr,
    (∀ leaf, ∀ member ∈ members, leaf ∈ member.leaves → leaf.IsWritable) →
    (memberTemplates members).map (fill options.fallback) =
      renderMembers options.fallback members
  | [], _ => rfl
  | member :: rest, leaves => by
      have writable : member.Writable := fun leaf inside =>
        leaves leaf member List.mem_cons_self inside
      have filled := Writable.fill_template options member writable
      have told := writable.hasOperator_render options
      rw [← filled] at told
      have others := Writable.fill_memberTemplates options rest fun leaf next listed =>
        leaves leaf next (List.mem_cons_of_mem member listed)
      rw [memberTemplates, List.map_cons, fill_parenthesize told, filled, others, renderMembers]

end

end TypeExpr

/-! ## Blocks -/

/-- A block: its comment and what follows the word in front of the declaration. -/
structure Block where
  comment : String
  declaration : Template
deriving DecidableEq

/-- The text of a block under given options. -/
def Block.fill (options : Options) (block : Block) : String :=
  block.comment ++ options.exportWord ++ block.declaration.fill options.fallback

/-- The templates of the lines of a field. -/
def Field.templates (field : Field) : List Template :=
  let property : Template :=
    .text ("  " ++ propertyKey field.key ++ (if field.optional then "?" else "") ++ ": ") ::
      field.type.template ++ [.text ";"]
  match given? field.description with
  | some text => [[.text ("  /** " ++ commentText text ++ " */")], property]
  | none => [property]

/-- The templates of a field are filled to its lines. -/
theorem Field.fill_templates {field : Field} (writable : field.type.Writable)
    (options : Options) :
    field.templates.map (Template.fill options.fallback) = field.lines options.fallback := by
  have filled := TypeExpr.Writable.fill_template options field.type writable
  unfold Field.templates Field.lines
  cases given? field.description with
  | none => simp [filled, String.append_assoc]
  | some text => simp [filled, String.append_assoc]

namespace Declaration

/-- The templates of the lines between the braces of an interface. -/
def bodyTemplates (fields : List Field) (index : Option TypeExpr) : List Template :=
  fields.flatMap Field.templates ++
    (index.map fun type => .text "  [key: string]: " :: type.template ++ [.text ";"]).toList

/-- The block of a declaration. -/
def block : Declaration → Block
  | .alias name description type =>
      ⟨blockComment description, .text ("type " ++ name ++ " = ") :: type.template ++ [.text ";"]⟩
  | .enumeration name description members =>
      ⟨blockComment description, [.text ("enum " ++ name ++ " \x7b\n" ++
        String.intercalate "\n" (members.map memberLine ++ ["\x7d"]))]⟩
  | .interface name description fields index =>
      ⟨blockComment description, .text ("interface " ++ name) ::
        match bodyTemplates fields index with
        | [] => [.text " \x7b\x7d"]
        | body => .text " \x7b\n" :: Template.join "\n" body ++ [.text "\n\x7d"]⟩

theorem fill_bodyTemplates {fields : List Field} {index : Option TypeExpr}
    (writable : ∀ type ∈ fields.map (·.type) ++ index.toList, type.Writable)
    (options : Options) :
    (bodyTemplates fields index).map (Template.fill options.fallback) =
      bodyLines options.fallback fields index := by
  have lines : ∀ field ∈ fields,
      field.templates.map (Template.fill options.fallback) = field.lines options.fallback :=
    fun field listed => field.fill_templates
      (writable _ (List.mem_append_left _ (List.mem_map_of_mem listed))) options
  unfold bodyTemplates bodyLines
  rw [List.map_append, List.map_flatMap, List.flatMap_congr lines]
  cases index with
  | none => rfl
  | some type =>
      have filled := TypeExpr.Writable.fill_template options type (writable type (by simp))
      simp [filled, String.append_assoc]

/-- The block of a declaration is filled to its text. -/
theorem fill_block {declaration : Declaration}
    (writable : ∀ type ∈ declaration.types, type.Writable) (options : Options) :
    declaration.block.fill options = declaration.render options := by
  match declaration, writable with
  | .alias name description type, writable =>
      have filled := TypeExpr.Writable.fill_template options type (writable type (by simp [types]))
      simp [block, Block.fill, render, filled, String.append_assoc]
  | .enumeration name description members, _ =>
      simp [block, Block.fill, render, String.append_assoc]
  | .interface name description fields index, writable =>
      have body := fill_bodyTemplates writable options
      rw [render, block, Block.fill, ← body]
      cases bodyTemplates fields index with
      | nil => simp [String.append_assoc]
      | cons line rest =>
          rw [List.map_cons]
          simp [String.append_assoc]

end Declaration

/-! ## Warnings -/

namespace Notice

/-- The notice as a compilation gives it under other options. -/
def told (options : Options) : Notice → Notice
  | .circularReference place key _ => .circularReference place key options.fallback
  | notice => notice

/-- The template of the warning that a notice gives. -/
def template? : Notice → Option Template
  | .unsupportedReference pointer => some [.text s!"Unsupported reference: {pointer}"]
  | .unresolvedReference pointer => some [.text s!"Unresolved reference: {pointer}"]
  | .circularReference _ key _ =>
      some [.text s!"Circular reference to '{key}' outside an interface; using '", .fallback,
        .text "'"]
  | .repeatedMessage _ => none

/-- The template of a warning is filled to the warning under the same options. -/
theorem fill_template? (options : Options) (notice : Notice) :
    (notice.told options).warning? = notice.template?.map (Template.fill options.fallback) := by
  cases notice with
  | circularReference place key fallback =>
      simp [told, warning?, template?, String.append_assoc, toString]
  | _ => simp [told, warning?, template?]

end Notice

end AsyncTypes.TypeScript

import AsyncTypes.Proofs.Compilation.Document
import AsyncTypes.Proofs.Compilation.Growth

/-!
# Every declaration is collected once

At the end of a compilation every name that was taken is declared, no declaration came
too late, and every name that stands in a declaration is declared itself.
-/

namespace AsyncTypes.TypeScript

variable {document : Document}

/-! ## The end of a compilation -/

theorem keeps_compile (distinct : document.KeysDistinct) (options : Options) :
    Keeps (Task.ofDocument document options) [] (Task.ofDocument document options).start
      (Task.ofDocument document options).collect fun _ after =>
        ∀ key name, (Task.ofDocument document options).schemaName? key = some name →
          name ∈ after.names :=
  keeps_collect (Task.coherent_ofDocument distinct options)

/-- A compilation ends in a sound state. -/
theorem sound_compile (distinct : document.KeysDistinct) (options : Options) :
    Sound (Task.ofDocument document options) (compile document options) :=
  (keeps_compile distinct options).sound

/-- At the end no component is active. -/
theorem active_compile (distinct : document.KeysDistinct) (options : Options) :
    (compile document options).active = [] :=
  (keeps_compile distinct options).extension.active

/-- At the end every component is declared. -/
theorem component_mem_names_compile (distinct : document.KeysDistinct) (options : Options)
    {key name : String}
    (named : (Task.ofDocument document options).schemaName? key = some name) :
    name ∈ (compile document options).names :=
  (keeps_compile distinct options).result key name named

/-- At the end every name that was taken is declared. -/
theorem mem_names_compile_of_mem_used (distinct : document.KeysDistinct) (options : Options)
    {name : String} (taken : name ∈ (compile document options).used) :
    name ∈ (compile document options).names := by
  have coherent := Task.coherent_ofDocument distinct options
  have keeps := keeps_compile distinct options
  rcases keeps.extension.settled name taken with before | mine | declared
  · obtain ⟨key, named⟩ := coherent.schemaName?_of_mem before
    exact keeps.result key name named
  · exact absurd mine List.not_mem_nil
  · exact declared

/-! ## The text of a declaration -/

namespace Declaration

/-- The description of a declaration. -/
def description : Declaration → Option String
  | .alias _ description _ => description
  | .enumeration _ description _ => description
  | .interface _ description _ _ => description

/-- The word that introduces a declaration. -/
def keyword : Declaration → String
  | .alias _ _ _ => "type"
  | .enumeration _ _ _ => "enum"
  | .interface _ _ _ _ => "interface"

/-- How the text of a declaration opens, up to its name. -/
def opening (options : Options) (declaration : Declaration) : String :=
  blockComment declaration.description ++ options.exportWord ++ declaration.keyword ++ " " ++
    declaration.name ++ " "

/-- The text of a declaration opens with its name. -/
theorem render_eq (options : Options) (declaration : Declaration) :
    ∃ rest, declaration.render options = declaration.opening options ++ rest := by
  match declaration with
  | .alias name description type =>
      refine ⟨"= " ++ type.render options.fallback ++ ";", ?_⟩
      rw [render, show "type " = "type" ++ " " from rfl, show " = " = " " ++ "= " from rfl]
      simp only [opening, keyword, Declaration.name, Declaration.description, String.append_assoc]
  | .enumeration name description members =>
      refine ⟨"\x7b\n" ++ String.intercalate "\n" (members.map memberLine ++ ["\x7d"]), ?_⟩
      rw [render, show "enum " = "enum" ++ " " from rfl, show " \x7b\n" = " " ++ "\x7b\n" from rfl]
      simp only [opening, keyword, Declaration.name, Declaration.description, String.append_assoc]
  | .interface name description fields index =>
      simp only [render, opening, keyword, Declaration.name, Declaration.description]
      rw [show "interface " = "interface" ++ " " from rfl]
      split
      · refine ⟨"\x7b\x7d", ?_⟩
        rw [show " \x7b\x7d" = " " ++ "\x7b\x7d" from rfl]
        simp only [String.append_assoc]
      · refine ⟨"\x7b\n" ++ String.intercalate "\n" (bodyLines options.fallback fields index) ++
          "\n\x7d", ?_⟩
        rw [show " \x7b\n" = " " ++ "\x7b\n" from rfl]
        simp only [String.append_assoc]

end Declaration

/-! ## An example -/

/-- A record with the given properties. -/
def recordOf (properties : List (String × SchemaNode)) : SchemaNode :=
  .schema ⟨none, none⟩ [] ⟨none, none, none⟩
    ⟨.single "object", some properties, [], none, .absent⟩

/-- An array with the given items. -/
def arrayOf (items : SchemaNode) : SchemaNode :=
  .schema ⟨none, none⟩ [] ⟨none, none, none⟩ ⟨.single "array", none, [], some items, .absent⟩

/-- A document with component schemas only. -/
def componentsOnly (schemas : List (String × SchemaNode)) : Document :=
  ⟨"Components", "1", none, "3.0.0", [], [], schemas, []⟩

/-- Nodes with a list of nodes each, and forests. -/
def linkedNodes : Document :=
  componentsOnly
    [("Node", recordOf [("children", .reference "#/components/schemas/NodeList")]),
      ("NodeList", arrayOf (.reference "#/components/schemas/Node")),
      ("Forest", arrayOf (.reference "#/components/schemas/NodeList"))]

/-- The list of nodes is compiled while the node is active, so its items are cut. -/
theorem declarations_linkedNodes :
    (compile linkedNodes .default).declarations =
      [.alias "NodeList" none (.array .fallback),
        .interface "Node" none [⟨"children", true, none, .named "NodeList"⟩] none,
        .alias "Forest" none (.array (.named "NodeList"))] := by
  rfl

/-! ## Results -/

/-- Every declaration is collected once.  The declared names are distinct and are all the
names that were taken; the block at a position reads the declaration of the name at that
position; no declaration came too late; every component schema is declared under a name
of its own; no component is active any more.  All this while the declarations only grow,
and declaring a component leaves the active components as it found them. -/
theorem declared_once (distinct : document.KeysDistinct) (options : Options) :
    let task := Task.ofDocument document options
    let final := compile document options
    (generate document options).declarations = final.names ∧ final.names.Nodup ∧
      (∀ name, name ∈ final.names ↔ name ∈ final.used) ∧
      (task.blocks final).length = final.names.length ∧
      (∀ (position : Nat) (declaration : Declaration),
        final.declarations[position]? = some declaration →
          final.names[position]? = some declaration.name ∧ ∃ rest,
            (task.blocks final)[position]? = some (declaration.opening options ++ rest)) ∧
      final.refused = [] ∧
      (∀ key ∈ document.schemas.map (·.1), ∃ name, task.schemaName? key = some name ∧
        name ∈ final.names) ∧
      (∀ first second name, task.schemaName? first = some name →
        task.schemaName? second = some name → first = second) ∧
      final.active = [] ∧
      (∀ budget key, Steady (ensureWithin task budget key)) ∧
      (∀ message, Steady (task.collectMessage message)) ∧
      (∀ channel direction, Steady (Task.declareUnion channel direction)) ∧
      Steady task.collect := by
  have coherent := Task.coherent_ofDocument distinct options
  have accounts := (sound_compile distinct options).accounts
  refine ⟨rfl, accounts.namesDistinct, ?_, ?_, ?_, accounts.noneRefused, ?_, ?_,
    active_compile distinct options, steady_ensureWithin, steady_collectMessage,
    steady_declareUnion, steady_collect⟩
  · intro name
    exact ⟨accounts.namesUsed name, mem_names_compile_of_mem_used distinct options⟩
  · simp [Task.blocks, Compilation.names]
  · intro position declaration found
    obtain ⟨rest, opens⟩ := declaration.render_eq options
    refine ⟨by simp [Compilation.names, found], rest, ?_⟩
    simp [Task.blocks, found, ← opens, Task.ofDocument]
  · intro key listed
    obtain ⟨name, named⟩ :=
      Option.isSome_iff_exists.mp ((coherent.schemaName?_isSome_iff key).mpr listed)
    exact ⟨name, named, component_mem_names_compile distinct options named⟩
  · intro first second name
    exact coherent.schemaName?_injective

theorem linkedNodes_declared_once :
    linkedNodes.KeysDistinct ∧
      (compile linkedNodes .default).names = ["NodeList", "Node", "Forest"] ∧
        ∀ name, name ∈ (compile linkedNodes .default).names ↔
          name ∈ (compile linkedNodes .default).used := by
  have distinct : linkedNodes.KeysDistinct := by decide
  refine ⟨distinct, ?_, (declared_once distinct .default).2.2.1⟩
  simp [Compilation.names, declarations_linkedNodes, Declaration.name]

/-! ## Names in the output -/

/-- The lexemes in the text of a type. -/
def lexemes (text : String) : List String :=
  (lexemesFrom false [] text.toList).map String.ofList

/-- A lexeme of a type that can be written is the text of one of its leaves. -/
theorem TypeExpr.Writable.exists_leaf {type : TypeExpr} (writable : type.Writable)
    (options : Options) {word : String} (member : word ∈ lexemes (type.render options.fallback)) :
    ∃ leaf ∈ type.leaves, leaf.render options.fallback = word := by
  obtain ⟨lexeme, read, rfl⟩ := List.mem_map.mp member
  have reads := reads_render type (fun leaf inside => (writable leaf inside).reads options) []
    (by simp [Follows])
  rw [List.append_nil, show lexemesFrom false [] [] = [] from rfl, List.append_nil] at reads
  rw [reads] at read
  obtain ⟨leaf, inside, spelled⟩ := List.mem_flatMap.mp read
  refine ⟨leaf, inside, ?_⟩
  unfold TypeExpr.lexeme spoken at spelled
  split at spelled
  · simp at spelled
  · rw [List.mem_singleton.mp spelled, String.ofList_toList]

/-- The output is closed: every name that stands in a declaration is declared.  Read as
text, a type of a declaration is made of declared names, the fallback, keywords and the
literals of values, and of nothing else. -/
theorem output_closed (distinct : document.KeysDistinct) (options : Options) :
    ∀ declaration ∈ (compile document options).declarations, ∀ type ∈ declaration.types,
      (∀ name, type.Mentions name → name ∈ (compile document options).names) ∧
        ∀ word ∈ lexemes (type.render options.fallback),
          word ∈ (compile document options).names ∨ word = options.fallback ∨
            word ∈ TypeExpr.keywords.map (·.2) ∨
              ∃ value, TypeExpr.literalText? value = some word := by
  intro declaration listed type part
  have grounded := (sound_compile distinct options).grounded declaration listed
  have declared : ∀ name, type.Mentions name → name ∈ (compile document options).names :=
    fun name mentions => mem_names_compile_of_mem_used distinct options
      (grounded.used name ⟨type, part, mentions⟩)
  constructor
  · exact declared
  · intro word member
    have writable := grounded.writable type part
    obtain ⟨leaf, inside, rfl⟩ := writable.exists_leaf options member
    have shape := writable leaf inside
    match leaf with
    | .fallback => exact Or.inr (Or.inl rfl)
    | .named name => exact Or.inl (declared name inside)
    | .keyword word => exact Or.inr (Or.inr (Or.inl shape))
    | .literal text => exact Or.inr (Or.inr (Or.inr shape))

theorem linkedNodes_closed :
    linkedNodes.KeysDistinct ∧ "NodeList" ∈ (compile linkedNodes .default).names := by
  have distinct : linkedNodes.KeysDistinct := by decide
  have listed : .alias "Forest" none (.array (.named "NodeList")) ∈
      (compile linkedNodes .default).declarations := by simp [declarations_linkedNodes]
  have closed := output_closed distinct .default _ listed _ List.mem_cons_self
  exact ⟨distinct, closed.1 "NodeList" (by simp [TypeExpr.Mentions])⟩

end AsyncTypes.TypeScript

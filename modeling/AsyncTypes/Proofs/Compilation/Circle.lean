import Mathlib.Logic.Relation
import Mathlib.Data.List.Chain
import AsyncTypes.Proofs.Compilation.Account

/-!
# Circles of aliases

An alias mentions only names that are declared before it, so no circle stays among
aliases.  A reference that was cut would not always have closed such a circle: it would
have exactly when its target leads back to its place through references outside
interfaces alone, each to a component that is declared earlier.
-/

namespace AsyncTypes.TypeScript

open Relation

/-! ## Mentions between declarations -/

namespace Compilation

variable {fallback first second : String} {state : Compilation}

/-- The declaration of the first name has the second, which is declared too, in its text
outside literals of values. -/
def Refers (state : Compilation) (fallback : String) (first second : String) : Prop :=
  second ∈ state.names ∧ ∃ declaration ∈ state.declarations, declaration.name = first ∧
    ∃ type ∈ declaration.types, type.Spells fallback second

/-- The name is declared as an alias. -/
def DeclaresAlias (state : Compilation) (name : String) : Prop :=
  ∃ declaration ∈ state.declarations, declaration.name = name ∧ declaration.isAlias = true

/-- The name is declared as an interface. -/
def DeclaresInterface (state : Compilation) (name : String) : Prop :=
  ∃ declaration ∈ state.declarations, declaration.name = name ∧ declaration.isInterface = true

/-- The first name is an alias that refers to the second. -/
def AliasRefers (state : Compilation) (fallback : String) (first second : String) : Prop :=
  state.DeclaresAlias first ∧ state.Refers fallback first second

/-- The alias of the place would lie on a circle of aliases if it referred to the target:
the target leads back to it through aliases. -/
def ClosesCircle (state : Compilation) (fallback : String) (place target : String) : Prop :=
  state.DeclaresAlias place ∧ ReflTransGen (state.AliasRefers fallback) target place

end Compilation

/-- A name is declared once. -/
theorem Sound.declaration_unique {task : Task} {state : Compilation} (sound : Sound task state)
    {first second : Declaration} (listed : first ∈ state.declarations)
    (also : second ∈ state.declarations) (same : first.name = second.name) : first = second :=
  List.inj_on_of_nodup_map sound.accounts.namesDistinct listed also same

/-- An alias refers only to names that are declared before it. -/
theorem Sound.declaresBefore {task : Task} {state : Compilation} (sound : Sound task state)
    {declaration : Declaration} (listed : declaration ∈ state.declarations)
    (aliased : declaration.isAlias = true) {type : TypeExpr} (part : type ∈ declaration.types)
    {name : String} (declared : name ∈ state.names)
    (spells : type.Spells task.fallback name) : state.DeclaresBefore name declaration.name := by
  have grounded := sound.grounded declaration listed
  have shape := sound.accounts.usedShaped name (sound.accounts.namesUsed name declared)
  have mentions := (grounded.writable type part).mentions_of_spells shape spells
  exact grounded.before aliased name ⟨type, part, mentions⟩

theorem Sound.aliasRefers_declaresBefore {task : Task} {state : Compilation}
    (sound : Sound task state) {first second : String}
    (refers : state.AliasRefers task.fallback first second) :
    state.DeclaresBefore second first := by
  obtain ⟨⟨declaration, listed, rfl, aliased⟩, declared, other, also, same, type, part, spells⟩ :=
    refers
  obtain rfl := sound.declaration_unique also listed same
  exact sound.declaresBefore listed aliased part declared spells

/-- Aliases lead to earlier declarations only. -/
theorem Sound.declaresBefore_of_transGen {task : Task} {state : Compilation}
    (sound : Sound task state) {first second : String}
    (leads : TransGen (state.AliasRefers task.fallback) first second) :
    state.DeclaresBefore second first := by
  induction leads with
  | single refers => exact sound.aliasRefers_declaresBefore refers
  | tail _ refers before => exact (sound.aliasRefers_declaresBefore refers).trans before

/-- A walk that meets no interface leads through aliases. -/
theorem transGen_of_isChain {state : Compilation} {fallback first last : String}
    {rest : List String} (walk : List.IsChain (state.Refers fallback) (first :: (rest ++ [last])))
    (apart : ∀ name ∈ first :: rest, ¬ state.DeclaresInterface name) :
    TransGen (state.AliasRefers fallback) first last := by
  have aliased : ∀ {name other}, ¬ state.DeclaresInterface name →
      state.Refers fallback name other → state.AliasRefers fallback name other := by
    intro name other noInterface refers
    obtain ⟨declared, declaration, listed, rfl, type, part, spells⟩ := refers
    refine ⟨⟨declaration, listed, rfl, ?_⟩, declared, declaration, listed, rfl, type, part, spells⟩
    match declaration with
    | .alias _ _ _ => rfl
    | .enumeration _ _ _ => simp [Declaration.types] at part
    | .interface _ _ _ _ => exact absurd ⟨_, listed, rfl, rfl⟩ noInterface
  induction rest generalizing first with
  | nil =>
      rw [List.nil_append, List.isChain_cons_cons] at walk
      exact TransGen.single (aliased (apart first List.mem_cons_self) walk.1)
  | cons next rest ih =>
      rw [List.cons_append, List.isChain_cons_cons] at walk
      refine TransGen.head (aliased (apart first List.mem_cons_self) walk.1) (ih walk.2 ?_)
      exact fun name member => apart name (List.mem_cons_of_mem first member)

/-! ## No circle of aliases -/

/-- A declared name that is read in the text of a type is the name of a declaration, or a
number word. -/
theorem Sound.mentions_of_mem_lexemes {document : Document} {options : Options}
    {state : Compilation} (sound : Sound (Task.ofDocument document options) state)
    {type : TypeExpr} (writable : type.Writable) {word : String} (declared : word ∈ state.names)
    (number : word ∉ numberWords) (read : word ∈ lexemes (type.render options.fallback)) :
    type.Mentions word := by
  obtain ⟨leaf, inside, rfl⟩ := writable.exists_leaf options read
  have shape := sound.accounts.usedShaped _ (sound.accounts.namesUsed _ declared)
  rcases (writable leaf inside).eq_named shape with named | ⟨-, also⟩
  · rw [TypeExpr.Mentions, ← named]
    exact inside
  · exact absurd also number

/-- No circular alias is ever produced.  Every declared name that stands in an alias
outside literals of values is declared before the alias; so is every declared name that
is read in its text, but for words that may be numbers.  Hence no circle stays among
aliases: every closed walk through the declarations meets an interface. -/
theorem no_circular_alias {document : Document} (distinct : document.KeysDistinct)
    (options : Options) :
    let final := compile document options
    (∀ declaration ∈ final.declarations, declaration.isAlias = true →
      ∀ type ∈ declaration.types, ∀ name ∈ final.names,
        (type.Spells options.fallback name ∨
          name ∈ lexemes (type.render options.fallback) ∧ name ∉ numberWords) →
        final.DeclaresBefore name declaration.name) ∧
      (∀ name, ¬ TransGen (final.AliasRefers options.fallback) name name) ∧
      ∀ first rest, List.IsChain (final.Refers options.fallback) (first :: (rest ++ [first])) →
        ∃ name ∈ first :: rest, final.DeclaresInterface name := by
  have sound := sound_compile distinct options
  have acyclic : ∀ name, ¬ TransGen ((compile document options).AliasRefers options.fallback)
      name name := fun name circle =>
    Compilation.DeclaresBefore.irrefl _ _ (sound.declaresBefore_of_transGen circle)
  refine ⟨?_, acyclic, ?_⟩
  · rintro declaration listed aliased type part name declared (spells | ⟨read, number⟩)
    · exact sound.declaresBefore listed aliased part declared spells
    · have grounded := sound.grounded declaration listed
      have mentions :=
        sound.mentions_of_mem_lexemes (grounded.writable type part) declared number read
      exact grounded.before aliased name ⟨type, part, mentions⟩
  · intro first rest walk
    by_contra apart
    exact acyclic first (transGen_of_isChain walk fun name member interface =>
      apart ⟨name, member, interface⟩)

theorem linkedNodes_no_circular_alias :
    linkedNodes.KeysDistinct ∧
      (compile linkedNodes .default).DeclaresBefore "NodeList" "Forest" := by
  have distinct : linkedNodes.KeysDistinct := by decide
  constructor
  · exact distinct
  · have listed : .alias "Forest" none (.array (.named "NodeList")) ∈
        (compile linkedNodes .default).declarations := by simp [declarations_linkedNodes]
    have declared : "NodeList" ∈ (compile linkedNodes .default).names := by
      simp [Compilation.names, declarations_linkedNodes, Declaration.name]
    exact (no_circular_alias distinct .default).1 _ listed rfl _ List.mem_cons_self "NodeList"
      declared (Or.inl ⟨.named "NodeList", by simp, by simp [TypeExpr.IsValueLiteral],
        by simp only [TypeExpr.render]⟩)

/-! ## Cut references -/

namespace Task

/-- The schema of the first key refers to that of the second by a reference outside
interfaces, and the second is declared earlier. -/
def RefersEarlier (task : Task) (state : Compilation) (first second : String) : Prop :=
  ∃ node firstName secondName, task.document.schema? first = some node ∧
    task.RefersTo node second ∧ task.schemaName? first = some firstName ∧
    task.schemaName? second = some secondName ∧ state.DeclaresBefore secondName firstName

end Task

section

variable {task : Task} {state : Compilation}

/-- A component with a reference outside interfaces is declared as an alias. -/
theorem Sound.declaresAlias (sound : Sound task state) {key name target : String}
    {node : SchemaNode} (named : task.schemaName? key = some name) (declared : name ∈ state.names)
    (found : task.document.schema? key = some node) (refers : task.RefersTo node target) :
    state.DeclaresAlias name := by
  obtain ⟨declaration, listed, rfl⟩ := Compilation.mem_names_iff.mp declared
  exact ⟨declaration, listed, rfl,
    ((sound.grounded declaration listed).outlined named found).isAlias target refers⟩

/-- What is declared as an alias is not declared as an interface. -/
theorem Sound.not_declaresInterface (sound : Sound task state) {name : String}
    (aliased : state.DeclaresAlias name) : ¬ state.DeclaresInterface name := by
  obtain ⟨declaration, listed, named, isAlias⟩ := aliased
  rintro ⟨other, otherListed, otherNamed, interface⟩
  obtain rfl := sound.declaration_unique listed otherListed (named.trans otherNamed.symm)
  cases declaration <;> simp_all [Declaration.isAlias, Declaration.isInterface]

/-- An alias that refers to another alias is due to a reference outside interfaces between
components. -/
theorem Sound.refersEarlier_of_aliasRefers (sound : Sound task state) (coherent : task.Coherent)
    {key first second : String} (named : task.schemaName? key = some first)
    (refers : state.AliasRefers task.fallback first second) (aliased : state.DeclaresAlias second) :
    ∃ target, task.schemaName? target = some second ∧ task.RefersEarlier state key target := by
  have before := sound.aliasRefers_declaresBefore refers
  obtain ⟨⟨declaration, listed, rfl, aliasedFirst⟩, declared, other, also, same, type, part,
    spells⟩ := refers
  obtain rfl := sound.declaration_unique also listed same
  obtain ⟨node, found⟩ := coherent.exists_schema named
  have grounded := sound.grounded other listed
  have shape := sound.accounts.usedShaped second (sound.accounts.namesUsed second declared)
  have mentions := (grounded.writable type part).mentions_of_spells shape spells
  rcases (grounded.outlined named found).refers aliasedFirst second ⟨type, part, mentions⟩ with
    ⟨target, leads, targetNamed⟩ | ⟨hoisted, hoistedListed, hoistedName, noAlias⟩
  · exact ⟨target, targetNamed, node, _, _, found, leads, named, targetNamed, before⟩
  · obtain ⟨twin, twinListed, twinName, twinAlias⟩ := aliased
    have equal := sound.declaration_unique twinListed hoistedListed
      (twinName.trans hoistedName.symm)
    rw [equal, noAlias] at twinAlias
    exact Bool.noConfusion twinAlias

/-- A way back through aliases is a way through references outside interfaces. -/
theorem Sound.refersEarlier_of_leads (sound : Sound task state) (coherent : task.Coherent)
    {place key placeName targetName : String} (placeNamed : task.schemaName? place = some placeName)
    (named : task.schemaName? key = some targetName)
    (closes : state.ClosesCircle task.fallback placeName targetName) :
    ReflTransGen (task.RefersEarlier state) key place := by
  obtain ⟨aliased, leads⟩ := closes
  have along : state.DeclaresAlias targetName ∧ ∀ other,
      task.schemaName? other = some targetName →
      ReflTransGen (task.RefersEarlier state) other place := by
    clear named
    induction leads using ReflTransGen.head_induction_on with
    | refl =>
        constructor
        · exact aliased
        · intro other otherNamed
          rw [coherent.schemaName?_injective otherNamed placeNamed]
    | head refers _ ih =>
        constructor
        · exact refers.1
        · intro other otherNamed
          obtain ⟨next, nextNamed, earlier⟩ :=
            sound.refersEarlier_of_aliasRefers coherent otherNamed refers ih.1
          exact ReflTransGen.head earlier (ih.2 next nextNamed)
  exact along.2 key named

/-- The target of a cut is declared no earlier than its place. -/
theorem Sound.not_declaresBefore_of_cut (sound : Sound task state) (idle : state.active = [])
    {place key fallback placeName targetName : String}
    (cut : .circularReference place key fallback ∈ state.notices)
    (placeNamed : task.schemaName? place = some placeName)
    (targetNamed : task.schemaName? key = some targetName) :
    ¬ state.DeclaresBefore targetName placeName := by
  intro earlier
  obtain ⟨first, second, firstNamed, secondNamed, ordered⟩ := (sound.cuts cut).scheduled
  obtain rfl := Option.some.inj (firstNamed.symm.trans placeNamed)
  obtain rfl := Option.some.inj (secondNamed.symm.trans targetNamed)
  rcases ordered with rfl | ordered
  · exact Compilation.DeclaresBefore.irrefl _ _ earlier
  · rw [Task.schedule, idle, List.filterMap_nil, List.append_nil] at ordered
    exact earlier.asymm (.of_sublist sound.accounts.namesDistinct ordered)

/-- A reference outside interfaces to an earlier component is written, but for number
words: were it cut, its target would not be earlier. -/
theorem Sound.aliasRefers_of_refersEarlier (sound : Sound task state) (idle : state.active = [])
    (words : ∀ key name, task.schemaName? key = some name → name ∉ numberWords)
    (components : ∀ key name, task.schemaName? key = some name → name ∈ state.names)
    {first second firstName : String} (named : task.schemaName? first = some firstName)
    (earlier : task.RefersEarlier state first second) :
    ∃ secondName, task.schemaName? second = some secondName ∧
      state.AliasRefers task.fallback firstName secondName := by
  obtain ⟨node, _, secondName, found, refers, also, secondNamed, before⟩ := earlier
  rw [named] at also
  obtain rfl := Option.some.inj also
  have aliased := sound.declaresAlias named (components first firstName named) found refers
  obtain ⟨declaration, listed, rfl⟩ :=
    Compilation.mem_names_iff.mp (components first firstName named)
  have outlined := (sound.grounded declaration listed).outlined named found
  refine ⟨secondName, secondNamed, aliased, components second secondName secondNamed,
    declaration, listed, rfl, ?_⟩
  rcases outlined.mentions second secondName refers secondNamed (words second secondName
    secondNamed) with ⟨type, part, mentions⟩ | cut
  · exact ⟨type, part, _, mentions, by simp [TypeExpr.IsValueLiteral],
      by simp only [TypeExpr.render]⟩
  · exact absurd before (sound.not_declaresBefore_of_cut idle cut named secondNamed)

/-- A way back through references outside interfaces, each to an earlier component, is a
way back through aliases, but for number words. -/
theorem Sound.leads_of_refersEarlier (sound : Sound task state) (idle : state.active = [])
    (words : ∀ key name, task.schemaName? key = some name → name ∉ numberWords)
    (components : ∀ key name, task.schemaName? key = some name → name ∈ state.names)
    {place key placeName targetName : String} (placeNamed : task.schemaName? place = some placeName)
    (named : task.schemaName? key = some targetName)
    (way : ReflTransGen (task.RefersEarlier state) key place) :
    ReflTransGen (state.AliasRefers task.fallback) targetName placeName := by
  induction way using ReflTransGen.head_induction_on generalizing targetName with
  | refl =>
      rw [placeNamed] at named
      rw [Option.some.inj named]
  | head earlier _ ih =>
      obtain ⟨nextName, nextNamed, refers⟩ :=
        sound.aliasRefers_of_refersEarlier idle words components named earlier
      exact ReflTransGen.head refers (ih nextNamed)

end

/-- Which cuts are needed.  A cut reference stands in an alias, and its target is declared
no earlier.  Writing it would have closed a circle of aliases exactly when the target
leads back to its place through references outside interfaces, each to a component that
is declared earlier; names that read like numbers are left aside.  In particular the
reference to a component that is declared as an interface would have closed none. -/
theorem cut_closes_circle_iff {document : Document} (distinct : document.KeysDistinct)
    (options : Options) :
    let task := Task.ofDocument document options
    let final := compile document options
    ∀ place key word, .circularReference place key word ∈ final.notices →
      ∃ placeName targetName, task.schemaName? place = some placeName ∧
        task.schemaName? key = some targetName ∧ word = options.fallback ∧
        final.DeclaresAlias placeName ∧ ¬ final.DeclaresBefore targetName placeName ∧
        (final.ClosesCircle options.fallback placeName targetName →
          ReflTransGen (task.RefersEarlier final) key place) ∧
        ((∀ other name, task.schemaName? other = some name → name ∉ numberWords) →
          ReflTransGen (task.RefersEarlier final) key place →
            final.ClosesCircle options.fallback placeName targetName) ∧
        (final.DeclaresInterface targetName →
          ¬ final.ClosesCircle options.fallback placeName targetName) := by
  intro task final place key word given
  have coherent : task.Coherent := Task.coherent_ofDocument distinct options
  have sound : Sound task final := sound_compile distinct options
  have idle : final.active = [] := active_compile distinct options
  have components : ∀ other name, task.schemaName? other = some name → name ∈ final.names :=
    fun _ _ => component_mem_names_compile distinct options
  have cut := sound.cuts given
  obtain ⟨placeName, targetName, placeNamed, targetNamed, -⟩ := cut.scheduled
  obtain ⟨node, found, refers⟩ := cut.refers
  have aliased :=
    sound.declaresAlias placeNamed (components place placeName placeNamed) found refers
  refine ⟨placeName, targetName, placeNamed, targetNamed, cut.word, aliased,
    sound.not_declaresBefore_of_cut idle given placeNamed targetNamed,
    sound.refersEarlier_of_leads coherent placeNamed targetNamed, ?_, ?_⟩
  · intro words way
    exact ⟨aliased, sound.leads_of_refersEarlier idle words components placeNamed targetNamed way⟩
  · rintro interface ⟨-, leads⟩
    have also : final.DeclaresAlias targetName := by
      rcases ReflTransGen.cases_head leads with same | ⟨next, refers, -⟩
      · exact same ▸ aliased
      · exact refers.1
    exact sound.not_declaresInterface also interface

/-- Two lists, each with items of the other. -/
def mutualLists : Document :=
  componentsOnly
    [("A", arrayOf (.reference "#/components/schemas/B")),
      ("B", arrayOf (.reference "#/components/schemas/A"))]

theorem mutualLists_closes_circle :
    mutualLists.KeysDistinct ∧
      .circularReference "B" "A" "unknown" ∈ (compile mutualLists .default).notices ∧
        (compile mutualLists .default).ClosesCircle "unknown" "B" "A" := by
  have distinct : mutualLists.KeysDistinct := by decide
  have given : .circularReference "B" "A" "unknown" ∈ (compile mutualLists .default).notices := by
    decide +kernel
  have plain : ∀ other name, (Task.ofDocument mutualLists .default).schemaName? other = some name →
      name ∉ numberWords := by
    intro other name named
    have small : ∀ entry ∈ (Task.ofDocument mutualLists .default).schemaNames,
        entry.2 ∉ numberWords := by decide +kernel
    exact small _ (Task.mem_schemaNames_of_schemaName? named)
  have back : (Task.ofDocument mutualLists .default).RefersEarlier (compile mutualLists .default)
      "A" "B" := by
    refine ⟨arrayOf (.reference "#/components/schemas/B"), "A", "B", rfl, ?_, rfl, rfl, ?_⟩
    · exact ⟨_, .item (fun used => absurd used (by decide)) rfl rfl (.reference _), rfl, rfl⟩
    · unfold Compilation.DeclaresBefore
      decide +kernel
  obtain ⟨placeName, targetName, placeNamed, targetNamed, -, -, -, -, closes, -⟩ :=
    cut_closes_circle_iff distinct .default "B" "A" "unknown" given
  obtain rfl : "B" = placeName := Option.some.inj placeNamed
  obtain rfl : "A" = targetName := Option.some.inj targetNamed
  exact ⟨distinct, given, closes plain (ReflTransGen.single back)⟩

/-- A cut that is not needed: the node is an interface, so no circle of aliases goes
through it, and yet the items of the list of nodes are cut. -/
theorem linkedNodes_needless_cut :
    .circularReference "NodeList" "Node" "unknown" ∈ (compile linkedNodes .default).notices ∧
      (compile linkedNodes .default).DeclaresInterface "Node" ∧
        ¬ (compile linkedNodes .default).ClosesCircle "unknown" "NodeList" "Node" := by
  refine ⟨by decide +kernel, ?_, ?_⟩
  · refine ⟨.interface "Node" none [⟨"children", true, none, .named "NodeList"⟩] none, ?_, rfl, rfl⟩
    simp [declarations_linkedNodes]
  · rintro ⟨-, leads⟩
    rcases ReflTransGen.cases_head leads with same | ⟨next, ⟨node, -⟩, -⟩
    · exact absurd same (by decide)
    · obtain ⟨declaration, listed, named, aliased⟩ := node
      rw [declarations_linkedNodes] at listed
      simp only [List.mem_cons, List.not_mem_nil, or_false] at listed
      rcases listed with rfl | rfl | rfl
      · exact absurd named (by decide)
      · exact Bool.noConfusion aliased
      · exact absurd named (by decide)

end AsyncTypes.TypeScript

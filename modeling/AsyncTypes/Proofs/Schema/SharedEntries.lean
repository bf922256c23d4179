import AsyncTypes.Proofs.Schema.Completion

/-!
# Shared nodes are complete expansions

Whether a node is shared is read off one count, which calls raise at a cut, at the bound and where
they take a node that is kept for a trail.  Calls are made during other calls, and all of them
write to the same memory.  Still a node is shared only when the conversion of its pointer was
complete: it is the node to which the target is converted along the empty trail, with nothing
remembered and with room for every chain of pointers.  And every answer is shared during which the
count stands still.
-/

namespace AsyncTypes

namespace Inlining

open Relation (ReflTransGen TransGen)
open SchemaNode (met rebuild)

variable {document : Value} {longest : Nat} {base trail : Trail} {pointer next : String}
  {node : SchemaNode} {inlining before middle after : Inlining}

/-! ## Expansions as plain conversions -/

namespace Expands

/-- The pointers that the target of a pointer asks for expand with it. -/
theorem exists_next (expands : Expands document base pointer node)
    (meets : Meets document pointer next) : ∃ other, Expands document base next other := by
  obtain ⟨schema, leads, asked⟩ := meets
  cases expands with
  | dead _ found => exact nomatch leads.symm.trans found
  | @live _ target nodes _ found count expand =>
      obtain rfl : schema = target := Option.some.inj (leads.symm.trans found)
      obtain ⟨index, inside, rfl⟩ := List.getElem_of_mem asked
      exact ⟨_, expand _ (mem_zip_getElem inside (count ▸ inside))⟩

/-- No chain from a pointer that expands comes to a circle. -/
theorem not_cyclic_of_reaches (expands : Expands document base pointer node)
    (reaches : ReflTransGen (Meets document) pointer next) :
    ¬TransGen (Meets document) next next := by
  induction reaches using ReflTransGen.head_induction_on generalizing node with
  | refl => exact expands.not_cyclic
  | head meets _ ih =>
      obtain ⟨other, further⟩ := expands.exists_next meets
      exact ih further

end Expands

/-- What holds of each member of a list from some number on holds of all of them from some number
on. -/
theorem exists_forall_ge {α : Type} {members : List α} {holds : α → Nat → Prop}
    (each : ∀ member ∈ members, ∃ enough, ∀ room ≥ enough, holds member room) :
    ∃ enough, ∀ room ≥ enough, ∀ member ∈ members, holds member room := by
  induction members with
  | nil => exact ⟨0, fun _ _ _ listed => nomatch listed⟩
  | cons first rest ih =>
      obtain ⟨⟨least, here⟩, others⟩ := List.forall_mem_cons.mp each
      obtain ⟨enough, later⟩ := ih others
      refine ⟨max least enough, fun room fits => List.forall_mem_cons.mpr ⟨?_, ?_⟩⟩
      · exact here room (le_trans (le_max_left least enough) fits)
      · exact later room (le_trans (le_max_right least enough) fits)

/-- No chain from the pointer comes to the trail. -/
def Apart (document : Value) (pointer : String) (trail : Trail) : Prop :=
  ∀ held ∈ trail, ¬ReflTransGen (Meets document) pointer held

theorem Apart.notMem (apart : Apart document pointer trail) : pointer ∉ trail :=
  fun held => apart pointer held .refl

theorem Apart.insert (apart : Apart document pointer trail) (meets : Meets document pointer next)
    (acyclic : ¬TransGen (Meets document) pointer pointer) :
    Apart document next (trail.insert pointer) := by
  intro held inside reaches
  obtain rfl | earlier := Trail.mem_insert.mp inside
  · exact acyclic (.head' meets reaches)
  · exact apart held earlier (.head meets reaches)

/-- Nodes are those of their pointers when each of them is. -/
theorem map_eq_of_zip {pointers : List String} {nodes : List SchemaNode}
    {plain : String → SchemaNode} (count : nodes.length = pointers.length)
    (each : ∀ pair ∈ pointers.zip nodes, plain pair.1 = pair.2) : pointers.map plain = nodes := by
  have paired : List.Forall₂ (fun asked node => plain asked = node) pointers nodes :=
    List.forall₂_iff_zip.mpr ⟨count.symm, fun listed => each _ listed⟩
  rw [← List.forall₂_eq_eq_eq]
  exact List.forall₂_map_left_iff.mpr paired

/-- With enough room, the plain conversion of a pointer is its expansion, along any trail to which
no chain comes. -/
theorem Expands.exists_room (expands : Expands document base pointer node) :
    ∃ enough, ∀ room ≥ enough, ∀ trail, Apart document pointer trail →
      plainWithin document room trail pointer = node := by
  induction expands with
  | dead _ leads => exact ⟨0, fun room _ trail apart => plainWithin_dead apart.notMem leads⟩
  | @live pointer schema nodes outside leads count expand ih =>
      have acyclic := (Expands.live outside leads count expand).not_cyclic
      obtain ⟨enough, parts⟩ := exists_forall_ge ih
      refine ⟨enough + 1, fun room fits trail apart => ?_⟩
      cases room with
      | zero => omega
      | succ room =>
          rw [plainWithin_live apart.notMem leads]
          refine congrArg (rebuild schema .null) (map_eq_of_zip count fun pair listed => ?_)
          have meets : Meets document pointer pair.1 :=
            ⟨schema, leads, (List.of_mem_zip listed).1⟩
          exact parts room (Nat.le_of_succ_le_succ fits) pair listed _ (apart.insert meets acyclic)

/-- What a pointer stands for when nothing is remembered: its target, converted along the empty
trail, or the reference when it leads to no mapping. -/
def plainTarget (document : Value) (longest : Nat) (pointer : String) : SchemaNode :=
  match target? document pointer with
  | none => .reference pointer
  | some schema => plainAlong document longest [] schema

/-- The node is the complete expansion of the pointer.  Every chain of pointers from it has an end
and comes to no circle, and when trails may be long enough, the plain conversion of the target is
this node, whatever their bound. -/
structure Complete (document : Value) (pointer : String) (node : SchemaNode) : Prop where
  expands : Expands document [] pointer node
  finite : Acc (fun next pointer => Meets document pointer next) pointer
  acyclic : ∀ next, ReflTransGen (Meets document) pointer next →
    ¬TransGen (Meets document) next next
  unbounded : ∃ enough, ∀ longest ≥ enough, plainTarget document longest pointer = node

theorem Expands.exists_longest (expands : Expands document base pointer node) :
    ∃ enough, ∀ longest ≥ enough, plainTarget document longest pointer = node := by
  cases expands with
  | dead _ leads =>
      refine ⟨0, fun longest _ => ?_⟩
      rw [plainTarget, leads]
  | @live _ schema nodes _ leads count expand =>
      obtain ⟨enough, parts⟩ :=
        exists_forall_ge fun pair listed => (expand pair listed).exists_room
      refine ⟨enough, fun longest fits => ?_⟩
      rw [plainTarget, leads]
      dsimp only
      rw [plainAlong, SchemaNode.run_convert_pure]
      refine congrArg (rebuild schema .null) (map_eq_of_zip count fun pair listed => ?_)
      have apart : Apart document pair.1 [] := fun _ inside => absurd inside List.not_mem_nil
      exact parts longest fits pair listed [] apart

theorem Expands.complete (expands : Expands document [] pointer node) :
    Complete document pointer node :=
  ⟨expands, expands.acc, fun _ => expands.not_cyclic_of_reaches, expands.exists_longest⟩

/-! ## What a call adds -/

/-- The shared nodes are expansions, one for each pointer. -/
structure Sound (document : Value) (inlining : Inlining) : Prop where
  distinct : (inlining.shared.map (·.1)).Nodup
  expands : ∀ entry ∈ inlining.shared, Expands document [] entry.1 entry.2

/-- Shared nodes are added, and none of them for a pointer of the trail.  The count of dependent
results does not fall. -/
structure Adds (trail : Trail) (before after : Inlining) : Prop where
  shared : ∃ added, after.shared = before.shared ++ added ∧ ∀ entry ∈ added, entry.1 ∉ trail
  counted : before.trailDependent ≤ after.trailDependent

theorem Adds.refl (trail : Trail) (inlining : Inlining) : Adds trail inlining inlining :=
  ⟨⟨[], (List.append_nil _).symm, fun _ listed => nomatch listed⟩, Nat.le_refl _⟩

theorem Adds.trans (first : Adds trail before middle) (second : Adds trail middle after) :
    Adds trail before after := by
  obtain ⟨⟨added, here, apart⟩, grows⟩ := first
  obtain ⟨⟨more, later, further⟩, growsOn⟩ := second
  refine ⟨⟨added ++ more, ?_, ?_⟩, Nat.le_trans grows growsOn⟩
  · rw [later, here, List.append_assoc]
  · exact List.forall_mem_append.mpr ⟨apart, further⟩

/-- A shorter trail has fewer pointers to leave out. -/
theorem Adds.mono {shorter : Trail} (adds : Adds trail before after) (within : shorter ⊆ trail) :
    Adds shorter before after := by
  obtain ⟨⟨added, same, apart⟩, grows⟩ := adds
  exact ⟨⟨added, same, fun entry listed held => apart entry listed (within held)⟩, grows⟩

theorem Adds.share (adds : Adds trail before after) (fresh : pointer ∉ trail) :
    Adds trail before (after.share pointer node) := by
  obtain ⟨⟨added, same, apart⟩, grows⟩ := adds
  refine ⟨⟨added ++ [(pointer, node)], ?_, ?_⟩, grows⟩
  · rw [Inlining.share, same, List.append_assoc]
  · refine List.forall_mem_append.mpr ⟨apart, fun entry listed => ?_⟩
    obtain rfl := List.mem_singleton.mp listed
    exact fresh

theorem Sound.fresh : Sound document .fresh :=
  ⟨List.nodup_nil, fun _ listed => nomatch listed⟩

/-- A pointer that has no shared node yet is shared with its expansion. -/
theorem Sound.share (sound : Sound document inlining)
    (unshared : ∀ entry ∈ inlining.shared, entry.1 ≠ pointer)
    (expands : Expands document [] pointer node) :
    Sound document (inlining.share pointer node) := by
  constructor
  · rw [Inlining.share, List.map_append, List.map_singleton, List.nodup_append_comm]
    refine List.nodup_cons.mpr ⟨fun listed => ?_, sound.distinct⟩
    obtain ⟨entry, held, same⟩ := List.mem_map.mp listed
    exact unshared entry held same
  · refine List.forall_mem_append.mpr ⟨sound.expands, fun entry listed => ?_⟩
    obtain rfl := List.mem_singleton.mp listed
    exact expands

theorem ne_of_sharedNode?_eq_none (unshared : inlining.sharedNode? pointer = none) :
    ∀ entry ∈ inlining.shared, entry.1 ≠ pointer := by
  intro entry listed same
  have other := List.find?_eq_none.mp (Option.map_eq_none_iff.mp unshared) entry listed
  exact other (beq_iff_eq.mpr same)

/-- A node that is shared now is found from now on. -/
theorem sharedNode?_share (unshared : ∀ entry ∈ inlining.shared, entry.1 ≠ pointer) :
    (inlining.share pointer node).sharedNode? pointer = some node := by
  have passed : inlining.shared.find? (fun entry => entry.1 == pointer) = none := by
    simpa using unshared
  simp [sharedNode?, Inlining.share, List.find?_append, passed]

/-- A call is answered soundly: what it shares is right, and when the count stands still, its answer
is shared. -/
structure SoundAnswer (document : Value) (trail : Trail) (pointer : String) (before : Inlining)
    (ran : SchemaNode × Inlining) : Prop where
  sound : Sound document ran.2
  adds : Adds trail before ran.2
  shares : ran.2.trailDependent = before.trailDependent → ran.2.sharedNode? pointer = some ran.1

theorem SoundAnswer.complete {ran : SchemaNode × Inlining}
    (answer : SoundAnswer document trail pointer before ran)
    (still : ran.2.trailDependent = before.trailDependent) :
    Expands document [] pointer ran.1 :=
  answer.sound.expands _ (mem_of_sharedNode? (answer.shares still))

/-- Calls are answered soundly, one after another. -/
structure SoundAnswers (document : Value) (trail : Trail) (pointers : List String)
    (before : Inlining) (ran : List SchemaNode × Inlining) : Prop where
  sound : Sound document ran.2
  adds : Adds trail before ran.2
  count : ran.1.length = pointers.length
  complete : ran.2.trailDependent = before.trailDependent →
    ∀ pair ∈ pointers.zip ran.1, Expands document [] pair.1 pair.2

/-- An answer that is counted is sound, whatever it is. -/
theorem soundAnswer_of_counted (sound : Sound document before) (log : List Log.Entry) :
    SoundAnswer document trail pointer before
      (node, { before with trailDependent := before.trailDependent + 1, log := log }) :=
  ⟨⟨sound.distinct, sound.expands⟩, ⟨(Adds.refl trail before).shared, Nat.le_succ _⟩,
    fun still => absurd still (Nat.succ_ne_self _)⟩

mutual

/-- Every rule of a call keeps the shared nodes right. -/
theorem Answered.sound {trail : Trail} {pointer : String} {before : Inlining}
    {ran : SchemaNode × Inlining}
    (answered : Answered document longest trail pointer before ran)
    (sound : Sound document before) : SoundAnswer document trail pointer before ran := by
  cases answered with
  | cut before log held => exact soundAnswer_of_counted sound log
  | stop before log fresh full => exact soundAnswer_of_counted sound log
  | shared fresh room known => exact ⟨sound, .refl trail before, fun _ => known⟩
  | along fresh room unshared known => exact soundAnswer_of_counted sound before.log
  | dead log fresh room unshared unknown leads =>
      have expands : Expands document [] pointer _ := .dead List.not_mem_nil leads
      have logged : Sound document { before with log := log } := ⟨sound.distinct, sound.expands⟩
      have same : Adds trail before { before with log := log } :=
        ⟨(Adds.refl trail before).shared, Nat.le_refl _⟩
      have apart := ne_of_sharedNode?_eq_none unshared
      exact ⟨logged.share apart expands, same.share fresh, fun _ => sharedNode?_share apart⟩
  | @live _ _ _ schema ran fresh room unshared unknown leads parts =>
      obtain ⟨right, adds, count, complete⟩ := parts.sound sound
      have outer : Adds trail before ran.2 :=
        adds.mono fun _ held => Trail.mem_insert.mpr (.inr held)
      -- No call of those for the parts shares the pointer, since it is on their trail.
      have unsharedStill : ∀ entry ∈ ran.2.shared, entry.1 ≠ pointer := by
        obtain ⟨added, same, apart⟩ := adds.shared
        rw [same]
        refine List.forall_mem_append.mpr ⟨ne_of_sharedNode?_eq_none unshared, ?_⟩
        rintro entry listed rfl
        exact apart entry listed (Trail.mem_insert.mpr (.inl rfl))
      split
      case isTrue still =>
        have expands := Expands.live List.not_mem_nil leads count (complete still)
        exact ⟨right.share unsharedStill expands, outer.share fresh,
          fun _ => sharedNode?_share unsharedStill⟩
      case isFalse other =>
        exact ⟨⟨right.distinct, right.expands⟩, ⟨outer.shared, outer.counted⟩,
          fun still => absurd still other⟩
termination_by (longest - trail.length, 0)
decreasing_by
  refine Prod.Lex.left _ _ ?_
  rw [Trail.length_insert_of_not_mem fresh]
  omega

theorem AnsweredAll.sound {trail : Trail} {pointers : List String} {before : Inlining}
    {ran : List SchemaNode × Inlining}
    (answered : AnsweredAll document longest trail pointers before ran)
    (sound : Sound document before) : SoundAnswers document trail pointers before ran := by
  cases answered with
  | nil => exact ⟨sound, .refl trail before, rfl, fun _ _ listed => nomatch listed⟩
  | @cons _ pointer rest _ here later first others =>
      have head := first.sound sound
      have tail := others.sound head.sound
      refine ⟨tail.sound, head.adds.trans tail.adds, congrArg (· + 1) tail.count, ?_⟩
      intro still
      -- The count stands still in both parts when it does in the whole.
      have stillLater := Nat.le_antisymm (still ▸ head.adds.counted) tail.adds.counted
      have stillHere := Nat.le_antisymm (still ▸ tail.adds.counted) head.adds.counted
      exact List.forall_mem_cons.mpr ⟨head.complete stillHere, tail.complete stillLater⟩
termination_by (longest - trail.length, pointers.length + 1)

end

/-! ## Calls during calls -/

/-- A call: the trail, the pointer and what is remembered when it is made. -/
structure Call where
  trail : Trail
  pointer : String
  before : Inlining

/-- The node that the call gives. -/
def Call.answer (document : Value) (longest : Nat) (call : Call) : SchemaNode :=
  ((inline document longest call.trail call.pointer).run call.before).1

/-- What is remembered when the call has come to its end. -/
def Call.afterwards (document : Value) (longest : Nat) (call : Call) : Inlining :=
  ((inline document longest call.trail call.pointer).run call.before).2

/-- The second call is made for a part of the target of the first one, after those for the parts
before it. -/
inductive MadeDuring (document : Value) (longest : Nat) (call : Call) : Call → Prop
  | part {schema : Value} {earlier later : List String} {next : String}
      (fresh : call.pointer ∉ call.trail) (room : call.trail.length < longest)
      (unshared : call.before.sharedNode? call.pointer = none)
      (unknown : call.before.nodeAlong? call.pointer call.trail = none)
      (leads : target? document call.pointer = some schema)
      (asked : met schema .null = earlier ++ next :: later) :
      MadeDuring document longest call
        ⟨call.trail.insert call.pointer, next, ((earlier.mapM
          (inline document longest (call.trail.insert call.pointer))).run call.before).2⟩

/-- The calls that are made from the outside, one after another with any trails and pointers, and
those that are made during them. -/
inductive Made (document : Value) (longest : Nat) : Call → Prop
  | outer (earlier : List (Trail × String)) (trail : Trail) (pointer : String) :
      Made document longest ⟨trail, pointer, ((earlier.mapM fun call =>
        inline document longest call.1 call.2).run .fresh).2⟩
  | inner {call other : Call} (made : Made document longest call)
      (during : MadeDuring document longest call other) : Made document longest other

/-- Every call keeps the shared nodes right. -/
theorem soundAnswer_inline (document : Value) (longest : Nat) (trail : Trail) (pointer : String)
    (sound : Sound document before) :
    SoundAnswer document trail pointer before
      ((inline document longest trail pointer).run before) :=
  (answered_inline document longest trail pointer before).sound sound

theorem soundAnswers_mapM (document : Value) (longest : Nat) (trail : Trail)
    (pointers : List String) (sound : Sound document before) :
    SoundAnswers document trail pointers before
      ((pointers.mapM (inline document longest trail)).run before) :=
  (answeredAll_mapM (answered_inline document longest trail) pointers before).sound sound

theorem sound_run_mapM (calls : List (Trail × String)) (sound : Sound document before) :
    Sound document
      ((calls.mapM fun call => inline document longest call.1 call.2).run before).2 := by
  induction calls generalizing before with
  | nil => exact sound
  | cons call rest ih =>
      rw [List.mapM_cons]
      exact ih (soundAnswer_inline document longest call.1 call.2 sound).sound

theorem Made.sound {call : Call} (made : Made document longest call) :
    Sound document call.before := by
  induction made with
  | outer earlier trail pointer => exact sound_run_mapM earlier .fresh
  | inner _ during ih =>
      cases during with
      | @part _ earlier =>
          exact (soundAnswers_mapM document longest _ earlier ih).sound

/-- What some calls leave, then another one and then the rest, is left by all of them. -/
theorem snd_run_mapM_middle (inline : String → StateM Inlining SchemaNode)
    (earlier later : List String) (next : String) (before : Inlining) :
    (((earlier ++ next :: later).mapM inline).run before).2 =
      ((later.mapM inline).run ((inline next).run ((earlier.mapM inline).run before).2).2).2 := by
  rw [List.mapM_append, List.mapM_cons]
  rfl

/-- A call whose target is converted leaves what the calls for its parts do, and its node. -/
theorem inline_live {schema : Value} (fresh : pointer ∉ trail) (room : trail.length < longest)
    (unshared : before.sharedNode? pointer = none)
    (unknown : before.nodeAlong? pointer trail = none)
    (leads : target? document pointer = some schema) :
    (inline document longest trail pointer).run before =
      let ran := ((met schema .null).mapM
        (inline document longest (trail.insert pointer))).run before
      let node := rebuild schema .null ran.1
      (node,
        if ran.2.trailDependent = before.trailDependent then ran.2.share pointer node
        else ran.2.keepAlong pointer trail node) := by
  obtain ⟨less, left⟩ := Nat.exists_eq_add_of_lt room
  have here : longest - trail.length = less + 1 := by omega
  have inside : longest - (trail.insert pointer).length = less := by
    rw [Trail.length_insert_of_not_mem fresh]
    omega
  have parts : inline document longest (trail.insert pointer) =
      inlineWithin document less (trail.insert pointer) := by
    funext next
    rw [inline, inside]
  rw [inline, here, parts, inlineWithin_live fresh unshared unknown leads]

/-- A call during another one starts with what the other one has added, and the other one adds to
what it ends with. -/
theorem MadeDuring.adds {call other : Call} (during : MadeDuring document longest call other)
    (sound : Sound document call.before) :
    Adds [] call.before other.before ∧
      Adds [] (other.afterwards document longest) (call.afterwards document longest) := by
  obtain ⟨trail, pointer, before⟩ := call
  cases during with
  | @part schema earlier later next fresh room unshared unknown leads asked =>
      have front := soundAnswers_mapM document longest (trail.insert pointer) earlier sound
      have here := soundAnswer_inline document longest (trail.insert pointer) next front.sound
      have back := soundAnswers_mapM document longest (trail.insert pointer) later here.sound
      refine ⟨front.adds.mono (List.nil_subset _), ?_⟩
      have added := back.adds.mono (List.nil_subset _)
      rw [← snd_run_mapM_middle, ← asked] at added
      rw [Call.afterwards, Call.afterwards, inline_live fresh room unshared unknown leads]
      dsimp only
      split
      case isTrue => exact added.share List.not_mem_nil
      case isFalse => exact ⟨added.shared, added.counted⟩

/-! ## Results -/

/-- What is shared stays as it is, and the count of dependent results does not fall. -/
structure Keeps (before after : Inlining) : Prop where
  entries : before.shared <+: after.shared
  nodes : ∀ pointer node, before.sharedNode? pointer = some node →
    after.sharedNode? pointer = some node
  counted : before.trailDependent ≤ after.trailDependent

theorem Adds.keeps (adds : Adds trail before after) : Keeps before after := by
  obtain ⟨⟨added, same, -⟩, grows⟩ := adds
  refine ⟨⟨added, same.symm⟩, fun pointer node known => ?_, grows⟩
  obtain ⟨entry, found, rfl⟩ := Option.map_eq_some_iff.mp known
  rw [sharedNode?, same, List.find?_append, found]
  rfl

/-- The shared nodes are complete expansions, and there is one of them for a pointer at most. -/
structure SharesComplete (document : Value) (inlining : Inlining) : Prop where
  distinct : (inlining.shared.map (·.1)).Nodup
  complete : ∀ entry ∈ inlining.shared, Complete document entry.1 entry.2

theorem Sound.sharesComplete (sound : Sound document inlining) :
    SharesComplete document inlining :=
  ⟨sound.distinct, fun entry listed => (sound.expands entry listed).complete⟩

/-- Shared nodes do not depend on where they come from.  Whatever calls are made one after another,
along any trails and with any bound, whenever a call begins or ends, also one that is made
during another, every shared node is the complete expansion of its pointer.  Shared nodes stay as
they are, and the count of dependent results never falls, from the beginning of a call to its end,
to the beginning of a call during it, and from the end of that to its own end.  When the count
stands still during a call, its answer is shared at the end. -/
theorem shared_complete {document : Value} {longest : Nat} {call : Call}
    (made : Made document longest call) :
    SharesComplete document call.before ∧
      SharesComplete document (call.afterwards document longest) ∧
      Keeps call.before (call.afterwards document longest) ∧
      ((call.afterwards document longest).trailDependent = call.before.trailDependent →
        (call.afterwards document longest).sharedNode? call.pointer =
          some (call.answer document longest)) ∧
      ∀ other, MadeDuring document longest call other →
        Keeps call.before other.before ∧
          Keeps (other.afterwards document longest) (call.afterwards document longest) := by
  have sound := made.sound
  have answer := soundAnswer_inline document longest call.trail call.pointer sound
  refine ⟨sound.sharesComplete, answer.sound.sharesComplete, answer.adds.keeps, answer.shares, ?_⟩
  intro other during
  obtain ⟨begins, ends⟩ := during.adds sound
  exact ⟨begins.keeps, ends.keeps⟩

/-- The pointer to a component schema of the long chain. -/
def link (name : String) : String :=
  Pointer.schemaRoot ++ name

/-- The table is asked for after its rows, along trails of at most two pointers. -/
def tableAfterRow : Call :=
  ⟨[], link "Table", (([([], link "Row")].mapM fun call =>
    inline Extraction.longChain 2 call.1 call.2).run .fresh).2⟩

/-- By itself the table meets the bound and is not shared; the shared node of its rows takes it
past the bound, and it is shared then. -/
theorem tableAfterRow_complete :
    ((inline Extraction.longChain 2 [] (link "Table")).run .fresh).2.shared.map (·.1) = [] ∧
      (tableAfterRow.afterwards Extraction.longChain 2).shared.map (·.1) =
        [link "Cell", link "Row", link "Table"] ∧
      SharesComplete Extraction.longChain (tableAfterRow.afterwards Extraction.longChain 2) ∧
      Keeps tableAfterRow.before (tableAfterRow.afterwards Extraction.longChain 2) ∧
      (tableAfterRow.afterwards Extraction.longChain 2).sharedNode? (link "Table") =
        some (tableAfterRow.answer Extraction.longChain 2) ∧
      ∃ other, MadeDuring Extraction.longChain 2 tableAfterRow other ∧
        other.pointer = link "Row" ∧ Keeps tableAfterRow.before other.before := by
  have made : Made Extraction.longChain 2 tableAfterRow := .outer [([], link "Row")] [] _
  obtain ⟨-, complete, keeps, shares, during⟩ := shared_complete made
  have asks : (target? Extraction.longChain (link "Table")).map (met · .null) =
      some [link "Row"] := by decide +kernel
  obtain ⟨schema, leads, asked⟩ := Option.map_eq_some_iff.mp asks
  have unshared : tableAfterRow.before.sharedNode? (link "Table") = none :=
    Option.isNone_iff_eq_none.mp (by decide +kernel)
  have unknown : tableAfterRow.before.nodeAlong? (link "Table") [] = none :=
    Option.isNone_iff_eq_none.mp (by decide +kernel)
  have row := @MadeDuring.part Extraction.longChain 2 tableAfterRow schema [] [] (link "Row")
    List.not_mem_nil Nat.zero_lt_two unshared unknown leads asked
  exact ⟨by decide +kernel, by decide +kernel, complete, keeps, shares (by decide +kernel), _, row,
    rfl, (during _ row).1⟩

end Inlining

end AsyncTypes

import AsyncTypes.Value.Basic

/-!
# Visiting a value with a list of pending values

Some questions about a value are answered by keeping a list of values still to be
visited: the first one is taken away and what it holds is put in its place.  Every
such step makes the pending values smaller in total, so the visit comes to an end.

Two questions are answered here: whether mappings and lists nest deeper than a
limit, and which pointers the references of a value hold.
-/

namespace AsyncTypes.Value

/-! ## The measure -/

/-- The total size of the pending values. -/
noncomputable def workload : List Value → Nat
  | [] => 0
  | value :: rest => sizeOf value + workload rest

@[simp]
theorem workload_append (first second : List Value) :
    workload (first ++ second) = workload first + workload second := by
  induction first with
  | nil => simp [workload]
  | cons value rest ih => simp [workload, ih]; omega

/-- The items of a list are smaller than the list. -/
theorem workload_items_lt (items : List Value) : workload items < sizeOf items := by
  induction items with
  | nil => simp [workload]
  | cons item rest ih => simp [workload]; omega

/-- The values of a mapping are smaller than its entries. -/
theorem workload_entries_lt (entries : Entries) :
    workload (entries.map (·.2)) < sizeOf entries := by
  induction entries with
  | nil => simp [workload]
  | cons entry rest ih =>
      obtain ⟨key, value⟩ := entry
      simp [workload]
      omega

/-- What a value holds is smaller than the value. -/
theorem workload_children_lt (value : Value) : workload value.children < sizeOf value := by
  cases value with
  | list items =>
      have smaller := workload_items_lt items
      simp [children]
      omega
  | map entries =>
      have smaller := workload_entries_lt entries
      simp [children]
      omega
  | _ => simp [children, workload]; try omega

/-! ## Nesting -/

/-- Some pending mapping or list, or one in it, is nested deeper than the limit.
Every pending value comes with its own depth. -/
def anyDeeper (limit : Nat) (pending : List (Nat × Value)) : Bool :=
  match pending with
  | [] => false
  | (depth, value) :: rest =>
      if value.isContainer then
        if limit < depth then true
        else anyDeeper limit (value.children.map (fun child => (depth + 1, child)) ++ rest)
      else anyDeeper limit rest
termination_by workload (pending.map (·.2))
decreasing_by
  · have smaller := workload_children_lt value
    simp only [List.map_append, List.map_map, workload_append, List.map_cons, workload]
    have same : (value.children.map fun child => (depth + 1, child)).map (·.2) = value.children := by
      simp [Function.comp_def]
    rw [List.map_map] at same
    rw [same]
    omega
  · simp only [List.map_cons, workload]
    have positive : 0 < sizeOf value := by
      cases value <;> simp only [scalar.sizeOf_spec, list.sizeOf_spec, map.sizeOf_spec,
        set.sizeOf_spec, pair.sizeOf_spec] <;> omega
    omega

/-- Mappings and lists nest in a value more than `limit` levels deep. -/
def exceedsDepth (limit : Nat) (value : Value) : Bool :=
  anyDeeper limit [(1, value)]

/-! ## References -/

/-- A pointer joins the pointers found before it unless it is one of them. -/
def addPointer (found : List String) (value : Value) : List String :=
  match value.reference? with
  | some pointer => if found.contains pointer then found else found ++ [pointer]
  | none => found

/-- The pointers found so far and those of the pending values, in order of first
appearance. -/
def collectReferences (found : List String) (pending : List Value) : List String :=
  match pending with
  | [] => found
  | value :: rest => collectReferences (addPointer found value) (value.children ++ rest)
termination_by workload pending
decreasing_by
  have smaller := workload_children_lt value
  simp only [workload_append, workload]
  omega

/-- The distinct pointers of the references in a value, in document order. -/
def references (value : Value) : List String :=
  collectReferences [] [value]

end AsyncTypes.Value

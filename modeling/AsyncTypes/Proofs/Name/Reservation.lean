import AsyncTypes.Proofs.Name.Free

/-!
# Reserved names are fresh

A compilation reserves its names one after another.  Whatever names are taken before, and whatever
names are wanted, the names that it gets are distinct and were not taken, and each of them is taken
from then on.  A wanted name that is free is given as it is; any other gets the least free number.
-/

namespace AsyncTypes.TypeScript

namespace Compilation

/-- The compilation with some more names taken. -/
def taking (compilation : Compilation) (names : List String) : Compilation :=
  { compilation with used := compilation.used ++ names }

variable (compilation : Compilation)

@[simp]
theorem used_taking (names : List String) :
    (compilation.taking names).used = compilation.used ++ names :=
  rfl

@[simp]
theorem taking_nil : compilation.taking [] = compilation := by
  simp [taking]

@[simp]
theorem taking_taking (first second : List String) :
    (compilation.taking first).taking second = compilation.taking (first ++ second) := by
  simp [taking]

end Compilation

variable {taken wanted : List String}

/-! ## Free names, one after another -/

@[simp]
theorem length_freeNames (taken wanted : List String) :
    (freeNames taken wanted).length = wanted.length := by
  induction wanted generalizing taken with
  | nil => rfl
  | cons first rest ih => simp [freeNames, ih]

/-- The names for the first of the wanted names do not depend on those after them. -/
theorem freeNames_take (taken wanted : List String) (count : Nat) :
    freeNames taken (wanted.take count) = (freeNames taken wanted).take count := by
  induction wanted generalizing taken count with
  | nil => simp [freeNames]
  | cons first rest ih =>
      cases count with
      | zero => rfl
      | succ count => simp [freeNames, ih]

/-- Each name is allotted among those that were taken before and those that are given before it. -/
theorem allotted_of_getElem? {index : Nat} {want name : String}
    (asked : wanted[index]? = some want) (given : (freeNames taken wanted)[index]? = some name) :
    Allotted (taken ++ (freeNames taken wanted).take index)
      (fun number => want ++ toString number) want name := by
  induction wanted generalizing taken index with
  | nil => exact nomatch asked
  | cons first rest ih =>
      cases index with
      | zero =>
          obtain rfl : first = want := Option.some.inj asked
          obtain rfl : freeName taken first = name := Option.some.inj given
          simpa using allotted_freeName taken first
      | succ index =>
          have later := @ih (taken ++ [freeName taken first]) index asked given
          simpa [freeNames] using later

/-! ## Reserving -/

theorem run_reserve (wanted : String) (before : Compilation) :
    (Compile.reserve wanted).run before =
      (freeName before.used wanted, before.taking [freeName before.used wanted]) :=
  rfl

/-- Reserving some names, one after another, gives free names and takes them. -/
theorem run_mapM_reserve (wanted : List String) (before : Compilation) :
    (wanted.mapM Compile.reserve).run before =
      (freeNames before.used wanted, before.taking (freeNames before.used wanted)) := by
  induction wanted generalizing before with
  | nil => exact Prod.ext rfl (before.taking_nil).symm
  | cons first rest ih =>
      let name := freeName before.used first
      have later := ih (before.taking [name])
      rw [Compilation.used_taking, Compilation.taking_taking] at later
      calc ((first :: rest).mapM Compile.reserve).run before
          = (name :: ((rest.mapM Compile.reserve).run (before.taking [name])).1,
              ((rest.mapM Compile.reserve).run (before.taking [name])).2) := by
            rw [List.mapM_cons, StateT.run_bind, run_reserve]
            rfl
        _ = _ := by
            rw [later]
            rfl

/-- Reserved names are fresh.  Whatever names are taken and whatever names are wanted, one after
another, as many names are given as are wanted; they are distinct, and none of them was taken.
After any number of them, exactly those that have been given are taken besides those from before.
The next one is allotted among these: it is the wanted name when that is free, and otherwise it has
the least number from two on that makes it free, where the search for this number ends. -/
theorem reserve_fresh (wanted : List String) (before : Compilation) :
    let names := ((wanted.mapM Compile.reserve).run before).1
    names.length = wanted.length ∧ names.Nodup ∧ (∀ name ∈ names, name ∉ before.used) ∧
      ∀ count, ((wanted.take count).mapM Compile.reserve).run before =
          (names.take count, before.taking (names.take count)) ∧
        ∀ want name, wanted[count]? = some want → names[count]? = some name →
          Allotted (before.taking (names.take count)).used (fun number => want ++ toString number)
            want name := by
  intro names
  have given : names = freeNames before.used wanted :=
    congrArg Prod.fst (run_mapM_reserve wanted before)
  rw [given]
  refine ⟨length_freeNames _ _, nodup_freeNames _ _, fun name => notMem_of_mem_freeNames, ?_⟩
  intro count
  constructor
  · rw [run_mapM_reserve, freeNames_take]
  · intro want name asked found
    exact allotted_of_getElem? asked found

/-- The name of an item is taken, and of the wanted names one is another one with a number. -/
theorem clashing_reserved :
    let before : Compilation := ⟨[], [], ["Item"], [], [], []⟩
    let names := ((["A2", "A", "A", "Item"].mapM Compile.reserve).run before).1
    names = ["A2", "A", "A3", "Item2"] ∧ "A3" ∉ ["Item"] ∧
      Allotted ["Item", "A2", "A"] (fun number => "A" ++ toString number) "A" "A3" := by
  intro before names
  have given : names = ["A2", "A", "A3", "Item2"] := by decide +kernel
  obtain ⟨-, -, fresh, each⟩ := reserve_fresh ["A2", "A", "A", "Item"] before
  have third := (each 2).2 "A" "A3" rfl (congrArg (·[2]?) given)
  have earlier : names.take 2 = ["A2", "A"] := congrArg (·.take 2) given
  have member : "A3" ∈ names := by
    rw [given]
    simp
  rw [earlier] at third
  exact ⟨given, fresh "A3" member, third⟩

end AsyncTypes.TypeScript

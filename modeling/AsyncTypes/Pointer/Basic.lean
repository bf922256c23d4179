import AsyncTypes.Text.Split

/-!
# Local pointers

A local pointer is `#/` followed by steps between slashes.  In a step, `~1` stands
for a slash and `~0` for a tilde, so every key can be written as a step and read
back.
-/

namespace AsyncTypes.Pointer

/-! ## Steps -/

/-- The key that a step stands for. -/
def unescape : List Char → List Char
  | '~' :: '1' :: rest => '/' :: unescape rest
  | '~' :: '0' :: rest => '~' :: unescape rest
  | c :: rest => c :: unescape rest
  | [] => []

/-- The step that stands for a key. -/
def escape : List Char → List Char
  | [] => []
  | c :: rest =>
      if c = '~' then '~' :: '0' :: escape rest
      else if c = '/' then '~' :: '1' :: escape rest
      else c :: escape rest

/-- Reading a written step gives the key back. -/
theorem unescape_escape (key : List Char) : unescape (escape key) = key := by
  induction key with
  | nil => rfl
  | cons c rest ih =>
      by_cases tilde : c = '~'
      · simp [escape, tilde, unescape, ih]
      · by_cases slash : c = '/'
        · simp [escape, slash, unescape, ih]
        · simp only [escape, tilde, slash, if_false]
          rw [unescape, ih]
          · simp [tilde]
          · simp [tilde]

/-- The key that a step stands for. -/
def stepKey (step : List Char) : String :=
  String.ofList (unescape step)

/-- The keys of a local pointer; other pointers have none. -/
def keys? (pointer : String) : Option (List String) :=
  (Text.after? "#/".toList pointer.toList).map fun steps =>
    (Text.split '/' steps).map stepKey

/-! ## Known places -/

/-- Where the component schemas are. -/
def schemaRoot : String := "#/components/schemas/"

/-- Where the component messages are. -/
def messageRoot : String := "#/components/messages/"

/-- Where the channels are. -/
def channelRoot : String := "#/channels/"

/-- The key of the first step after a root, when the pointer lies below it. -/
def keyBelow? (root pointer : String) : Option String :=
  (Text.after? root.toList pointer.toList).map fun rest =>
    stepKey (rest.takeWhile (· != '/'))

/-- The key of the last step of a pointer. -/
def lastKey (pointer : String) : String :=
  stepKey ((pointer.toList.reverse.takeWhile (· != '/')).reverse)

end AsyncTypes.Pointer

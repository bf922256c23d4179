import AsyncTypes.CommandLine.Run

/-!
# The program

The outer layer of the command line: it looks at the files that the arguments name, runs
the command on what it saw, and then shows its lines and writes its file.
-/

namespace AsyncTypes.Program

/-- The environment variables that hold settings. -/
def settingNames : List String :=
  ["LOG_LEVEL", "TYPEGEN_MAX_FILE_SIZE", "TYPEGEN_DEFAULT_OUTPUT", "TYPEGEN_ENUM_TYPE",
    "TYPEGEN_USE_UNKNOWN", "TYPEGEN_EXPORT_EVERYTHING"]

/-- The settings of the environment, under their names or the same in lower case. -/
def environment : IO (List (String × String)) := do
  let mut found : List (String × String) := []
  for name in settingNames do
    for spelling in [name.toLower, name] do
      if let some value ← IO.getEnv spelling then
        found := found ++ [(spelling, value)]
  return found

/-- What is at a path of the file system. -/
def entryAt (path : String) : IO (Option FileEntry) := do
  try
    let place ← IO.FS.realPath path
    if ← place.isDir then return some .directory
    else if ← place.pathExists then return some (.file (← IO.FS.readBinFile place))
    else return none
  catch _ => return none

/-- The paths on the way to a path, and the path itself. -/
def pathsTo (path : Path) : List Path :=
  (List.range (path.parts.length + 1)).map fun count => ⟨path.root, path.parts.take count⟩

/-- The place of a path in a tree. -/
def placeOf (path : Path) : List String :=
  if path.root == "" then path.parts else "/" :: path.parts

/-- A tree of all that the arguments may name. -/
def look (arguments : List String) : IO FileTree := do
  let mut entries : List (List String × FileEntry) := []
  let named := arguments ++ arguments.filterMap fun text => (CommandLine.splitValue text).2
  for text in Settings.default.defaultOutput :: named do
    for path in pathsTo (Path.ofText text) do
      if let some entry ← entryAt path.text then
        entries := (placeOf path, entry) :: entries
  return ⟨entries⟩

/-- Write the files of a tree that were not there before, or not like this. -/
def store (before after : FileTree) : IO Unit := do
  for (place, content) in after.files do
    let path : Path := match place with
      | "/" :: parts => ⟨"/", parts⟩
      | parts => ⟨"", parts⟩
    let same := (before.files.lookup place).any fun known => known.toList == content.toList
    unless same do
      IO.FS.createDirAll path.parent.text
      IO.FS.writeBinFile path.text content

/-- A name for a run. -/
def freshRun : IO String := do
  let mut digits : List Char := []
  for _ in [0:32] do
    digits := Nat.digitChar (← IO.rand 0 15) :: digits
  return String.ofList digits

/-- Show the log and the lines of a run. -/
def report (outcome : CommandLine.Outcome) (run : String) : IO Unit := do
  for entry in outcome.log do
    let line := entry.line Display.programName run
    IO.eprintln (Json.write (.record (line.fields.map fun field => (field.1, .string field.2))))
  for line in outcome.lines do
    match line.stream with
    | .output => IO.println line.text
    | .errors => IO.eprintln line.text

end AsyncTypes.Program

open AsyncTypes AsyncTypes.Program in
/-- Run the command line. -/
def main (arguments : List String) : IO UInt32 := do
  let files ← look arguments
  let run ← freshRun
  let outcome := CommandLine.Invocation.outcome
    ⟨arguments, ← environment, files, 80, run⟩
  store files outcome.files
  report outcome run
  return UInt32.ofNat outcome.exitCode.toNat

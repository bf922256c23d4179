import AsyncTypes.CommandLine.Arguments
import AsyncTypes.Display.Report
import AsyncTypes.Loading
import AsyncTypes.Log.Line
import AsyncTypes.Settings
import AsyncTypes.TypeScript.Generation

/-!
# Runs of the command line

A run starts from arguments, an environment and a file tree.  It shows lines, logs entries
and may write one file, at its very end.  A failure ends it with an error on the screen
and the exit code of the failure; whatever else stops it escapes.
-/

namespace AsyncTypes.CommandLine

/-! ## Commands -/

/-- What a command has done so far: the lines shown, the entries logged and the files. -/
structure Progress where
  lines : List Display.Line
  log : List Log.Entry
  files : FileTree

/-- A command of the command line. -/
abbrev Command := ExceptT Stop (StateM Progress)

namespace Command

/-- Show some lines. -/
def display (lines : List Display.Line) : Command Unit :=
  modify fun progress => { progress with lines := progress.lines ++ lines }

/-- Log an entry. -/
def note (level : Log.Level) (text : String) : Command Unit :=
  modify fun progress =>
    { progress with log := progress.log ++ [⟨level, .commandLine, text⟩] }

/-- End with a failure. -/
def fail {α : Type} (failure : Failure) : Command α :=
  throw (.failure failure)

/-- Do some work and keep its log. -/
def perform {α : Type} (work : Work α) : Command α := do
  let (result, entries) := work.outcome
  modify fun progress => { progress with log := progress.log ++ entries }
  match result with
  | .ok value => return value
  | .error stop => throw stop

/-! ### Arguments -/

/-- The most characters of a path. -/
def maxPathLength : Nat := 4096

/-- The kinds of documents that can be read. -/
def inputKinds : List String := [".json", ".yml", ".yaml"]

/-- The kind of file that is written. -/
def outputKind : String := ".ts"

/-- A path from the command line; `role` says what it is for. -/
def pathOf (text role : String) : Command Path := do
  if (Unicode.trim text.toList).isEmpty then
    fail (.configuration s!"{role} path must not be empty")
  if maxPathLength < text.length then
    fail (.configuration s!"{role} path is too long (maximum {maxPathLength} characters)")
  return Path.ofText text

/-- The path of a document. -/
def inputPath (text : String) : Command Path := do
  let path ← pathOf text "Input"
  let allowed := String.intercalate ", " inputKinds
  if inputKinds.contains path.kind then return path
  else fail (.configuration s!"Invalid file extension. Allowed: {allowed}")

/-- The path of the declarations. -/
def outputPath (text : String) : Command Path := do
  let path ← pathOf text "Output"
  if path.kind == outputKind then return path
  else fail (.configuration s!"Output file must have {outputKind} extension")

/-- The style that a word names, in any spelling of upper and lower case. -/
def enumStyle (word : String) : Command EnumStyle :=
  let allowed := String.intercalate ", " (EnumStyle.all.map EnumStyle.word)
  match EnumStyle.ofWord? (String.ofList (Unicode.lowerText word.toList)) with
  | some style => return style
  | none => fail (.configuration s!"Invalid enum type '{word}'. Allowed: {allowed}")

/-- The options of the settings, with what was chosen on the command line. -/
def optionsOf (settings : Settings) (choices : Choices) : Command Options := do
  let style ← choices.enumStyle.mapM enumStyle
  return { settings.options with
    enumStyle := style.getD settings.options.enumStyle
    useUnknown := choices.useUnknown.getD settings.options.useUnknown }

/-! ### Documents and declarations -/

/-- Load a document. -/
def load (settings : Settings) (path : Path) : Command Document := do
  perform (Loading.documentOfFile (← get).files path.text settings.maxFileSize .kept)

/-- End with the fault of writing to a path, if there is one. -/
def reportFault (path : Path) : Option (FileFault × Path) → Command Unit
  | none => return
  | some (.embeddedNull, place) => throw (.badValue (FileFault.embeddedNull.message place))
  | some (fault, place) =>
      fail (.output s!"Failed to write output file {path.text}: {fault.message place}")

/-- Write a text to a file. -/
def save (path : Path) (text : String) : Command Unit := do
  let effect := (← get).files.save path text.toUTF8
  modify fun progress => { progress with files := effect.files }
  reportFault path effect.fault

/-- Generate the declarations of a document. -/
def generate (terminal : Nat) (settings : Settings) (input : String) (choices : Choices) :
    Command Unit := do
  let source ← inputPath input
  let chosen := choices.output.filter (· != "")
  let target ← outputPath (chosen.getD settings.defaultOutput)
  let options ← optionsOf settings choices
  let document ← load settings source
  display (Display.summary terminal document)
  display (Display.warnings terminal document.warnings)
  let generated ← perform (ExceptT.lift (TypeScript.generateLogged document options))
  save target generated.output
  display (Display.generation terminal target.text generated)

/-- Validate a document. -/
def validate (terminal : Nat) (settings : Settings) (input : String) : Command Unit := do
  let source ← inputPath input
  let document ← load settings source
  display (Display.warnings terminal document.warnings)
  display (Display.validity terminal document)

/-- The layout of a plain log line. -/
def plainLayout : String := "%(levelname)s:%(name)s:%(message)s"

/-- The styles of log lines, as they are shown. -/
def shownStyles : String :=
  "\x7b'%': (<class 'logging.PercentStyle'>, '" ++ plainLayout ++ "'), " ++
    "'\x7b': (<class 'logging.StrFormatStyle'>, '\x7blevelname\x7d:\x7bname\x7d:\x7bmessage\x7d'), " ++
    "'$': (<class 'logging.StringTemplateStyle'>, '$\x7blevelname\x7d:$\x7bname\x7d:$\x7bmessage\x7d')\x7d"

/-- Set the threshold of the log.  The layout and the styles of log lines are kept under names
like those of the levels, and they are refused. -/
def setThreshold (name : String) : Command Unit :=
  let upper := String.ofList (Unicode.upperText name.toList)
  if upper == "BASIC_FORMAT" then
    throw (.badValue s!"Unknown level: {Quoted.text plainLayout}")
  else if upper == "_STYLES" then
    throw (.wrongType s!"Level not an integer or a valid string: {shownStyles}")
  else return

/-- A command with its settings, which are read first.  The run is named in the log. -/
def withSettings (environment : List (String × String)) (run : String)
    (command : Settings → Command Unit) : Command Unit := do
  match Settings.ofEnvironment environment with
  | .error issues =>
      let listed := issues.map fun issue => s!"{issue.place}: {issue.message}"
      let joined := String.intercalate "\n" listed
      fail (.configuration s!"Invalid configuration: {joined}")
  | .ok settings =>
      setThreshold settings.logLevel
      note .debug s!"Starting run {run}"
      command settings

end Command

/-! ## Runs -/

/-- All that a run depends on. -/
structure Invocation where
  arguments : List String
  environment : List (String × String)
  files : FileTree
  terminal : Nat
  run : String

/-- What a run leaves behind. -/
structure Outcome where
  exitCode : Int
  lines : List Display.Line
  log : List Log.Entry
  files : FileTree
  escaped : Option Stop

/-- How the program is used. -/
def usage : List String :=
  ["Usage: " ++ Display.programName ++ " [--version] [--help] COMMAND [ARGS]",
    "",
    "Generate TypeScript type declarations from AsyncAPI 3.x documents.",
    "",
    "Commands:",
    "  generate [-o FILE] [--enum-type STYLE] [--use-unknown | --no-use-unknown] INPUT",
    "  validate INPUT"]

namespace Invocation

/-- What is left behind when nothing was done but showing some lines. -/
def shown (invocation : Invocation) (exitCode : Int) (lines : List Display.Line) : Outcome :=
  ⟨exitCode, lines, [], invocation.files, none⟩

/-- The threshold of the log, which the settings name. -/
def threshold (invocation : Invocation) : Nat :=
  match Settings.ofEnvironment invocation.environment with
  | .ok settings => Log.effective "src" (Log.thresholdOf settings.logLevel)
  | .error _ => Log.Level.warning.weight

/-- What a command leaves behind. -/
def perform (invocation : Invocation) (command : Settings → Command Unit) : Outcome :=
  let work := Command.withSettings invocation.environment invocation.run command
  let (result, progress) := (work.run).run ⟨[], [], invocation.files⟩
  let ended (exitCode : Int) (escaped : Option Stop) (progress : Progress) : Outcome :=
    { exitCode := exitCode
      lines := progress.lines
      log := Log.atLeast invocation.threshold progress.log
      files := progress.files
      escaped := escaped }
  match result with
  | .ok _ => ended 0 none progress
  | .error (.failure failure) =>
      ended failure.exitCode none
        { progress with
          lines := progress.lines ++ Display.error invocation.terminal failure.message
          log := progress.log ++
            [⟨.debug, .commandLine, s!"Command failed: {failure.message}"⟩] }
  | .error stop => ended 1 (some stop) progress

/-- What a run leaves behind. -/
def outcome (invocation : Invocation) : Outcome :=
  match Request.ofArguments invocation.arguments with
  | .version => invocation.shown 0 Display.version
  | .help => invocation.shown 0 (Display.toOutput usage)
  | .misused => invocation.shown 2 (Display.toErrors usage)
  | .generate input choices =>
      invocation.perform fun settings =>
        Command.generate invocation.terminal settings input choices
  | .validate input =>
      invocation.perform fun settings => Command.validate invocation.terminal settings input

end Invocation

end AsyncTypes.CommandLine

import AsyncTypes.CommandLine.Run
import AsyncTypes.Proofs.Extraction.Gate
import AsyncTypes.Proofs.Files.Change

/-!
# What a run leaves behind

A generation reads its settings, its paths, its options and its document before it writes, and
nothing after the writing can fail.  So a run that succeeds has replaced its one file, with
what the document compiles to, and a run that fails has changed no regular file.
-/

namespace AsyncTypes

/-! ## Ends of a run -/

/-- The stop shows: it escapes from the run, or its exit code is not that of a success. -/
def Stop.Shows : Stop → Prop
  | .failure cause => cause.exitCode ≠ 0
  | _ => True

namespace Work

variable {α β : Type}

/-- Every stop of the work shows. -/
def Shows (work : Work α) : Prop :=
  ∀ stop, work.run.value = .error stop → stop.Shows

/-- The result of work in sequence. -/
theorem value_run_bind (work : Work α) (next : α → Work β) :
    (work >>= next).run.value =
      match work.run.value with
      | .ok value => (next value).run.value
      | .error stop => .error stop := by
  show (ExceptT.bindCont next work.run.value).value = _
  cases work.run.value <;> rfl

theorem Shows.pure (value : α) : Shows (Pure.pure value) :=
  fun _ stopped => nomatch stopped

theorem Shows.throw {stop : Stop} (shows_ : stop.Shows) :
    Shows (MonadExcept.throw stop : Work α) := by
  intro other stopped
  cases stopped
  exact shows_

theorem Shows.fail {cause : Failure} (bad : cause.exitCode ≠ 0) :
    Shows (Work.fail cause : Work α) :=
  .throw bad

theorem Shows.lift (logged : Logged α) : Shows (ExceptT.lift logged) :=
  fun _ stopped => nomatch stopped

theorem Shows.bind {work : Work α} {next : α → Work β} (first : work.Shows)
    (rest : ∀ value, (next value).Shows) : (work >>= next).Shows := by
  intro stop stopped
  rw [value_run_bind] at stopped
  cases result : work.run.value with
  | error other =>
      rw [result] at stopped
      cases stopped
      exact first _ result
  | ok value =>
      rw [result] at stopped
      exact rest value stop stopped

end Work

/-! ## Documents -/

/-- Whatever ends the extraction shows. -/
theorem Extraction.shows_extract (document : Value) (references : References) :
    (extract document references).Shows := by
  intro stop stopped
  cases mapping : document.isMap with
  | false =>
      unfold extract at stopped
      simp only [mapping] at stopped
      cases stopped
      trivial
  | true =>
      cases escaped : (Validation.validate document).escape with
      | some message =>
          rw [extract_of_escape mapping escaped] at stopped
          cases stopped
          trivial
      | none =>
          cases valid : (Validation.validate document).isValid with
          | false =>
              rw [extract_of_not_isValid mapping escaped valid] at stopped
              cases stopped
              exact (by decide : (4 : Int) ≠ 0)
          | true =>
              obtain ⟨identity, -, read⟩ := extract_of_isValid mapping escaped valid
              rw [read] at stopped
              contradiction

namespace Loading

theorem shows_stopOf (refuse : Yaml.Level → ParsingCause) (fault : Yaml.Fault) :
    (stopOf refuse fault).Shows := by
  cases fault with
  | malformed level => exact (by decide : (3 : Int) ≠ 0)
  | _ => trivial

theorem shows_of_readJson {source text : String} {stop : Stop}
    (refused : readJson source text = .error stop) : stop.Shows := by
  unfold readJson at refused
  split at refused
  · exact nomatch refused
  · cases refused
    exact (by decide : (3 : Int) ≠ 0)
  · cases refused
    trivial

theorem shows_of_readYaml {refuse : Yaml.Level → ParsingCause} {text : String} {stop : Stop}
    (refused : readYaml refuse text = .error stop) : stop.Shows := by
  unfold readYaml at refused
  cases read : Yaml.read text with
  | ok value =>
      rw [read] at refused
      exact nomatch refused
  | error fault =>
      rw [read] at refused
      cases refused
      exact shows_stopOf refuse fault

theorem shows_of_requireMap {refuse : String → ParsingCause} {value : Value} {stop : Stop}
    (refused : requireMap refuse value = .error stop) : stop.Shows := by
  unfold requireMap at refused
  split at refused
  · exact nomatch refused
  · cases refused
    exact (by decide : (3 : Int) ≠ 0)

theorem shows_of_parseText {text source : String} {stop : Stop}
    (refused : parseText text source = .error stop) : stop.Shows := by
  unfold parseText at refused
  split at refused
  · cases read : readJson source text with
    | error other =>
        rw [read] at refused
        cases refused
        exact shows_of_readJson read
    | ok value =>
        rw [read] at refused
        exact shows_of_requireMap refused
  · cases read : readYaml (.malformedYaml source) text with
    | error other =>
        rw [read] at refused
        cases refused
        exact shows_of_readYaml read
    | ok value =>
        rw [read] at refused
        exact shows_of_requireMap refused

theorem shows_fileText (tree : FileTree) (name : String) (limit : Int) :
    (fileText tree name limit).Shows := by
  have notUtf8 : (Failure.parsing (.notUtf8 name)).exitCode ≠ 0 := (by decide : (3 : Int) ≠ 0)
  unfold fileText
  dsimp only
  split
  · exact .throw trivial
  · exact .fail (by decide : (2 : Int) ≠ 0)
  · exact .fail (by decide : (2 : Int) ≠ 0)
  · split
    · refine .bind (.fail (by decide : (2 : Int) ≠ 0)) fun _ => ?_
      split
      · exact .fail notUtf8
      · exact .bind (.lift _) fun _ => .pure _
    · split
      · exact .fail notUtf8
      · exact .bind (.lift _) fun _ => .pure _

/-- Whatever ends the loading of a document shows. -/
theorem shows_documentOfFile (tree : FileTree) (name : String) (limit : Int)
    (references : Extraction.References) : (documentOfFile tree name limit references).Shows := by
  unfold documentOfFile
  refine .bind (shows_fileText tree name limit) fun text => ?_
  cases parsed : parseText text name with
  | error stop => exact .throw (shows_of_parseText parsed)
  | ok root => exact .bind (.lift _) fun _ => Extraction.shows_extract root references

end Loading

namespace CommandLine

/-! ## Commands -/

namespace Command

variable {files : FileTree} {α β : Type} {kind : α → Prop} {done : FileTree → Prop}

/-- From these files the command gives a value of this kind or ends with a stop that shows, and
it leaves the files as they are. -/
def Reads (files : FileTree) (kind : α → Prop) (command : Command α) : Prop :=
  ∀ progress : Progress, progress.files = files →
    (command.run.run progress).2.files = files ∧
      match (command.run.run progress).1 with
      | .ok value => kind value
      | .error stop => stop.Shows

/-- From these files the command comes to others as `done` says, or it ends with a stop that
shows and changes no regular file. -/
def Ends (files : FileTree) (done : FileTree → Prop) (command : Command Unit) : Prop :=
  ∀ progress : Progress, progress.files = files →
    match (command.run.run progress).1 with
    | .ok _ => done (command.run.run progress).2.files
    | .error stop => stop.Shows ∧ FileTree.SameFiles files (command.run.run progress).2.files

/-- The run of commands in sequence. -/
theorem run_bind (command : Command α) (next : α → Command β) (progress : Progress) :
    (command >>= next).run.run progress =
      match command.run.run progress with
      | (.ok value, after) => (next value).run.run after
      | (.error stop, after) => (.error stop, after) := by
  show (ExceptT.bindCont next (command.run.run progress).1).run (command.run.run progress).2 = _
  rcases command.run.run progress with ⟨result, after⟩
  cases result <;> rfl

theorem Reads.pure {value : α} (holds : kind value) : Reads files kind (Pure.pure value) :=
  fun _ same => ⟨same, holds⟩

theorem Reads.throw {stop : Stop} (shows_ : stop.Shows) :
    Reads files kind (MonadExcept.throw stop : Command α) :=
  fun _ same => ⟨same, shows_⟩

theorem Reads.fail {cause : Failure} (bad : cause.exitCode ≠ 0) :
    Reads files kind (Command.fail cause : Command α) :=
  .throw bad

theorem Reads.bind {other : β → Prop} {command : Command α} {next : α → Command β}
    (reads : Reads files kind command)
    (rest : ∀ value, kind value → Reads files other (next value)) :
    Reads files other (command >>= next) := by
  intro progress same
  have first := reads progress same
  rw [run_bind]
  generalize command.run.run progress = ran at first
  obtain ⟨result, after⟩ := ran
  obtain ⟨kept, held⟩ := first
  cases result with
  | ok value => exact rest value held after kept
  | error stop => exact ⟨kept, held⟩

theorem Reads.imp {other : α → Prop} {command : Command α} (reads : Reads files kind command)
    (implies : ∀ value, kind value → other value) : Reads files other command := by
  intro progress same
  obtain ⟨kept, held⟩ := reads progress same
  refine ⟨kept, ?_⟩
  generalize (command.run.run progress).1 = result at held
  cases result with
  | ok value => exact implies value held
  | error stop => exact held

/-- Reading and then ending is ending. -/
theorem Ends.after {command : Command α} {next : α → Command Unit}
    (reads : Reads files kind command) (ends : ∀ value, kind value → Ends files done (next value)) :
    Ends files done (command >>= next) := by
  intro progress same
  have first := reads progress same
  rw [run_bind]
  generalize command.run.run progress = ran at first
  obtain ⟨result, after⟩ := ran
  obtain ⟨kept, held⟩ := first
  cases result with
  | ok value => exact ends value held after kept
  | error stop =>
      refine ⟨held, ?_⟩
      rw [show after.files = files from kept]
      exact .refl files

/-- A command that only reads changes no regular file. -/
theorem Reads.ends {kind : Unit → Prop} {command : Command Unit}
    (reads : Reads files kind command) :
    Ends files (FileTree.SameFiles files) command := by
  intro progress same
  obtain ⟨kept, held⟩ := reads progress same
  rw [kept]
  generalize (command.run.run progress).1 = result at held
  cases result with
  | ok value => exact .refl files
  | error stop => exact ⟨held, .refl files⟩

/-- Showing lines changes nothing. -/
theorem Ends.display {command : Command Unit} (ends : Ends files done command)
    (lines : List Display.Line) :
    Ends files done (command >>= fun _ => Command.display lines) := by
  intro progress same
  have first := ends progress same
  rw [run_bind]
  generalize command.run.run progress = ran at first
  obtain ⟨result, after⟩ := ran
  cases result <;> exact first

theorem Ends.imp {other : FileTree → Prop} {command : Command Unit}
    (ends : Ends files done command) (implies : ∀ after, done after → other after) :
    Ends files other command := by
  intro progress same
  have held := ends progress same
  generalize command.run.run progress = ran at held ⊢
  obtain ⟨result, after⟩ := ran
  cases result with
  | ok value => exact implies after.files held
  | error stop => exact held

/-! ### Steps -/

theorem reads_display (lines : List Display.Line) :
    Reads files (fun _ => True) (Command.display lines) :=
  fun _ same => ⟨same, trivial⟩

theorem reads_note (level : Log.Level) (text : String) :
    Reads files (fun _ => True) (Command.note level text) :=
  fun _ same => ⟨same, trivial⟩

/-- Work gives its result, and its stops show. -/
theorem reads_perform {work : Work α} (shows_ : work.Shows) :
    Reads files (fun value => work.run.value = .ok value) (Command.perform work) := by
  intro progress same
  unfold Command.perform Work.outcome
  dsimp only
  rw [run_bind]
  cases result : work.run.value with
  | ok value => exact ⟨same, rfl⟩
  | error stop => exact ⟨same, shows_ stop result⟩

/-- A check that may fail comes before the rest. -/
theorem Reads.unless {test : Prop} [Decidable test] {cause : Failure} (bad : cause.exitCode ≠ 0)
    {next : Command α} (rest : Reads files kind next) :
    Reads files kind (do
      if test then Command.fail cause
      next) := by
  dsimp only
  split
  · have failing : Reads files (fun _ : Unit => True) (Command.fail cause) := .fail bad
    exact failing.bind fun _ _ => rest
  · exact rest

theorem exitCode_configuration (detail : String) : (Failure.configuration detail).exitCode ≠ 0 :=
  (by decide : (2 : Int) ≠ 0)

theorem reads_pathOf (text role : String) :
    Reads files (fun path => path = Path.ofText text) (pathOf text role) :=
  .unless (exitCode_configuration _) (.unless (exitCode_configuration _) (.pure rfl))

theorem reads_inputPath (text : String) :
    Reads files (fun path => path = Path.ofText text) (inputPath text) := by
  refine (reads_pathOf text "Input").bind fun path same => ?_
  dsimp only
  split
  · exact .pure same
  · exact .fail (exitCode_configuration _)

theorem reads_outputPath (text : String) :
    Reads files (fun path => path = Path.ofText text) (outputPath text) := by
  refine (reads_pathOf text "Output").bind fun path same => ?_
  split
  · exact .pure same
  · exact .fail (exitCode_configuration _)

theorem reads_enumStyle (word : String) :
    Reads files (fun style =>
        EnumStyle.ofWord? (String.ofList (Unicode.lowerText word.toList)) = some style)
      (enumStyle word) := by
  unfold enumStyle
  dsimp only
  split
  · next style named => exact .pure named
  · exact .fail (exitCode_configuration _)

/-- The options are those of the settings with what was chosen in the place of what they say. -/
structure Effective (settings : Settings) (choices : Choices) (options : Options) : Prop where
  enumStyle :
    match choices.enumStyle with
    | none => options.enumStyle = settings.options.enumStyle
    | some word =>
        EnumStyle.ofWord? (String.ofList (Unicode.lowerText word.toList)) = some options.enumStyle
  useUnknown : options.useUnknown = choices.useUnknown.getD settings.options.useUnknown
  exportEverything : options.exportEverything = settings.options.exportEverything

theorem reads_optionsOf (settings : Settings) (choices : Choices) :
    Reads files (Effective settings choices) (optionsOf settings choices) := by
  unfold optionsOf
  obtain ⟨output, style, unknown⟩ := choices
  cases style with
  | none =>
      have nothing : Reads files (fun style => style = none)
          ((none : Option String).mapM enumStyle) := .pure rfl
      refine nothing.bind fun style same => .pure ?_
      subst same
      exact ⟨rfl, rfl, rfl⟩
  | some word =>
      have chosen : Reads files (fun style => ∃ named, style = some named ∧
          EnumStyle.ofWord? (String.ofList (Unicode.lowerText word.toList)) = some named)
          ((some word).mapM enumStyle) :=
        (reads_enumStyle word).bind fun named found => .pure ⟨named, rfl, found⟩
      refine chosen.bind fun style found => .pure ?_
      obtain ⟨named, rfl, found⟩ := found
      exact ⟨found, rfl, rfl⟩

/-- The document that is loaded is that in the file. -/
theorem reads_load (settings : Settings) (path : Path) :
    Reads files (fun document => (Loading.documentOfFile files path.text settings.maxFileSize
        .kept).run.value = .ok document) (load settings path) := by
  intro progress same
  subst same
  have ran : (load settings path).run.run progress =
      (perform (Loading.documentOfFile progress.files path.text settings.maxFileSize
        .kept)).run.run progress := by
    rw [load, run_bind]
    rfl
  rw [ran]
  exact reads_perform (Loading.shows_documentOfFile _ _ _ _) progress rfl

/-- Saving replaces one file, or it changes no regular file. -/
theorem ends_save (target : Path) (text : String) :
    Ends files (fun after => FileTree.Replaced files after target text.toUTF8)
      (save target text) := by
  intro progress same
  subst same
  have ran : (save target text).run.run progress =
      (reportFault target (progress.files.save target text.toUTF8).fault).run.run
        { progress with files := (progress.files.save target text.toUTF8).files } := rfl
  rw [ran]
  rcases FileTree.save_cases progress.files target text.toUTF8 with
    ⟨clear, replaced⟩ | ⟨faulty, kept⟩
  · rw [clear]
    exact replaced
  · obtain ⟨⟨fault, place⟩, found⟩ := Option.ne_none_iff_exists'.mp faulty
    rw [found]
    cases fault with
    | embeddedNull => exact ⟨trivial, kept⟩
    | _ => exact ⟨(by decide : (5 : Int) ≠ 0), kept⟩

/-! ### Whole commands -/

/-- The path of the file that is written. -/
def targetOf (settings : Settings) (choices : Choices) : Path :=
  Path.ofText ((choices.output.filter (· != "")).getD settings.defaultOutput)

/-- The settings are those of the environment, the options those of the settings and the choices,
the document that of the input, and the target alone is replaced, by what the document compiles
to with the options. -/
structure Compiles (environment : List (String × String)) (input : String) (choices : Choices)
    (before after : FileTree) (settings : Settings) (options : Options) (document : Document) :
    Prop where
  configured : Settings.ofEnvironment environment = .ok settings
  effective : Effective settings choices options
  loaded : (Loading.documentOfFile before (Path.ofText input).text settings.maxFileSize
    .kept).run.value = .ok document
  replaced : FileTree.Replaced before after (targetOf settings choices)
    (TypeScript.generate document options).output.toUTF8

theorem ends_generate {environment : List (String × String)} {settings : Settings}
    (configured : Settings.ofEnvironment environment = .ok settings) (terminal : Nat)
    (input : String) (choices : Choices) :
    Ends files (fun after => ∃ settings options document,
        Compiles environment input choices files after settings options document)
      (generate terminal settings input choices) := by
  refine .after (reads_inputPath input) fun source sourceIs => ?_
  refine .after (reads_outputPath _) fun target targetIs => ?_
  refine .after (reads_optionsOf settings choices) fun options effective => ?_
  refine .after (reads_load settings source) fun document loaded => ?_
  refine .after (reads_display _) fun _ _ => ?_
  refine .after (reads_display _) fun _ _ => ?_
  refine .after (reads_perform (.lift _)) fun generated compiled => ?_
  refine .display ?_ _
  subst sourceIs targetIs
  cases compiled
  exact (ends_save _ _).imp fun after replaced =>
    ⟨settings, options, document, configured, effective, loaded, replaced⟩

theorem reads_validate (terminal : Nat) (settings : Settings) (input : String) :
    Reads files (fun _ => True) (validate terminal settings input) := by
  refine (reads_inputPath input).bind fun source _ => ?_
  refine (reads_load settings source).bind fun document _ => ?_
  exact (reads_display _).bind fun _ _ => reads_display _

theorem reads_setThreshold (name : String) : Reads files (fun _ => True) (setThreshold name) := by
  unfold setThreshold
  dsimp only
  split
  · exact .throw trivial
  · split
    · exact .throw trivial
    · exact .pure trivial

/-- A command with its settings ends as it does with each settings that the environment gives. -/
theorem Ends.withSettings {environment : List (String × String)} {command : Settings → Command Unit}
    (ends : ∀ settings, Settings.ofEnvironment environment = .ok settings →
      Ends files done (command settings)) (run : String) :
    Ends files done (Command.withSettings environment run command) := by
  unfold Command.withSettings
  cases configured : Settings.ofEnvironment environment with
  | error issues =>
      intro progress same
      exact ⟨exitCode_configuration _, fun place => by subst same; rfl⟩
  | ok settings =>
      refine .after (reads_setThreshold _) fun _ _ => ?_
      exact .after (reads_note _ _) fun _ _ => ends settings configured

end Command

/-! ## Runs -/

/-- The run ends like one that did what it was asked for. -/
def Outcome.Succeeds (outcome : Outcome) : Prop :=
  outcome.exitCode = 0 ∧ outcome.escaped = none

/-- The run ends with an exit code that is not zero, or something escapes from it. -/
def Outcome.Fails (outcome : Outcome) : Prop :=
  outcome.exitCode ≠ 0 ∨ outcome.escaped ≠ none

namespace Invocation

variable {invocation : Invocation} {command : Settings → Command Unit} {done : FileTree → Prop}

/-- A run ends as its command does. -/
theorem perform_cases
    (ends : ∀ settings, Settings.ofEnvironment invocation.environment = .ok settings →
      Command.Ends invocation.files done (command settings)) :
    ((invocation.perform command).Succeeds ∧ done (invocation.perform command).files) ∨
      ((invocation.perform command).Fails ∧
        FileTree.SameFiles invocation.files (invocation.perform command).files) := by
  have ended := Command.Ends.withSettings ends invocation.run ⟨[], [], invocation.files⟩ rfl
  unfold perform
  dsimp only
  generalize (Command.withSettings invocation.environment invocation.run command).run.run
    ⟨[], [], invocation.files⟩ = ran at ended ⊢
  obtain ⟨result, progress⟩ := ran
  cases result with
  | ok value => exact Or.inl ⟨⟨rfl, rfl⟩, ended⟩
  | error stop =>
      obtain ⟨shows_, kept⟩ := ended
      cases stop with
      | failure cause => exact Or.inr ⟨Or.inl shows_, kept⟩
      | _ => exact Or.inr ⟨Or.inr (Option.some_ne_none _), kept⟩

/-- A generation from the only file of a directory. -/
def shopRun : Invocation :=
  { arguments := ["generate", "shop.json", "-o", "types/shop.ts"]
    environment := []
    files := ⟨[(["shop.json"], .file (String.toUTF8
      "\x7b\"asyncapi\": \"3.0.0\", \"info\": \x7b\"title\": \"Shop\", \"version\": \"1\"\x7d, \"channels\": \x7b\x7d\x7d"))]⟩
    terminal := 80
    run := "shop" }

end Invocation

end CommandLine

end AsyncTypes

import AsyncTypes.Text.Split

/-!
# Arguments of the command line

The arguments name a command and its options.  An option is written in full, with its
value behind an equals sign or as the next argument, or as one letter, with its value
right behind it or as the next argument.  Two hyphens end the options.
-/

namespace AsyncTypes.CommandLine

/-! ## Options -/

/-- An option of the command line. -/
inductive Switch
  | version
  | help
  | output
  | enumStyle
  | useUnknown
  | useAny
deriving DecidableEq, Inhabited

/-- The option is followed by a value. -/
def Switch.takesValue : Switch → Bool
  | .output | .enumStyle => true
  | _ => false

/-- The options that a command knows, by their names and by their letters. -/
structure Switches where
  names : List (String × Switch)
  letters : List (Char × Switch)

/-- The options before the name of a command. -/
def rootSwitches : Switches :=
  ⟨[("--version", .version), ("--help", .help)], []⟩

/-- The options of a generation. -/
def generateSwitches : Switches :=
  ⟨[("--output", .output), ("--enum-type", .enumStyle), ("--use-unknown", .useUnknown),
    ("--no-use-unknown", .useAny), ("--help", .help)], [('o', .output)]⟩

/-- The options of a validation. -/
def validateSwitches : Switches :=
  ⟨[("--help", .help)], []⟩

/-- An option that was given, with its value if it takes one. -/
structure Given where
  switch : Switch
  value : String
deriving DecidableEq, Inhabited

/-- A value for an option: the one that is attached, or else the next argument; the
arguments that are left come with it. -/
def takeValue (attached : Option String) (rest : List String) : Option (String × List String) :=
  match attached, rest with
  | some value, _ => some (value, rest)
  | none, value :: others => some (value, others)
  | none, [] => none

/-- The name of an argument and the value behind its equals sign. -/
def splitValue (argument : String) : String × Option String :=
  let characters := argument.toList
  let name := characters.takeWhile (· != '=')
  match characters.drop name.length with
  | _ :: value => (String.ofList name, some (String.ofList value))
  | [] => (argument, none)

/-- An option that is given by its letter. -/
def readLetter? (switches : Switches) (argument : String) (rest : List String) :
    Option (Given × List String) :=
  match argument.toList with
  | '-' :: letter :: tail =>
      (switches.letters.lookup letter).bind fun switch =>
        let attached := if tail.isEmpty then none else some (String.ofList tail)
        (takeValue attached rest).map fun (value, others) => (⟨switch, value⟩, others)
  | _ => none

/-- The option that an argument gives, and the arguments that are left behind it. -/
def readSwitch? (switches : Switches) (argument : String) (rest : List String) :
    Option (Given × List String) :=
  let (name, attached) := splitValue argument
  match switches.names.lookup name with
  | some switch =>
      if switch.takesValue then
        (takeValue attached rest).map fun (value, others) => (⟨switch, value⟩, others)
      else if attached.isNone then some (⟨switch, ""⟩, rest)
      else none
  | none =>
      if Text.startsWith "--" argument then none else readLetter? switches argument rest

/-- An argument that gives an option. -/
def isOption (argument : String) : Bool :=
  Text.startsWith "-" argument && argument != "-"

/-- Arguments divided into options and others. -/
structure Divided where
  given : List Given
  others : List String
deriving Inhabited

/-- The options and the other arguments of a command.  Where others must come last, the
first of them ends the options. -/
def divide (switches : Switches) (othersLast : Bool) : Nat → List String → Option Divided
  | _, [] => some ⟨[], []⟩
  | 0, _ => none
  | budget + 1, argument :: rest =>
      if argument == "--" then some ⟨[], rest⟩
      else if isOption argument then do
        let (given, left) ← readSwitch? switches argument rest
        let divided ← divide switches othersLast budget left
        return { divided with given := given :: divided.given }
      else if othersLast then some ⟨[], argument :: rest⟩
      else do
        let divided ← divide switches othersLast budget rest
        return { divided with others := argument :: divided.others }

/-- The options and the other arguments of a command. -/
def Divided.ofArguments (switches : Switches) (othersLast : Bool) (arguments : List String) :
    Option Divided :=
  divide switches othersLast (arguments.length + 1) arguments

namespace Divided

/-- An option was given. -/
def has (divided : Divided) (switch : Switch) : Bool :=
  divided.given.any (·.switch == switch)

/-- The last value of an option. -/
def valueOf (divided : Divided) (switch : Switch) : Option String :=
  (divided.given.reverse.find? (·.switch == switch)).map (·.value)

end Divided

/-! ## Requests -/

/-- What is chosen on the command line for a generation. -/
structure Choices where
  output : Option String
  enumStyle : Option String
  useUnknown : Option Bool
deriving DecidableEq, Inhabited

/-- What a command line asks for. -/
inductive Request
  | version
  | help
  | generate (input : String) (choices : Choices)
  | validate (input : String)
  | misused
deriving DecidableEq, Inhabited

namespace Request

/-- The only argument of a command, or help, if that is asked for. -/
def withInput (divided : Option Divided) (request : Divided → String → Request) : Request :=
  match divided with
  | none => .misused
  | some divided =>
      if divided.has .help then .help
      else
        match divided.others with
        | [input] => request divided input
        | _ => .misused

/-- What the options of a generation choose; of two contrary ones the last counts. -/
def choicesOf (divided : Divided) : Choices :=
  let flags := divided.given.filter fun given =>
    given.switch == .useUnknown || given.switch == .useAny
  { output := divided.valueOf .output
    enumStyle := divided.valueOf .enumStyle
    useUnknown := flags.getLast?.map (·.switch == .useUnknown) }

/-- The request of a command with its arguments. -/
def ofCommand (name : String) (arguments : List String) : Request :=
  if name == "generate" then
    withInput (Divided.ofArguments generateSwitches false arguments) fun divided input =>
      .generate input (choicesOf divided)
  else if name == "validate" then
    withInput (Divided.ofArguments validateSwitches false arguments) fun _ input => .validate input
  else .misused

/-- The request of a command line.  Asking for the version or for help comes before every
command. -/
def ofArguments (arguments : List String) : Request :=
  match Divided.ofArguments rootSwitches true arguments with
  | none => .misused
  | some divided =>
      match divided.given with
      | given :: _ => if given.switch == .version then .version else .help
      | [] =>
          match divided.others with
          | name :: rest => ofCommand name rest
          | [] => .misused

end Request

end AsyncTypes.CommandLine

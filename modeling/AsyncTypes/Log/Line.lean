import AsyncTypes.Log
import AsyncTypes.Unicode.Case

/-!
# Log lines

What a log entry looks like once it is written: it names its level, the service and the
run that it belongs to, the logger that wrote it and, for an error, the exception behind
it.  A threshold is set by the name of a level.
-/

namespace AsyncTypes.Log

/-! ## Thresholds -/

/-- The level with a name, in any spelling of upper and lower case. -/
def Level.ofName? (name : String) : Option Level :=
  List.lookup (String.ofList (Unicode.upperText name.toList))
    [("DEBUG", .debug), ("INFO", .info), ("WARNING", .warning), ("WARN", .warning),
      ("ERROR", .error), ("CRITICAL", .critical), ("FATAL", .critical)]

/-- Every level has its name. -/
@[simp]
theorem Level.ofName?_name (level : Level) : Level.ofName? level.name = some level := by
  cases level <;> decide +kernel

/-- The name of the threshold that leaves the decision to the logger above. -/
def unsetName : String := "NOTSET"

/-- The weight that a name sets as the threshold of a logger.  A name of no level stands
for the level of plain information. -/
def thresholdOf (name : String) : Nat :=
  if String.ofList (Unicode.upperText name.toList) == unsetName then 0
  else ((Level.ofName? name).getD .info).weight

/-- The logger above all others. -/
def rootName : String := "root"

/-- The least weight that a logger lets through.  Without a threshold of its own a logger
has that of the logger above all, which lets warnings through. -/
def effective (logger : String) (threshold : Nat) : Nat :=
  if threshold = 0 && logger != rootName then Level.warning.weight else threshold

/-- The name of the logger for a service: its own name, unless another is given, and that
of the logger above all when both are empty. -/
def loggerName (service : String) (given : Option String) : String :=
  match (given.toList ++ [service]).find? (· != "") with
  | some name => name
  | none => rootName

/-! ## Lines -/

/-- A written log entry. -/
structure Line where
  level : Level
  service : String
  run : String
  logger : String
  message : String
  fault : Option String
deriving DecidableEq, Inhabited

/-- The parts of a line, in order. -/
def Line.fields (line : Line) : List (String × String) :=
  [("level", line.level.name), ("service_name", line.service), ("run_id", line.run),
    ("logger", line.logger), ("message", line.message)] ++
    (line.fault.map fun text => ("exception", text)).toList

/-- The line of an entry. -/
def Entry.line (entry : Entry) (service run : String) : Line :=
  { level := entry.level
    service := service
    run := run
    logger := entry.source.name
    message := entry.text
    fault := none }

end AsyncTypes.Log

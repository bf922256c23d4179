import AsyncTypes.Display.Panel
import AsyncTypes.Failure
import AsyncTypes.Model
import AsyncTypes.TypeScript.Generation

/-!
# Reports

What is shown to the user about a document, a generation or a failure.  Results go to the
output of the program, and warnings and errors to its error stream.
-/

namespace AsyncTypes.Display

/-- Where a line is shown. -/
inductive Stream
  | output
  | errors
deriving DecidableEq, Inhabited

/-- A line on one of the streams. -/
structure Line where
  stream : Stream
  text : String
deriving DecidableEq, Inhabited

/-- Lines of the output. -/
def toOutput (lines : List String) : List Line :=
  lines.map (Line.mk .output)

/-- Lines of the error stream. -/
def toErrors (lines : List String) : List Line :=
  lines.map (Line.mk .errors)

/-- The name of the program. -/
def programName : String := "asyncapi-typegen"

/-- The version of the program. -/
def programVersion : String := "0.1.0"

/-- The name and the version of the program. -/
def version : List Line :=
  toOutput [programName ++ " " ++ programVersion]

/-- Warnings, one after the other. -/
def warnings (terminal : Nat) (texts : List String) : List Line :=
  toErrors (texts.flatMap fun text =>
    (wrap terminal ("Warning: " ++ text)).map String.ofList)

/-- An error. -/
def error (terminal : Nat) (text : String) : List Line :=
  toErrors (panel terminal "Error" text)

/-- A number, set to the right of a column. -/
def countCell (count : Nat) : String :=
  let digits := toString count
  String.ofList (rule (6 - digits.length) ' ') ++ digits

/-- The row of a table of counts. -/
def countRow (label : String) (count : Nat) : String :=
  "│ " ++ label ++ String.ofList (rule (12 - label.length) ' ') ++ " │ " ++ countCell count ++ " │"

/-- The parts of a document and how many there are of each. -/
def countTable (document : Document) : List String :=
  ["┏━━━━━━━━━━━━━━┳━━━━━━━━┓",
    "┃ Section      ┃  Count ┃",
    "┡━━━━━━━━━━━━━━╇━━━━━━━━┩",
    countRow "Channels" document.channels.length,
    countRow "Messages" document.messageNames.length,
    countRow "Schemas" document.schemas.length,
    "└──────────────┴────────┘"]

/-- The identity of a document and a table of its parts. -/
def summary (terminal : Nat) (document : Document) : List Line :=
  toOutput (panel terminal "AsyncAPI Document" (document.title ++ " v" ++ document.version) ++
    countTable document)

/-- A number of bytes in kibibytes. -/
def kibibytes (size : Nat) : Number.Binary64 :=
  .ofQuotient false size 1024

/-- Where declarations were written, how many there are and how large they are. -/
def generation (terminal : Nat) (path : String) (generated : Generated) : List Line :=
  let text := s!"Generated: {path}\nDeclarations: {generated.declarations.length}\nSize: {(kibibytes generated.size).fixedText} KB"
  toOutput (panel terminal "Success" text) ++ warnings terminal generated.warnings

/-- The identity of a valid document. -/
def validity (terminal : Nat) (document : Document) : List Line :=
  let description := match document.description with
    | some text => if text == "" then "" else "\nDescription: " ++ text
    | none => ""
  let text := s!"Title: {document.title}\nVersion: {document.version}{description}"
  toOutput (panel terminal "Valid AsyncAPI document" text)

end AsyncTypes.Display

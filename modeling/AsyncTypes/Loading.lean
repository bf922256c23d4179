import AsyncTypes.Extraction.Document
import AsyncTypes.Files.Tree
import AsyncTypes.Yaml.Meaning

/-!
# Loading documents

A document comes from a file or from a text.  What its source is called decides how it is
read: a `.json` source is JSON, and all others are YAML.  Its root must be a mapping.
-/

namespace AsyncTypes.Loading

/-- The name of a text without a source. -/
def namelessSource : String := "<string>"

/-! ## Texts -/

/-- The stop that a fault of YAML text causes; `refuse` words malformed texts. -/
def stopOf (refuse : Yaml.Level → ParsingCause) : Yaml.Fault → Stop
  | .malformed level => .failure (.parsing (refuse level))
  | .wrongType message => .wrongType message
  | .badValue message => .badValue message
  | .badKey message => .badKey message
  | .badIndex message => .badIndex message
  | .badAttribute message => .badAttribute message
  | .overflow message => .overflow message

/-- The value of a JSON text. -/
def readJson (source text : String) : Except Stop Value :=
  match Json.read text with
  | .ok value => .ok value
  | .error (.malformed problem position) =>
      .error (.failure (.parsing (.malformedJson source text problem position)))
  | .error (.numberTooLong digits) => .error (.badValue (Json.tooLongMessage digits))

/-- The value of a YAML text. -/
def readYaml (refuse : Yaml.Level → ParsingCause) (text : String) : Except Stop Value :=
  (Yaml.read text).mapError (stopOf refuse)

/-- The root of a document, which must be a mapping; `refuse` words all other kinds. -/
def requireMap (refuse : String → ParsingCause) (value : Value) : Except Stop Value :=
  if value.isMap then .ok value else .error (.failure (.parsing (refuse value.kind)))

/-- The mapping that a text from a source holds. -/
def parseText (text source : String) : Except Stop Value := do
  let value ←
    if (Path.ofText source).kind == ".json" then readJson source text
    else readYaml (.malformedYaml source) text
  requireMap (.rootNotMapping source) value

/-- The document that a text from a source holds. -/
def documentOfText (text source : String) (references : Extraction.References) :
    Work Document := do
  let root ← liftExcept (parseText text source)
  Extraction.extract root references
where
  /-- A result without a log. -/
  liftExcept {α : Type} (result : Except Stop α) : Work α :=
    match result with
    | .ok value => return value
    | .error stop => throw stop

/-- The document that a YAML text without a source holds. -/
def documentOfYaml (text : String) (references : Extraction.References) : Work Document := do
  match readYaml (.malformedYaml "AsyncAPI document") text >>= requireMap .documentNotMapping with
  | .ok root => Extraction.extract root references
  | .error stop => throw stop

/-! ## Files -/

/-- A text whose lines all end in a newline alone: a return, with or without a newline
after it, becomes one. -/
def unifyNewlines : List Char → List Char
  | [] => []
  | '\r' :: '\n' :: rest => '\n' :: unifyNewlines rest
  | '\r' :: rest => '\n' :: unifyNewlines rest
  | c :: rest => c :: unifyNewlines rest

/-- No return is left in a text with unified newlines. -/
theorem return_notMem_unifyNewlines (text : List Char) : '\r' ∉ unifyNewlines text := by
  fun_induction unifyNewlines text with
  | case1 => simp
  | case2 rest ih => simpa using ih
  | case3 rest _ ih => simpa using ih
  | case4 c rest _ plain ih =>
      simp only [List.mem_cons, not_or]
      exact ⟨fun same => plain same.symm, ih⟩

/-- The text of a file of limited size.  Messages name the file as it was asked for. -/
def fileText (tree : FileTree) (name : String) (limit : Int) : Work String := do
  let path := Path.ofText name
  match tree.status path with
  | .error .nameTooLong => throw (.system (FileFault.nameTooLong.message path))
  | .error _ => Work.fail (.fileNotFound name)
  | .ok .directory => Work.fail (.notAFile name)
  | .ok (.file content) =>
      if limit < content.size then Work.fail (.fileTooLarge name content.size limit)
      match String.fromUTF8? content with
      | none => Work.fail (.parsing (.notUtf8 name))
      | some text =>
          Work.note .debug .loading s!"Read {content.size} bytes from {path.text}"
          return String.ofList (unifyNewlines text.toList)

/-- The document in a file of limited size. -/
def documentOfFile (tree : FileTree) (name : String) (limit : Int)
    (references : Extraction.References) : Work Document := do
  let text ← fileText tree name limit
  match parseText text name with
  | .error stop => throw stop
  | .ok root =>
      Work.note .info .loading s!"Loaded AsyncAPI document from {name}"
      Extraction.extract root references

end AsyncTypes.Loading

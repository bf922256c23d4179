import AsyncTypes.Validation.Rule

/-!
# The skeleton of a document

Rules for the parts of an AsyncAPI document that are read later.  Everything that is
not read stays open.
-/

namespace AsyncTypes.Validation.Skeleton

/-- A reference with a pointer. -/
def reference : List Rule :=
  [.kinds [.object], .required ["$ref"], .properties [("$ref", [.kinds [.string]])]]

/-- A text that is not empty. -/
def nonEmptyText : List Rule :=
  [.kinds [.string], .nonEmpty]

/-- The identity of a document. -/
def info : List Rule :=
  [.kinds [.object], .required ["title", "version"],
    .properties [
      ("title", nonEmptyText),
      ("version", nonEmptyText),
      ("description", [.kinds [.string]])]]

/-- A mapping of messages. -/
def messages : List Rule :=
  [.kinds [.object], .values [.kinds [.object]]]

/-- One channel. -/
def channel : List Rule :=
  [.kinds [.object],
    .properties [
      ("address", [.kinds [.string, .null]]),
      ("description", [.kinds [.string]]),
      ("messages", messages)]]

/-- One operation. -/
def operation : List Rule :=
  [.kinds [.object], .required ["action"],
    .properties [
      ("action", [.oneOf ["send", "receive"]]),
      ("channel", reference),
      ("description", [.kinds [.string]]),
      ("messages", [.kinds [.array], .items reference])]]

/-- The components. -/
def components : List Rule :=
  [.kinds [.object],
    .properties [("schemas", [.kinds [.object]]), ("messages", messages)]]

/-- A whole document. -/
def document : List Rule :=
  [.kinds [.object], .required ["asyncapi", "info"],
    .properties [
      ("asyncapi", [.kinds [.string]]),
      ("info", info),
      ("channels", [.kinds [.object], .values channel]),
      ("operations", [.kinds [.object], .values operation]),
      ("components", components)]]

/-- The findings of a document against the skeleton. -/
def findings (value : Value) : List Finding :=
  checkAll (fun _ => []) document value

end AsyncTypes.Validation.Skeleton

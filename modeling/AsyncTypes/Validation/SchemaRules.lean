import AsyncTypes.Validation.Rule
import AsyncTypes.Value.Depth

/-!
# Rules for schemas

What a value has to be like to be a JSON schema.  The keywords are checked by
vocabulary (core, applicators, unevaluated locations, assertions, annotations,
format, content) and then the keywords of earlier editions.  Schemas inside a schema
are checked where they are met.
-/

namespace AsyncTypes.Validation.SchemaRules

/-! ## Parts of schemas -/

/-- A text. -/
def text : List Rule := [.kinds [.string]]

/-- A Boolean. -/
def flag : List Rule := [.kinds [.boolean]]

/-- A number. -/
def number : List Rule := [.kinds [.number]]

/-- A number of things. -/
def count : List Rule := [.kinds [.integer], .atLeastZero]

/-- A list. -/
def list : List Rule := [.kinds [.array]]

/-- A schema. -/
def schema : List Rule := [.valid]

/-- A list of schemas, not an empty one. -/
def schemas : List Rule := [.kinds [.array], .nonEmpty, .items schema]

/-- A mapping of schemas. -/
def namedSchemas : List Rule := [.kinds [.object], .values schema]

/-- A list of distinct texts. -/
def texts : List Rule := [.kinds [.array], .items text, .distinct]

/-- A name inside a document. -/
def anchor : List Rule := [.kinds [.string], .matching .identifier]

/-- The name of a type. -/
def typeName : List Rule :=
  [.oneOf ["array", "boolean", "integer", "null", "number", "object", "string"]]

/-- A type name, or a list of distinct ones. -/
def typeNames : List Rule :=
  [.anyOf [typeName, [.kinds [.array], .items typeName, .nonEmpty, .distinct]]]

/-! ## Vocabularies -/

/-- Identity and structure of schemas. -/
def core : List (String × List Rule) :=
  [("$id", [.kinds [.string], .matching .withoutFragment]),
    ("$schema", text),
    ("$ref", text),
    ("$anchor", anchor),
    ("$dynamicRef", text),
    ("$dynamicAnchor", anchor),
    ("$vocabulary", [.kinds [.object], .names text, .values flag]),
    ("$comment", text),
    ("$defs", namedSchemas)]

/-- Schemas applied to parts of a value, or in combination. -/
def applicators : List (String × List Rule) :=
  [("prefixItems", schemas),
    ("items", schema),
    ("contains", schema),
    ("additionalProperties", schema),
    ("properties", namedSchemas),
    ("patternProperties", [.kinds [.object], .values schema, .names [.expression]]),
    ("dependentSchemas", namedSchemas),
    ("propertyNames", schema),
    ("if", schema),
    ("then", schema),
    ("else", schema),
    ("allOf", schemas),
    ("anyOf", schemas),
    ("oneOf", schemas),
    ("not", schema)]

/-- Schemas for parts that no other schema speaks of. -/
def unevaluated : List (String × List Rule) :=
  [("unevaluatedItems", schema), ("unevaluatedProperties", schema)]

/-- Conditions on values. -/
def assertions : List (String × List Rule) :=
  [("type", typeNames),
    ("enum", list),
    ("multipleOf", [.kinds [.number], .aboveZero]),
    ("maximum", number),
    ("exclusiveMaximum", number),
    ("minimum", number),
    ("exclusiveMinimum", number),
    ("maxLength", count),
    ("minLength", count),
    ("pattern", [.kinds [.string], .expression]),
    ("maxItems", count),
    ("minItems", count),
    ("uniqueItems", flag),
    ("maxContains", count),
    ("minContains", count),
    ("maxProperties", count),
    ("minProperties", count),
    ("required", texts),
    ("dependentRequired", [.kinds [.object], .values texts])]

/-- Descriptions of values. -/
def annotations : List (String × List Rule) :=
  [("title", text), ("description", text), ("deprecated", flag), ("readOnly", flag),
    ("writeOnly", flag), ("examples", list)]

/-- The format of texts. -/
def format : List (String × List Rule) :=
  [("format", text)]

/-- The content of texts. -/
def content : List (String × List Rule) :=
  [("contentEncoding", text), ("contentMediaType", text), ("contentSchema", schema)]

/-- Keywords of earlier editions. -/
def earlier : List (String × List Rule) :=
  [("definitions", namedSchemas),
    ("dependencies", [.kinds [.object], .values [.anyOf [schema, texts]]]),
    ("$recursiveAnchor", anchor),
    ("$recursiveRef", text)]

/-- A whole schema. -/
def whole : List Rule :=
  [.kinds [.object, .boolean], .properties core, .properties applicators,
    .properties unevaluated, .properties assertions, .properties annotations,
    .properties format, .properties content, .properties earlier]

/-! ## The check -/

/-- The findings of a value of at most some depth against the rules for schemas. -/
def findingsWithin : Nat → Value → List Finding
  | 0, _ => []
  | budget + 1, value => checkAll (findingsWithin budget) whole value

/-- The findings of a value against the rules for schemas. -/
def findings (value : Value) : List Finding :=
  findingsWithin (value.depth + 1) value

/-- The first finding, which is the one that is reported. -/
def firstFinding? (value : Value) : Option Finding :=
  (findings value).head?

end AsyncTypes.Validation.SchemaRules

import ReplySchema.Validation.Constraint

/-! # The shape of schemas

Not every value is a schema: `type` must name types, `required` must list names once
each, bounds must be numbers.  What a schema must look like is itself a constraint, the
2020-12 meta-schema.  It is grouped by vocabulary, and each vocabulary demands an object
or a boolean.  Wherever a schema stands inside a schema, the constraint refers to itself.
-/

set_option autoImplicit false

namespace ReplySchema.Validation

namespace SchemaShape

/-- The name by which the whole constraint refers to itself. -/
def self : String := "#"

def schema : Constraint := .reference self

def text : Constraint := .types [.string]

def flag : Constraint := .types [.boolean]

def numeric : Constraint := .types [.number]

def amount : Constraint := .all [.types [.integer], .bound .atLeast (.int 0)]

def names : Constraint := .all [.types [.array], .uniqueItems, .items 0 text]

def schemas : Constraint := .all [.types [.array], .least .items 1, .items 0 schema]

def mapTo (each : Constraint) : Constraint := .all [.types [.object], .additional [] [] each]

/-- A pattern that is known to be well formed, from its text. -/
def pattern (source : String) : Constraint :=
  match Pattern.Script.read? source with
  | some p => .pattern p
  | none => .always

def anchor : Constraint := .all [text, pattern "^[A-Za-z_][-A-Za-z0-9._]*$"]

/-- The name of a type, or a list of different ones. -/
def typeNames : Constraint :=
  let name : Constraint := .enum (TypeName.all.map fun t => .string t.text)
  .anyOf [name, .all [.types [.array], .least .items 1, .uniqueItems, .items 0 name]]

def vocabulary (members : List (String × Constraint)) : Constraint :=
  .all [.types [.boolean, .object], .properties members]

def core : Constraint := vocabulary
  [("$id", .all [text, pattern "^[^#]*#?$"]), ("$schema", text), ("$ref", text),
    ("$anchor", anchor), ("$dynamicRef", text), ("$dynamicAnchor", anchor),
    ("$vocabulary", mapTo flag), ("$comment", text), ("$defs", mapTo schema)]

def applicator : Constraint := vocabulary
  [("prefixItems", schemas), ("items", schema), ("contains", schema),
    ("additionalProperties", schema), ("properties", mapTo schema),
    ("patternProperties", mapTo schema), ("dependentSchemas", mapTo schema),
    ("propertyNames", schema), ("if", schema), ("then", schema), ("else", schema),
    ("allOf", schemas), ("anyOf", schemas), ("oneOf", schemas), ("not", schema)]

def unevaluated : Constraint := vocabulary
  [("unevaluatedItems", schema), ("unevaluatedProperties", schema)]

def validation : Constraint := vocabulary
  [("type", typeNames), ("enum", .types [.array]),
    ("multipleOf", .all [numeric, .bound .above (.int 0)]),
    ("maximum", numeric), ("exclusiveMaximum", numeric), ("minimum", numeric),
    ("exclusiveMinimum", numeric), ("maxLength", amount), ("minLength", amount),
    ("pattern", text), ("maxItems", amount), ("minItems", amount), ("uniqueItems", flag),
    ("maxContains", amount), ("minContains", amount), ("maxProperties", amount),
    ("minProperties", amount), ("required", names), ("dependentRequired", mapTo names)]

def metadata : Constraint := vocabulary
  [("title", text), ("description", text), ("deprecated", flag), ("readOnly", flag),
    ("writeOnly", flag), ("examples", .types [.array])]

def formatName : Constraint := vocabulary [("format", text)]

def content : Constraint := vocabulary
  [("contentEncoding", text), ("contentMediaType", text), ("contentSchema", schema)]

/-- The keywords of earlier drafts that are still kept free. -/
def earlier : Constraint := .properties
  [("definitions", mapTo schema), ("dependencies", mapTo (.anyOf [schema, names])),
    ("$recursiveAnchor", anchor), ("$recursiveRef", text)]

def whole : Constraint := .all
  [.types [.boolean, .object], earlier,
    .allOf [core, applicator, unevaluated, validation, metadata, formatName, content]]

end SchemaShape

/-- Fails with the first violation of a value that is not a schema. -/
def checkSchema (v : Json) : Except Violation Unit :=
  checkNamed false [(SchemaShape.self, SchemaShape.whole)] SchemaShape.whole v

end ReplySchema.Validation

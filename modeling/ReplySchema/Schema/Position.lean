import ReplySchema.Json.Pointer

/-! # Schema positions

A JSON value that serves as a schema holds further schemas, but only under certain
keywords; data under keywords such as `const`, `enum`, `default` or `examples` is
never looked at.  A *schema position* is the root or a place that is reached from a
position through one of these keywords.  `positions` lists them with their pointers,
each schema before the schemas inside it and members in their order; everything that
walks over a schema (the index of a document, the check of its references) is a
statement about this list.
-/

set_option autoImplicit false

namespace ReplySchema.Schema

/-- How a keyword holds schemas. -/
inductive Holds where
  /-- Its value is a schema. -/
  | schema
  /-- Its value is an object with a schema for each name. -/
  | named
  /-- Its value is a list of schemas. -/
  | list
  /-- Its value is a schema or a list of schemas. -/
  | either
  /-- Its value holds no schemas. -/
  | data
deriving DecidableEq

def schemaKeywords : List String :=
  ["not", "additionalProperties", "additionalItems", "contains", "propertyNames", "if", "then",
    "else", "unevaluatedProperties", "unevaluatedItems"]

def namedKeywords : List String :=
  ["properties", "patternProperties", "dependentSchemas", "definitions", "$defs"]

def listKeywords : List String := ["allOf", "anyOf", "oneOf", "prefixItems"]

def holds (keyword : String) : Holds :=
  if schemaKeywords.contains keyword then .schema
  else if namedKeywords.contains keyword then .named
  else if listKeywords.contains keyword then .list
  else if keyword = "items" then .either
  else .data

mutual
def positions (pointer : String) : Json → List (String × Json)
  | .object members => (pointer, .object members) :: memberPositions pointer members
  | v => [(pointer, v)]

def memberPositions (pointer : String) : List (String × Json) → List (String × Json)
  | [] => []
  | (key, value) :: rest =>
      let here := Pointer.child pointer key
      (match holds key, value with
        | .schema, v => positions here v
        | .named, .object entries => namedPositions here entries
        | .list, .array items => listPositions here 0 items
        | .either, .array items => listPositions here 0 items
        | .either, v => positions here v
        | _, _ => []) ++ memberPositions pointer rest

def namedPositions (pointer : String) : List (String × Json) → List (String × Json)
  | [] => []
  | (name, value) :: rest =>
      positions (Pointer.child pointer name) value ++ namedPositions pointer rest

/-- The positions inside a list of schemas whose first has the given index. -/
def listPositions (pointer : String) (index : Nat) : List Json → List (String × Json)
  | [] => []
  | value :: rest =>
      positions (Pointer.item pointer index) value ++ listPositions pointer (index + 1) rest
end

def reference? (schema : Json) : Option String := (schema.get? "$ref").bind Json.asString?

end ReplySchema.Schema

import ReplySchema.Schema.Identifier
import ReplySchema.Schema.Position

/-! # Schema documents

A document is a schema with the index that references need: its identifier, its
anchors, and the schemas embedded in it under identifiers of their own.  An anchor is
declared by `$anchor`, or below the root by an `$id` that is nothing but a fragment;
any other `$id` below the root names an embedded schema.  Only schema positions
declare; later declarations of an anchor win.

Shared documents must have an identifier; a schema that stands on a route may have
one.
-/

set_option autoImplicit false

namespace ReplySchema

/-- What can be wrong with shared schemas and references. -/
inductive SchemaError where
  | missingId
  | alreadyPresent (id : String)
  | refNotFound (reference : String) (base : Option String)
  /-- The stack is used up.  The program ends there, with no answer. -/
  | stackUsedUp
deriving DecidableEq

namespace SchemaError

def code : SchemaError → String
  | missingId => "ERR_SCH_MISSING_ID"
  | alreadyPresent _ => "ERR_SCH_ALREADY_PRESENT"
  | refNotFound _ _ => "ERR_SCH_REF_NOT_FOUND"
  | stackUsedUp => ""

def message : SchemaError → String
  | missingId => "Missing schema $id property"
  | alreadyPresent id => "Schema with id '" ++ id ++ "' already declared!"
  | refNotFound reference base =>
      "Failed to resolve $ref '" ++ reference ++ "'" ++
        match base with
        | some b => " from '" ++ b ++ "'"
        | none => ""
  | stackUsedUp => "fatal runtime error: stack overflow"

end SchemaError

namespace Schema

/-- What the positions of a document declare. -/
structure Index where
  /-- Anchor names with the pointers to their schemas. -/
  anchors : Table String String := []
  /-- Identifiers of embedded schemas with the pointers to them, in order of declaration. -/
  embedded : List (String × String) := []

namespace Index

def addAnchor (name pointer : String) (index : Index) : Index :=
  { index with anchors := Table.insert name pointer index.anchors }

/-- Adds what the `$id` of a schema below the root declares. -/
def addId (base : Option String) (pointer : String) (schema : Json) (index : Index) : Index :=
  match (schema.get? "$id").bind Json.asString? with
  | none => index
  | some id =>
      match id.toList with
      | '#' :: [] => index
      | '#' :: name => index.addAnchor (String.ofList name) pointer
      | _ =>
          if Text.allBlank id then index
          else { index with embedded := index.embedded ++ [(Identifier.join base id, pointer)] }

/-- Adds what one position declares; the `$id` of the root names the document itself. -/
def addPosition (base : Option String) (index : Index) (position : String × Json) : Index :=
  let (pointer, schema) := position
  let index := if pointer = "" then index else index.addId base pointer schema
  match (schema.get? "$anchor").bind Json.asString? with
  | some name => index.addAnchor name pointer
  | none => index

def ofSchema (base : Option String) (root : Json) : Index :=
  (positions "" root).foldl (addPosition base) {}

end Index

/-- A schema that references can lead into. -/
structure Document where
  id : Option String
  root : Json
  index : Index

namespace Document

def indexed (id : Option String) (root : Json) : Document :=
  { id, root, index := Index.ofSchema id root }

def sharedId? (root : Json) : Option String := do
  let id := Text.trim (← (root.get? "$id").bind Json.asString?)
  if id.isEmpty || id == "#" then none else some (Identifier.canonical id)

def ofShared? (root : Json) : Except SchemaError Document :=
  match sharedId? root with
  | some id => .ok (indexed (some id) root)
  | none => .error .missingId

/-- The identifier of a schema that stands on a route; a fragment is none. -/
def inlineId? (root : Json) : Option String := do
  let id ← (root.get? "$id").bind Json.asString?
  if Text.allBlank id || id.toList.head? == some '#' then none
  else some (Identifier.canonical id)

def ofInline (root : Json) : Document := indexed (inlineId? root) root

def anchor? (d : Document) (name : String) : Option String := Table.find? name d.index.anchors

/-- The pointer that a fragment means: the root if it is empty, itself if it is a pointer that
leads somewhere, else that of an anchor. -/
def fragmentPointer? (d : Document) (fragment : String) : Option String :=
  if fragment.isEmpty then some ""
  else if fragment.toList.head? = some '/' then (d.root.at? fragment).map fun _ => fragment
  else d.anchor? fragment

def label (d : Document) : String := d.id.getD "<inline>"

end Document

end Schema

end ReplySchema

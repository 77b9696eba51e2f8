import ReplySchema.Schema.Set

/-! # Bundling

The validator wants a schema that stands for itself.  Bundling replaces each reference
by its target, bundled in its turn relative to the target's document, and drops the
keywords that only serve references.  A target that is entered again inside itself, and
anything below thirty-two targets, becomes the permissive schema `{}`, so the result
is finite.

The replacement inside one schema does not know how references are followed: `inline`
takes that as an argument.  `bundleBelow` ties the two together.
-/

set_option autoImplicit false

namespace ReplySchema.Schema

/-- How bundling treats the value of a keyword. -/
inductive Inlining where
  /-- The keyword is dropped. -/
  | drop
  /-- The value maps names to schemas; anything but an object becomes an empty one. -/
  | named
  /-- The value is a list of schemas; anything but a list stays. -/
  | list
  /-- The value is a schema, or a list of schemas. -/
  | either
  /-- The value is a schema. -/
  | schema
  /-- The value stays. -/
  | keep
deriving DecidableEq

def inlining (keyword : String) : Inlining :=
  if ["$id", "$schema", "$anchor", "definitions", "$defs", "$comment"].contains keyword then .drop
  else if ["properties", "patternProperties", "dependentSchemas"].contains keyword then .named
  else if listKeywords.contains keyword then .list
  else if keyword = "items" then .either
  else if schemaKeywords.contains keyword then .schema
  else .keep

/-- Whether bundling has nothing to do at a schema, the schemas inside it aside. -/
def isFinishedAt (schema : Json) : Bool :=
  (reference? schema).isNone && schema.members.all fun (key, value) =>
    decide (inlining key ≠ .drop) && (decide (inlining key ≠ .named) || value.isObject)

def isFinished (schema : Json) : Bool := (positions "" schema).all fun p => isFinishedAt p.2

def permissive : Json := .object []

mutual
/-- Replaces each reference in a schema by what `follow` makes of it. -/
def inline (follow : String → Except SchemaError Json) : Json → Except SchemaError Json
  | .object members =>
      match reference? (.object members) with
      | some r => follow r
      | none => return .object (← inlineMembers follow members)
  | v => pure v

def inlineMembers (follow : String → Except SchemaError Json) :
    List (String × Json) → Except SchemaError (List (String × Json))
  | [] => pure []
  | (key, value) :: rest =>
      match inlining key, value with
      | .drop, _ => inlineMembers follow rest
      | .named, .object entries => do
          let inner ← inlineNamed follow entries
          return (key, .object inner) :: (← inlineMembers follow rest)
      | .named, _ => return (key, .object []) :: (← inlineMembers follow rest)
      | .list, .array items => do
          let inner ← inlineList follow items
          return (key, .array inner) :: (← inlineMembers follow rest)
      | .either, .array items => do
          let inner ← inlineList follow items
          return (key, .array inner) :: (← inlineMembers follow rest)
      | .either, v => do
          let inner ← inline follow v
          return (key, inner) :: (← inlineMembers follow rest)
      | .schema, v => do
          let inner ← inline follow v
          return (key, inner) :: (← inlineMembers follow rest)
      | .list, v => return (key, v) :: (← inlineMembers follow rest)
      | .keep, v => return (key, v) :: (← inlineMembers follow rest)

def inlineNamed (follow : String → Except SchemaError Json) :
    List (String × Json) → Except SchemaError (List (String × Json))
  | [] => pure []
  | (name, value) :: rest => do
      let inner ← inline follow value
      return (name, inner) :: (← inlineNamed follow rest)

def inlineList (follow : String → Except SchemaError Json) :
    List Json → Except SchemaError (List Json)
  | [] => pure []
  | value :: rest => do
      let inner ← inline follow value
      return inner :: (← inlineList follow rest)
end

namespace Set

/-- How many targets may be inlined one inside the other. -/
def bundleDepth : Nat := 32

/-- Bundles a schema of `base`.  `inside` holds the targets that are being inlined, and `room`
says how many more may be. -/
def bundleBelow (set : Set) : Nat → List Key → Source → Json → Except SchemaError Json
  | room, inside, base, schema =>
      inline (fun r => do
        let t ← set.resolve r base
        if t.key ∈ inside then pure permissive
        else
          match room with
          | 0 => pure permissive
          | room + 1 => bundleBelow set room (t.key :: inside) t.source t.schema) schema

def bundleSchema (set : Set) (base : Source) (schema : Json) : Except SchemaError Json :=
  set.bundleBelow bundleDepth [] base schema

def bundle (set : Set) (base : Source) : Except SchemaError Json := set.bundleSchema base base.root

end Set

end ReplySchema.Schema

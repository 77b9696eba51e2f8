import ReplySchema.Schema.Bundle
import ReplySchema.Serializer.Outline

/-! # Sketches of schemas

The sketch of a schema is made from the inside out: the schemas under its keywords are
sketched, its own keywords make its outline, and the parts of `allOf` are laid over
that.  A part may list parts of its own.  They come in layer by layer: the first part
that has any hands them on when its own layer is done, and `nullable` and `const` are
looked at before each layer.

The parts of an `allOf` are bundled before they are laid over, because their references
are to be followed from where they stand, and the parts that they list are bundled again
when their turn comes.  As a rule there is nothing left to do then, and such parts are
taken as they are.  But items that refer to a list are replaced by the list as it stands,
with references and parts of its own.  Bundling these can bring the same list in again,
and then there is no end to it: the program goes on until its stack is used up.
-/

set_option autoImplicit false

namespace ReplySchema.Serializer

open Schema (reference? Holds)

/-- An outline with the parts that are to be laid over it. -/
inductive Layered where
  | plain (own : Outline)
  /-- `allOf` is there but lists nothing. -/
  | blocked (own : Outline)
  /-- The parts could not be had. -/
  | failed (own : Outline) (error : SchemaError)
  | composed (own : Outline) (parts : List Layered)

namespace Layered

/-- What the schema says without the parts. -/
def own : Layered → Outline
  | plain o => o
  | blocked o => o
  | failed o _ => o
  | composed o _ => o

mutual
def layers : Layered → List (Except SchemaError (List Outline))
  | plain _ => []
  | blocked _ => []
  | failed _ e => [.error e]
  | composed _ parts => .ok (parts.map own) :: layersOfFirst parts

def layersOfFirst : List Layered → List (Except SchemaError (List Outline))
  | [] => []
  | plain _ :: rest => layersOfFirst rest
  | l :: _ => layers l
end

/-- Lays the layers over an outline and takes the shape of the whole. -/
def shapeOver (o : Outline) : List (Except SchemaError (List Outline)) → Sketch
  | [] => o.guarded Outline.shape
  | .error e :: _ => o.guarded fun _ => .reference (.error e)
  | .ok parts :: rest => o.guarded fun o => shapeOver (parts.foldl Outline.merge o) rest

def shape (l : Layered) : Sketch := shapeOver l.own l.layers

end Layered

namespace Sketch

/-- How the sketch looks at the value of a keyword; `allOf` is not among them. -/
def holds (keyword : String) : Holds :=
  if ["additionalProperties", "additionalItems"].contains keyword then .schema
  else if ["properties", "patternProperties"].contains keyword then .named
  else if ["anyOf", "oneOf", "prefixItems"].contains keyword then .list
  else if keyword = "items" then .either
  else .data

section
-- How listed parts are made ready; nothing if they are so already.
variable (ready : Option (List Json → Except SchemaError (List Layered)))

mutual
def sketch : Json → Sketch
  | .object members =>
      match reference? (.object members) with
      | some r => .reference (.ok r)
      | none => (withParts (.ofMembers (inners members)) members).shape
  | _ => .any

/-- The outline and parts of a schema that is an object. -/
def layered? : Json → Option Layered
  | .object members => some (withParts (.ofMembers (inners members)) members)
  | _ => none

/-- Adds the parts that stand among the members to an outline. -/
def withParts (o : Outline) : List (String × Json) → Layered
  | [] => .plain o
  | (key, value) :: rest =>
      if key = "allOf" then
        match value with
        | .array parts =>
            match ready with
            | some make =>
                match make parts with
                | .ok layers => .composed o layers
                | .error e => .failed o e
            | none => .composed o (layeredList parts)
        | _ => .blocked o
      else withParts o rest

/-- The outlines of parts; a part that is no object adds nothing. -/
def layeredList : List Json → List Layered
  | [] => []
  | part :: rest => (layered? part).toList ++ layeredList rest

def inners : List (String × Json) → List (String × Outline.Inner)
  | [] => []
  | (key, value) :: rest =>
      (key, match holds key, value with
        | .schema, v => .schema v (sketch v)
        | .named, .object entries => .named (namedInners entries)
        | .list, .array items => .list (listInners items)
        | .either, .array items => .list (listInners items)
        | .either, v => .schema v (sketch v)
        | _, v => .data v) :: inners rest

def namedInners : List (String × Json) → List (String × Json × Sketch)
  | [] => []
  | (name, value) :: rest => (name, value, sketch value) :: namedInners rest

def listInners : List Json → List (Json × Sketch)
  | [] => []
  | value :: rest => (value, sketch value) :: listInners rest
end

end

/-- Bundles parts and takes their outlines.  If bundling has more to do inside them, then the
parts that stand there are bundled too; `room` of these may be made ready one inside the other. -/
def bundled (bundle : Json → Except SchemaError Json) :
    Nat → List Json → Except SchemaError (List Layered)
  | room, parts => do
      let parts ← parts.mapM bundle
      if parts.all Schema.isFinished then return layeredList none parts
      else
        match room with
        | 0 => throw .stackUsedUp
        | room + 1 => return layeredList (some (bundled bundle room)) parts

/-- How many parts inside one another the stack holds. -/
def stackRoom : Nat := 10000

/-- The sketch of a schema, if so many parts may be made ready one inside the other. -/
def ofSchemaWithin (room : Nat) (set : Schema.Set) (base : Schema.Source) (schema : Json) : Sketch :=
  sketch (some (bundled (set.bundleSchema base) room)) schema

def ofSchema (set : Schema.Set) (base : Schema.Source) (schema : Json) : Sketch :=
  sketch (some (bundled (set.bundleSchema base) stackRoom)) schema

end Sketch

end ReplySchema.Serializer

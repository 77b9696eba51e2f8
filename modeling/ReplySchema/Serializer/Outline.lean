import ReplySchema.Schema.Document
import ReplySchema.Serializer.Shape
import ReplySchema.Pattern.Size

/-! # Outlines

An outline is what one schema object says about how values are written, keyword by
keyword, with the schemas inside it already sketched.  Each keyword is absent, or there
with a value that is of no use, or given.  The difference between the first two counts:
a keyword that is there keeps out the same keyword of another schema, and can be a hint
at the type.

The parts of `allOf` are put on top of the schema that lists them.  The first to use a
keyword wins, but declared members, patterns and required names add up.
-/

set_option autoImplicit false

namespace ReplySchema.Serializer

/-- What a schema says by itself, references still to be followed; a reference is an error
where the parts of `allOf` could not be had. -/
abbrev Sketch := Shape (Except SchemaError String) Json

/-- The value of a keyword. -/
inductive Facet (α : Type) where
  | absent
  | unusable
  | given (value : α)

namespace Facet

variable {α : Type}

def isPresent : Facet α → Bool
  | absent => false
  | _ => true

def orElse : Facet α → Facet α → Facet α
  | absent, other => other
  | own, _ => own

/-- The first that is there, or both joined if both are given. -/
def join (add : α → α → α) : Facet α → Facet α → Facet α
  | absent, other => other
  | given a, given b => given (add a b)
  | own, _ => own

def value? : Facet α → Option α
  | given a => some a
  | _ => none

def ofOption : Option α → Facet α
  | some a => given a
  | none => unusable

end Facet

/-- The value of `type`. -/
inductive Kinds where
  | one (name : String)
  | several (names : List String)

inductive ItemShapes where
  | each (shape : Sketch)
  | listed (shapes : List Sketch)

/-- What one schema object says. -/
structure Outline where
  nullable : Facet Unit := .absent
  const : Facet Json := .absent
  anyOf : Facet (List (Branch Json Sketch)) := .absent
  oneOf : Facet (List (Branch Json Sketch)) := .absent
  type : Facet Kinds := .absent
  properties : Facet (List (Property Sketch)) := .absent
  required : Facet (List Json) := .absent
  patternProperties : Facet (List (String × Sketch)) := .absent
  additionalProperties : Facet (Others Sketch) := .absent
  prefixItems : Facet (List Sketch) := .absent
  items : Facet ItemShapes := .absent
  additionalItems : Facet Sketch := .absent

namespace Outline

/-! ## §1  Joining -/

def addProperties (own more : List (Property Sketch)) : List (Property Sketch) :=
  more.foldl (fun acc p => if acc.any fun q => q.name == p.name then acc else acc ++ [p]) own

def addPatterns (own more : List (String × Sketch)) : List (String × Sketch) :=
  more.foldl (fun acc p => if Table.contains p.1 acc then acc else acc ++ [p]) own

def addRequired (own more : List Json) : List Json :=
  more.foldl (fun acc x => if acc.any fun y => y.same x then acc else acc ++ [x]) own

/-- Puts a part of `allOf` on top of an outline. -/
def merge (own part : Outline) : Outline where
  nullable := own.nullable.orElse part.nullable
  const := own.const.orElse part.const
  anyOf := own.anyOf.orElse part.anyOf
  oneOf := own.oneOf.orElse part.oneOf
  type := own.type.orElse part.type
  properties := own.properties.join addProperties part.properties
  required := own.required.join addRequired part.required
  patternProperties := own.patternProperties.join addPatterns part.patternProperties
  additionalProperties := own.additionalProperties.orElse part.additionalProperties
  prefixItems := own.prefixItems.orElse part.prefixItems
  items := own.items.orElse part.items
  additionalItems := own.additionalItems.orElse part.additionalItems

/-! ## §2  Shapes of outlines -/

def requiredNames (o : Outline) : List String :=
  (o.required.value?.getD []).filterMap Json.asString?

def objectShape (o : Outline) : Sketch :=
  .object (o.properties.value?.getD []) o.requiredNames
    ((o.patternProperties.value?.getD []).filterMap fun p =>
      (Pattern.read? p.1).map fun pattern => (pattern, p.2))
    (o.additionalProperties.value?.getD .dropped)

/-- The shape of an array: `prefixItems`, or `items` if that is a list, for the front. -/
def arrayShape (o : Outline) : Sketch :=
  match o.items.value? with
  | some (.listed shapes) =>
      .array (o.prefixItems.value?.getD shapes) (o.additionalItems.value?.getD .any)
  | some (.each shape) => .array (o.prefixItems.value?.getD []) shape
  | none => .array (o.prefixItems.value?.getD []) .any

/-- The shape of a named type; an unknown name says nothing. -/
def typedShape (o : Outline) (name : String) : Sketch :=
  match name with
  | "null" => .null
  | "boolean" => .boolean
  | "integer" => .integer
  | "number" => .number
  | "string" => .string
  | "object" => o.objectShape
  | "array" => o.arrayShape
  | _ => .any

/-- The shape that the keywords hint at where no type is named. -/
def hintedShape (o : Outline) : Sketch :=
  if o.properties.isPresent || o.patternProperties.isPresent ||
      o.additionalProperties.isPresent || o.required.isPresent then o.objectShape
  else if o.items.isPresent || o.prefixItems.isPresent then o.arrayShape
  else .any

def kindShape (o : Outline) : Sketch :=
  match o.type with
  | .given (.one name) => o.typedShape name
  | .given (.several [name]) => o.typedShape name
  | .given (.several names) => .union (names.map fun name => ⟨none, o.typedShape name⟩)
  | _ => o.hintedShape

def shape (o : Outline) : Sketch :=
  match o.anyOf, o.oneOf with
  | .given branches, _ => .union branches
  | _, .given branches => .union branches
  | _, _ => o.kindShape

/-- Looks at `nullable` and `const`, which come before everything else. -/
def guarded (o : Outline) (inner : Outline → Sketch) : Sketch :=
  let fixed (o : Outline) : Sketch :=
    match o.const with
    | .given v => .const v
    | _ => inner o
  match o.nullable with
  | .given _ => .nullable (fixed { o with nullable := .absent })
  | _ => fixed o

/-! ## §3  Outlines of members -/

/-- What stands under a keyword, the schemas in it sketched, each with how it was written. -/
inductive Inner where
  | schema (source : Json) (sketch : Sketch)
  | named (entries : List (String × Json × Sketch))
  | list (entries : List (Json × Sketch))
  | data (value : Json)

def Inner.named? : Inner → Option (List (String × Json × Sketch))
  | named entries => some entries
  | _ => none

def Inner.list? : Inner → Option (List (Json × Sketch))
  | list entries => some entries
  | _ => none

def Inner.objectSketch? : Inner → Option Sketch
  | schema source sketch => if source.isObject then some sketch else none
  | _ => none

def kindsOf : Json → Option Kinds
  | .string name => some (.one name)
  | .array names => some (.several (names.filterMap Json.asString?))
  | _ => none

def branchesOf (entries : List (Json × Sketch)) : List (Branch Json Sketch) :=
  entries.map fun e => ⟨some e.1, e.2⟩

def othersOf : Inner → Option (Others Sketch)
  | .schema (.bool true) _ => some .plain
  | inner => inner.objectSketch?.map .shaped

def itemsOf : Inner → Option ItemShapes
  | .list entries => some (.listed (entries.map (·.2)))
  | inner => inner.objectSketch?.map .each

def add (o : Outline) (keyword : String) (inner : Inner) : Outline :=
  match keyword, inner with
  | "nullable", .data v =>
      { o with nullable := match v with
          | .bool true => .given ()
          | _ => .unusable }
  | "const", .data v => { o with const := .given v }
  | "type", .data v => { o with type := .ofOption (kindsOf v) }
  | "required", .data v => { o with required := .ofOption v.asArray? }
  | "anyOf", _ => { o with anyOf := .ofOption (inner.list?.map branchesOf) }
  | "oneOf", _ => { o with oneOf := .ofOption (inner.list?.map branchesOf) }
  | "properties", _ =>
      { o with properties := .ofOption (inner.named?.map fun entries =>
          entries.map fun e => ⟨e.1, e.2.1.get? "default", e.2.2⟩) }
  | "patternProperties", _ =>
      { o with patternProperties := .ofOption (inner.named?.map fun entries =>
          entries.map fun e => (e.1, e.2.2)) }
  | "additionalProperties", _ => { o with additionalProperties := .ofOption (othersOf inner) }
  | "prefixItems", _ =>
      { o with prefixItems := .ofOption (inner.list?.map fun entries => entries.map (·.2)) }
  | "items", _ => { o with items := .ofOption (itemsOf inner) }
  | "additionalItems", _ => { o with additionalItems := .ofOption inner.objectSketch? }
  | _, _ => o

def ofMembers (members : List (String × Inner)) : Outline :=
  members.foldl (fun o m => o.add m.1 m.2) {}

end Outline

end ReplySchema.Serializer

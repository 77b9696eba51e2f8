import ReplySchema.Serializer.Writer

/-! # Writing values straight by a schema

A reference semantics for schemas without `allOf`, `anyOf` and `oneOf`: it walks over the
schema and the value together, reads each keyword when it gets there, and follows every
reference afresh.  Nothing is prepared and nothing is kept.

The identities of the targets since the last schema that is more than a reference are handed
down.  A reference to one of them would go round for ever, and the value is written as it is.
-/

set_option autoImplicit false

namespace ReplySchema.Serializer.Direct

open Schema (Key Source reference?)

/-! ## §1  Keywords -/

def entries (keyword : String) (schema : Json) : List (String × Json) :=
  ((schema.get? keyword).bind Json.asObject?).getD []

def required (schema : Json) : List String :=
  (((schema.get? "required").bind Json.asArray?).getD []).filterMap Json.asString?

/-- The first required name that is neither there nor declared with a default. -/
def missing? (schema : Json) (members : List (String × Json)) : Option String :=
  (required schema).find? fun name =>
    !(Table.contains name members ||
      (entries "properties" schema).any fun e => e.1 == name && (e.2.get? "default").isSome)

def list? (keyword : String) (schema : Json) : Option (List Json) :=
  (schema.get? keyword).bind Json.asArray?

def object? (keyword : String) (schema : Json) : Option Json :=
  (schema.get? keyword).filter (·.isObject)

/-- What `additionalProperties` says of other members: to leave them out, to write them as they are,
or a schema. -/
def additional? (schema : Json) : Option (Option Json) :=
  match schema.get? "additionalProperties" with
  | some (.bool true) => some none
  | _ => (object? "additionalProperties" schema).map some

/-- How a member is written that is not declared. -/
def other? (schema : Json) (name : String) : Option (Option Json) :=
  match (entries "patternProperties" schema).find? fun e =>
      (Pattern.read? e.1).any fun pattern => pattern.isIn name with
  | some e => some (some e.2)
  | none => additional? schema

def front (schema : Json) : List Json :=
  (list? "prefixItems" schema).getD ((list? "items" schema).getD [])

def rest? (schema : Json) : Option Json :=
  match schema.get? "items" with
  | some (.array _) => object? "additionalItems" schema
  | _ => object? "items" schema

/-- Whether a named type has a value; of an unknown one nothing is known. -/
def admits (name : String) (v : Json) : Bool :=
  match Validation.TypeName.read? name with
  | some t => t.admits v
  | none => true

/-- The first of several types that has a value, else the first. -/
def firstAdmitting? (names : List String) (v : Json) : Option String :=
  names.find? (admits · v) <|> names.head?

def hasAny (keywords : List String) (schema : Json) : Bool :=
  keywords.any fun keyword => (schema.get? keyword).isSome

/-- The type that the keywords hint at. -/
def hinted? (schema : Json) : Option String :=
  if hasAny ["properties", "patternProperties", "additionalProperties", "required"] schema then
    some "object"
  else if hasAny ["items", "prefixItems"] schema then some "array"
  else none

/-- The type by which a value is written: the one that is named, one of several, or the one that
the keywords hint at. -/
def type? (schema v : Json) : Option String :=
  match schema.get? "type" with
  | some (.string name) => some name
  | some (.array kinds) => firstAdmitting? (kinds.filterMap Json.asString?) v
  | _ => hinted? schema

/-! ## §2  Values -/

section

variable (rounding : Rounding) (write : Json → Json → Except SerializeError Written)

def writeAny (schema? : Option Json) (v : Json) : Except SerializeError Written :=
  match schema? with
  | some schema => write schema v
  | none => pure (.ofJson v)

/-- The declared members that are there or have a default. -/
def writeProperties (members : List (String × Json)) :
    List (String × Json) → Except SerializeError (List (String × Written))
  | [] => pure []
  | (name, schema) :: rest =>
      match Table.find? name members <|> schema.get? "default" with
      | some v => do
          let written ← write schema v
          return (name, written) :: (← writeProperties members rest)
      | none => writeProperties members rest

def writeOthers (schema : Json) :
    List (String × Json) → Except SerializeError (List (String × Written))
  | [] => pure []
  | (name, v) :: rest =>
      if (entries "properties" schema).any fun e => e.1 == name then writeOthers schema rest
      else
        match other? schema name with
        | none => writeOthers schema rest
        | some inner => do
            let written ← writeAny write inner v
            return (name, written) :: (← writeOthers schema rest)

/-- An object; a value that is none has no members. -/
def writeObject (schema v : Json) : Except SerializeError Written :=
  match missing? schema v.members with
  | some name => throw (.missing name)
  | none => do
      let declared ← writeProperties write v.members (entries "properties" schema)
      let more ← writeOthers write schema v.members
      return .object (declared ++ more)

/-- Items, the first ones each by a schema of its own. -/
def writeItems (rest : Option Json) :
    List Json → List Json → Except SerializeError (List Written)
  | _, [] => pure []
  | [], x :: xs => do
      let written ← writeAny write rest x
      return written :: (← writeItems rest [] xs)
  | schema :: front, x :: xs => do
      let written ← write schema x
      return written :: (← writeItems rest front xs)

/-- A value by a named type; an unknown one says nothing. -/
def writeTyped (schema : Json) (name : String) (v : Json) : Except SerializeError Written :=
  match name with
  | "null" => pure .null
  | "boolean" => pure (.bool (Coercion.truthy v))
  | "integer" =>
      match Coercion.integerChars? rounding v with
      | some digits => pure (.number digits)
      | none => throw (.notInteger v)
  | "number" =>
      match Coercion.numberChars? v with
      | some digits => pure (.number digits)
      | none => throw (.notNumber v)
  | "string" => pure (.string (Plan.stringText v))
  | "object" => writeObject write schema v
  | "array" =>
      match v with
      | .array items => return .array (← writeItems write (rest? schema) (front schema) items)
      | _ => throw (.notArray v)
  | _ => pure (.ofJson v)

def writeAs (schema : Json) (type : Option String) (v : Json) : Except SerializeError Written :=
  match type with
  | some name => writeTyped rounding write schema name v
  | none => pure (.ofJson v)

/-- The value that is fixed, else a value by its type. -/
def writeFixed (schema v : Json) : Except SerializeError Written :=
  match schema.get? "const" with
  | some expected => pure (.ofJson expected)
  | none => writeAs rounding write schema (type? schema v) v

def writeBy (schema v : Json) : Except SerializeError Written :=
  match schema.get? "nullable", v with
  | some (.bool true), .null => pure .null
  | _, _ => writeFixed rounding write schema v

end

/-- **A value by a schema of a document.**  `room` schemas may be entered one inside the other, and
`met` holds the targets since the last schema that is more than a reference. -/
def write (set : Schema.Set) (rounding : Rounding) :
    Nat → List Key → Source → Json → Json → Except SerializeError Written
  | 0, _, _, _, _ => throw .tooDeep
  | room + 1, met, s, schema, v =>
      match reference? schema with
      | some r =>
          match set.resolve r s with
          | .error e => throw (.told e.message)
          | .ok t =>
              if met.contains t.key then pure (.ofJson v)
              else write set rounding room (t.key :: met) t.source t.schema v
      | none => writeBy rounding (write set rounding room [] s) schema v

def serialize (set : Schema.Set) (base : Source) (schema : Json) (rounding : Rounding) (room : Nat)
    (v : Json) : Except SerializeError String :=
  return (← write set rounding room [] base schema v).text

end ReplySchema.Serializer.Direct

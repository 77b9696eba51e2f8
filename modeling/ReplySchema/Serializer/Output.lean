import ReplySchema.Serializer.Writer

/-! # Octets as they are written

A plan does not make a value first and print it afterwards.  It goes down the value and adds
octets to those that it has written: a brace, then each member behind a comma unless it is the
first one, then the other brace.  Two loops write the members of an object, one those that are
declared and one the others, and the comma depends on both.  So a flag goes from the one to the
other, and it falls with the first member that is written, whichever of the two writes it.

Values that no shape describes, and strings, are written by the library of JSON values.
-/

set_option autoImplicit false

namespace ReplySchema.Serializer

/-- A step of writing, which adds octets or fails. -/
abbrev Writing := StateT ByteArray (Except SerializeError)

namespace Writing

def push (mark : Char) : Writing Unit := modify fun out => out.push mark.toUInt8

def extend (text : String) : Writing Unit := modify fun out => out ++ text.toUTF8

/-- Adds a comma, unless what comes is the first. -/
def separate (first : Bool) : Writing Unit := if first then pure () else push ','

def json (v : Json) : Writing Unit := extend (Written.ofJson v).text

def quoted (s : String) : Writing Unit := extend (String.ofList (Written.quoteChars s))

/-- Adds a name with its colon. -/
def name (s : String) : Writing Unit := do
  quoted s
  push ':'

end Writing

/-- The name of a declared member as it stands in front of the value. -/
def Property.key {σ : Type} (p : Property σ) : String :=
  String.ofList (Written.quoteChars p.name) ++ ":"

namespace Plan

open Writing

/-! ## §1  Objects and arrays -/

section
variable {σ : Type} (put : σ → Json → Writing Unit)

/-- Writes a declared member if it is there or has a default.  `first` says whether none was
written before it, and the answer whether none was written yet. -/
def putProperty (members : List (String × Json)) (first : Bool) (p : Property σ) :
    Writing Bool :=
  match Table.find? p.name members <|> p.default with
  | none => return first
  | some v => do
      separate first
      extend p.key
      put p.shape v
      return false

/-- Writes a member that is not declared if it is admitted. -/
def putOther (properties : List (Property σ)) (patterns : List (Pattern × σ)) (others : Others σ)
    (first : Bool) (m : String × Json) : Writing Bool :=
  if properties.any fun p => p.name == m.1 then return first
  else
    match otherShape? patterns others m.1 with
    | none => return first
    | some shape? => do
        separate first
        name m.1
        match shape? with
        | some shape => put shape m.2
        | none => json m.2
        return false

/-- Whether some member that is not declared can be admitted. -/
def admitsOthers (patterns : List (Pattern × σ)) : Others σ → Bool
  | .dropped => !patterns.isEmpty
  | _ => true

/-- Writes the members that are not declared, unless none of them can be admitted. -/
def putOthers (properties : List (Property σ)) (patterns : List (Pattern × σ)) (others : Others σ)
    (members : List (String × Json)) (first : Bool) : Writing Bool :=
  if admitsOthers patterns others then
    members.foldlM (putOther put properties patterns others) first
  else return first

/-- Writes an object; a value that is none has no members. -/
def putObject (properties : List (Property σ)) (required : List String)
    (patterns : List (Pattern × σ)) (others : Others σ) (v : Json) : Writing Unit :=
  match missing? properties required v.members with
  | some name => throw (.missing name)
  | none => do
      push '\x7b'
      let first ← properties.foldlM (putProperty put v.members) true
      let _ ← putOthers put properties patterns others v.members first
      push '\x7d'

/-- Writes an item by the shape of its place, the first items by those at the front. -/
def putItem (front : List σ) (rest : σ) (item : Json × Nat) : Writing Unit := do
  separate (item.2 == 0)
  put (front.getD item.2 rest) item.1

def putArray (front : List σ) (rest : σ) (items : List Json) : Writing Unit := do
  push '['
  items.zipIdx.forM (putItem put front rest)
  push ']'

end

/-! ## §2  Values -/

/-- Writes a value in a shape; `room` shapes may be entered one inside the other. -/
def put (plan : Plan) : Nat → Node → Json → Writing Unit
  | 0, _, _ => throw .tooDeep
  | room + 1, node, v =>
      match node with
      | .any => json v
      | .reference key =>
          match Table.find? key plan.targets with
          | some (some shape) => put plan room shape v
          | _ => json v
      | .const expected => json expected
      | .null => extend "null"
      | .boolean => extend (if Coercion.truthy v then "true" else "false")
      | .integer =>
          match Coercion.integerChars? plan.rounding v with
          | some digits => extend (String.ofList digits)
          | none => throw (.notInteger v)
      | .number =>
          match Coercion.numberChars? v with
          | some digits => extend (String.ofList digits)
          | none => throw (.notNumber v)
      | .string => quoted (stringText v)
      | .object properties required patterns others =>
          putObject (put plan room) properties required patterns others v
      | .array front rest =>
          match v with
          | .array items => putArray (put plan room) front rest items
          | _ => throw (.notArray v)
      | .union branches =>
          match plan.choose? branches v with
          | some shape => put plan room shape v
          | none => json v
      | .nullable inner => if v.isNull then extend "null" else put plan room inner v

def serialize (plan : Plan) (v : Json) : Except SerializeError String := do
  let (_, out) ← (plan.put (SerializeError.greatestDepth + 1) plan.root v).run .empty
  match String.fromUTF8? out with
  | some text => return text
  | none => throw (.told "invalid utf-8 sequence")

end Plan

end ReplySchema.Serializer

import ReplySchema.Serializer.Coercion
import ReplySchema.Serializer.Payload
import ReplySchema.Serializer.Plan

/-! # Writing values by a plan

A plan writes a value as text of the declared form.  Declared members come first, in the
order of the schema, and each once; a missing one is written by its default or left
out.  The other members follow in the order of the value if a pattern or
`additionalProperties` admits them.

Shapes may lead into each other without end, so writing has a bound on its depth.
-/

set_option autoImplicit false

namespace ReplySchema

/-- Why a value cannot be written. -/
inductive SerializeError where
  | missing (name : String)
  | notArray (value : Json)
  | notInteger (value : Json)
  | notNumber (value : Json)
  | tooDeep
  /-- What a serializer from outside says. -/
  | told (message : String)

namespace SerializeError

def greatestDepth : Nat := 256

def message : SerializeError → String
  | missing name => "\"" ++ name ++ "\" is required!"
  | notArray v =>
      "The value \"" ++ Coercion.textOf v ++
        "\" does not match schema definition: expected an array, received " ++ v.typeName ++ "."
  | notInteger v => "The value \"" ++ Coercion.textOf v ++ "\" cannot be converted to an integer."
  | notNumber v => "The value \"" ++ Coercion.textOf v ++ "\" cannot be converted to a number."
  | tooDeep =>
      "Maximum serialization depth of " ++ Decimal.ofNat greatestDepth ++ " exceeded."
  | told message => message

end SerializeError

namespace Serializer.Plan

/-! ## §1  The choice of an alternative -/

/-- Whether the outermost form of a value is that of a shape.  After `room` steps that do not
look at the value the answer is yes. -/
def looksLike (plan : Plan) : Nat → Node → Json → Bool
  | 0, _, _ => true
  | room + 1, node, v =>
      match node with
      | .any => true
      | .reference key =>
          match Table.find? key plan.targets with
          | some (some shape) => looksLike plan room shape v
          | _ => true
      | .const expected => expected.same v
      | .null => v.isNull
      | .boolean => Validation.TypeName.boolean.admits v
      | .integer => Validation.TypeName.integer.admits v
      | .number => Validation.TypeName.number.admits v
      | .string => Validation.TypeName.string.admits v
      | .object _ _ _ _ => v.isObject
      | .array _ _ => Validation.TypeName.array.admits v
      | .union branches => branches.any fun b => looksLike plan room b.shape v
      | .nullable inner => v.isNull || looksLike plan room inner v

/-- How many steps the look at a form may take. -/
def lookDepth : Nat := 17

def accepts (plan : Plan) (branch : Branch Validator Node) (v : Json) : Bool :=
  match branch.test with
  | some validator => validator.accepts v
  | none => plan.looksLike lookDepth branch.shape v

/-- The alternative that a value is written by: the first that takes it, else the first. -/
def choose? (plan : Plan) (branches : List (Branch Validator Node)) (v : Json) : Option Node :=
  ((branches.find? fun b => plan.accepts b v) <|> branches.head?).map (·.shape)

/-! ## §2  Objects and arrays -/

section
-- Parts are written alike whether they are shapes or stand for shapes.
variable {σ : Type}

/-- The first required name that is neither there nor has a default. -/
def missing? (properties : List (Property σ)) (required : List String)
    (members : List (String × Json)) : Option String :=
  required.find? fun name =>
    !(Table.contains name members ||
      properties.any fun p => p.name == name && p.default.isSome)

/-- How a member that is not declared is written: by the shape of the first pattern that it
matches, else as the other members are.  The answer is nothing if it is left out, and no shape
if it is written as it is. -/
def otherShape? (patterns : List (Pattern × σ)) (others : Others σ) (name : String) :
    Option (Option σ) :=
  match patterns.find? fun p => p.1.isIn name with
  | some p => some (some p.2)
  | none =>
      match others with
      | .dropped => none
      | .plain => some none
      | .shaped shape => some (some shape)

variable (write : σ → Json → Except SerializeError Written)

def writeDeclared (members : List (String × Json)) :
    List (Property σ) → Except SerializeError (List (String × Written))
  | [] => pure []
  | p :: rest =>
      match Table.find? p.name members <|> p.default with
      | some v => do
          let written ← write p.shape v
          return (p.name, written) :: (← writeDeclared members rest)
      | none => writeDeclared members rest

/-- The other members that are admitted, in the order of the value. -/
def writeOthers (properties : List (Property σ)) (patterns : List (Pattern × σ))
    (others : Others σ) :
    List (String × Json) → Except SerializeError (List (String × Written))
  | [] => pure []
  | (name, v) :: rest =>
      if properties.any fun p => p.name == name then writeOthers properties patterns others rest
      else
        match otherShape? patterns others name with
        | none => writeOthers properties patterns others rest
        | some shape => do
            let written ← match shape with
              | some s => write s v
              | none => pure (.ofJson v)
            return (name, written) :: (← writeOthers properties patterns others rest)

/-- Writes an object; a value that is none has no members. -/
def writeObject (properties : List (Property σ)) (required : List String)
    (patterns : List (Pattern × σ)) (others : Others σ) (v : Json) :
    Except SerializeError Written :=
  match missing? properties required v.members with
  | some name => throw (.missing name)
  | none => do
      let declared ← writeDeclared write v.members properties
      let more ← writeOthers write properties patterns others v.members
      return .object (declared ++ more)

/-- Writes items: the first ones by the shapes at the front, the others by `rest`. -/
def writeItems (rest : σ) : List σ → List Json → Except SerializeError (List Written)
  | _, [] => pure []
  | [], x :: xs => do
      let written ← write rest x
      return written :: (← writeItems rest [] xs)
  | s :: front, x :: xs => do
      let written ← write s x
      return written :: (← writeItems rest front xs)

end

/-! ## §3  Values -/

/-- The text of a value where a string is declared; null is empty. -/
def stringText : Json → String
  | .null => ""
  | v => Coercion.textOf v

/-- Writes a value in a shape; `room` shapes may be entered one inside the other. -/
def write (plan : Plan) : Nat → Node → Json → Except SerializeError Written
  | 0, _, _ => throw .tooDeep
  | room + 1, node, v =>
      match node with
      | .any => pure (.ofJson v)
      | .reference key =>
          match Table.find? key plan.targets with
          | some (some shape) => write plan room shape v
          | _ => pure (.ofJson v)
      | .const expected => pure (.ofJson expected)
      | .null => pure .null
      | .boolean => pure (.bool (Coercion.truthy v))
      | .integer =>
          match Coercion.integerChars? plan.rounding v with
          | some digits => pure (.number digits)
          | none => throw (.notInteger v)
      | .number =>
          match Coercion.numberChars? v with
          | some digits => pure (.number digits)
          | none => throw (.notNumber v)
      | .string => pure (.string (stringText v))
      | .object properties required patterns others =>
          writeObject (write plan room) properties required patterns others v
      | .array front rest =>
          match v with
          | .array items => return .array (← writeItems (write plan room) rest front items)
          | _ => throw (.notArray v)
      | .union branches =>
          match plan.choose? branches v with
          | some shape => write plan room shape v
          | none => pure (.ofJson v)
      | .nullable inner => if v.isNull then pure .null else write plan room inner v

def written (plan : Plan) (v : Json) : Except SerializeError Written :=
  plan.write (SerializeError.greatestDepth + 1) plan.root v

end Serializer.Plan

end ReplySchema

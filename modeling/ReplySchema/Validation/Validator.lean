import ReplySchema.Validation.Reference
import ReplySchema.Validation.SchemaShape

/-! # Validators

A validator is made from one schema.  Its making first checks the shape of the schema
and then reads it: the schemas inside are read where they stand, and each keyword
becomes a constraint, together with the keywords beside it that it looks at.  The
constraints are put into the order in which keywords are checked, whatever the order
in which they were written.  At last the targets of its references are read, and those
behind them.

A pattern that is none is told as a violation of the format of patterns, by the text of
the pattern, or by the schema for the members that match it.
-/

set_option autoImplicit false

namespace ReplySchema.Validation

-- Powers are those of the core library, whatever else is imported.
attribute [local instance (high)] instPowNat

/-! ## §1  Members -/

/-- What stands under a keyword, the schemas in it read. -/
inductive Part where
  | schema (read : Except Violation Constraint)
  | named (entries : List (String × Except Violation Constraint))
  | list (entries : List (Except Violation Constraint))
  | data

structure Member where
  keyword : String
  value : Json
  part : Part

def keywordOrder : List String :=
  ["type", "const", "enum", "minimum", "maximum", "exclusiveMinimum", "exclusiveMaximum",
    "multipleOf", "minLength", "maxLength", "minItems", "maxItems", "minProperties",
    "maxProperties", "required", "dependentRequired", "pattern", "format", "uniqueItems",
    "properties", "patternProperties", "additionalProperties", "propertyNames", "items",
    "additionalItems", "prefixItems", "contains", "dependencies", "dependentSchemas", "$ref",
    "$dynamicRef", "allOf", "anyOf", "oneOf", "not", "if", "unevaluatedProperties",
    "unevaluatedItems"]

/-- The place of a keyword in the order. -/
def rank (keyword : String) : Nat := keywordOrder.idxOf keyword

def member? (keyword : String) (members : List Member) : Option Member :=
  members.find? fun m => m.keyword == keyword

/-! ## §2  Keywords -/

def typesOf : Json → List TypeName
  | .string s => (TypeName.read? s).toList
  | .array items => TypeName.all.filter fun t => items.any fun x => x.sameSize (.string t.text)
  | _ => []

def greatestAmount : Nat := 2 ^ (64 : Nat) - 1

def amountOf? : Json → Option Nat
  | .number (.int n) => if 0 ≤ n then some n.toNat else none
  | .number (.float x) => if x.isWhole then some (min x.wholePart greatestAmount) else none
  | _ => none

def namesOf (v : Json) : List String := (v.asArray?.getD []).filterMap Json.asString?

/-- Reads a pattern; `told` is what is told if it is none. -/
def patternOf (source : String) (told : Json) : Except Violation Pattern.Script :=
  match Pattern.Script.read? source with
  | some p => .ok p
  | none => .error (.wrongFormat told "regex")

def schemaOf (keyword : String) (members : List Member) :
    Except Violation (Option Constraint) :=
  match (member? keyword members).map Member.part with
  | some (.schema read) => read.map some
  | _ => pure none

def declaredOf (entries : List (String × Except Violation Constraint)) :
    Except Violation (List (String × Constraint)) :=
  entries.mapM fun e => return (e.1, ← e.2)

def entriesOf (keyword : String) (members : List Member) :
    List (String × Except Violation Constraint) :=
  match (member? keyword members).map Member.part with
  | some (.named entries) => entries
  | _ => []

def patternsOf (members : List Member) : Except Violation (List (Pattern.Script × Constraint)) :=
  let written := ((member? "patternProperties" members).map Member.value).getD .null
  (entriesOf "patternProperties" members).mapM fun e =>
    return (← patternOf e.1 ((written.get? e.1).getD .null), ← e.2)

def stands (keyword : String) (members : List Member) : Bool := (member? keyword members).isSome

/-- Whether `additionalProperties` is a value that `p` holds of. -/
def additionalIs (p : Json → Bool) (members : List Member) : Bool :=
  ((member? "additionalProperties" members).map Member.value).any p

def isFalse : Json → Bool
  | .bool b => !b
  | _ => false

/-- Whether `additionalProperties` takes over the keywords beside it. -/
def closesMembers (members : List Member) : Bool :=
  additionalIs (fun v => isFalse v || v.isObject) members

/-- Whether a single required name is left to `additionalProperties`, which checks it last. -/
def leavesRequired (members : List Member) (names : List String) : Bool :=
  names.length == 1 && additionalIs isFalse members && stands "properties" members &&
    !stands "patternProperties" members

/-- Whether a pair of required names is given up: beside `properties` it is, if these are checked
member by member and further members are not excluded. -/
def dropsRequired (members : List Member) (names : List String) : Bool :=
  names.length == 2 && stands "properties" members &&
    (additionalIs Json.isObject members ||
      (!additionalIs isFalse members &&
        fewDeclared < (entriesOf "properties" members).length))

def additionalOf (members : List Member) (value : Json) (rest : Except Violation Constraint) :
    Except Violation Constraint := do
  let patterns ← patternsOf members
  let declared ← declaredOf (entriesOf "properties" members)
  match value with
  | .bool false =>
      if stands "properties" members || stands "patternProperties" members then
        let names := namesOf (((member? "required" members).map Member.value).getD .null)
        return .closed declared patterns (if leavesRequired members names then names else [])
      else return .additional [] [] .never
  | _ => return .additional declared patterns (← rest)

def dataConstraint (members : List Member) (keyword : String) (value : Json) :
    Except Violation (Option Constraint) :=
  match keyword, value with
  | "type", v => pure (some (.types (typesOf v)))
  | "const", v => pure (some (.const v))
  | "enum", .array options => pure (some (.enum options))
  | "minimum", .number n => pure (some (.bound .atLeast n))
  | "maximum", .number n => pure (some (.bound .atMost n))
  | "exclusiveMinimum", .number n => pure (some (.bound .above n))
  | "exclusiveMaximum", .number n => pure (some (.bound .below n))
  | "multipleOf", .number n => pure (some (.multipleOf n))
  | "minLength", v => pure ((amountOf? v).map (.least .characters))
  | "maxLength", v => pure ((amountOf? v).map (.most .characters))
  | "minItems", v => pure ((amountOf? v).map (.least .items))
  | "maxItems", v => pure ((amountOf? v).map (.most .items))
  | "minProperties", v => pure ((amountOf? v).map (.least .properties))
  | "maxProperties", v => pure ((amountOf? v).map (.most .properties))
  | "required", v =>
      if leavesRequired members (namesOf v) || dropsRequired members (namesOf v) then pure none
      else pure (some (.required (namesOf v)))
  | "dependentRequired", .object entries =>
      pure (some (.dependentRequired (entries.map fun e => (e.1, namesOf e.2))))
  | "pattern", .string source =>
      return some (.pattern (← patternOf source (.string source)))
  | "format", .string name => pure (some (.format name))
  | "uniqueItems", .bool true => pure (some .uniqueItems)
  | "$ref", .string reference | "$dynamicRef", .string reference =>
      pure (some (.reference reference))
  | _, _ => pure none

def schemaConstraint (members : List Member) (m : Member)
    (read : Except Violation Constraint) : Except Violation (Option Constraint) :=
  match m.keyword with
  | "additionalProperties" =>
      if closesMembers members then return some (← additionalOf members m.value read)
      -- A schema that admits everything still deals with all members.
      else return some (.additional [] [] .always)
  | "propertyNames" => return some (.propertyNames (← read))
  | "items" =>
      let skip := match (member? "prefixItems" members).map Member.part with
        | some (.list entries) => entries.length
        | _ => 0
      return some (.items skip (← read))
  | "additionalItems" =>
      -- Behind items that are all excluded there is no value left that it could admit.
      if ((member? "items" members).map Member.value).any isFalse then return some .never
      else return none
  | "contains" =>
      let least := ((member? "minContains" members).bind fun n => amountOf? n.value).getD 1
      let most := (member? "maxContains" members).bind fun n => amountOf? n.value
      return some (.contains (← read) least most)
  | "not" => return some (.not m.value (← read))
  | "if" =>
      if stands "then" members || stands "else" members then do
        let c : Constraint := .conditional (← read) ((← schemaOf "then" members).getD .always)
          ((← schemaOf "else" members).getD .always)
        -- A test that is decided beforehand deals with nothing.
        return some (if m.value.isObject then c else .aside c)
      else
        -- A test without consequences still deals with members and items.
        return read.toOption.map fun test => .conditional test .always .always
  | "unevaluatedProperties" => return some (.unevaluatedProperties (← read))
  | "unevaluatedItems" => return some (.unevaluatedItems (← read))
  | _ => pure none

def constraintOf (members : List Member) (m : Member) : Except Violation (Option Constraint) :=
  match m.part with
  | .data => dataConstraint members m.keyword m.value
  | .schema read => schemaConstraint members m read
  | .named entries =>
      match m.keyword with
      | "properties" =>
          if closesMembers members then pure none
          else return some (.properties (← declaredOf entries))
      | "patternProperties" =>
          if closesMembers members then pure none
          else return some (.patternProperties (← patternsOf members))
      | "dependentSchemas" => return some (.dependentSchemas (← declaredOf entries))
      | "dependencies" => return some (.aside (.dependentSchemas (← declaredOf entries)))
      | _ => pure none
  | .list entries =>
      match m.keyword with
      | "prefixItems" => return some (.prefixItems (← entries.mapM id))
      | "allOf" => return some (.allOf (← entries.mapM id))
      | "anyOf" => return some (.anyOf (← entries.mapM id))
      | "oneOf" => return some (.oneOf (← entries.mapM id))
      | _ => pure none

def assemble (members : List Member) : Except Violation Constraint := do
  let parts ← members.mapM fun m => return (rank m.keyword, ← constraintOf members m)
  let sorted := parts.mergeSort fun a b => a.1 ≤ b.1
  return .all (sorted.filterMap (·.2))

/-! ## §3  Schemas -/

def heldBy (keyword : String) : Schema.Holds :=
  if keyword = "dependencies" then .named else Schema.holds keyword

mutual
def read : Json → Except Violation Constraint
  | .bool true => .ok .always
  | .bool false => .ok .never
  | .object members => assemble (readMembers members)
  | v => .error (.wrongType v [.boolean, .object])

def readMembers : List (String × Json) → List Member
  | [] => []
  | (key, value) :: rest =>
      { keyword := key, value,
        part := match heldBy key, value with
          | .schema, v => .schema (read v)
          | .named, .object entries => .named (readNamed entries)
          | .list, .array items => .list (readList items)
          | .either, v => .schema (read v)
          | _, _ => .data } :: readMembers rest

/-- Reads the schemas of names.  A list stands for the schema that requires its names. -/
def readNamed : List (String × Json) → List (String × Except Violation Constraint)
  | [] => []
  | (name, .array names) :: rest =>
      (name, .ok (.required (namesOf (.array names)))) :: readNamed rest
  | (name, value) :: rest => (name, read value) :: readNamed rest

def readList : List Json → List (Except Violation Constraint)
  | [] => []
  | value :: rest => read value :: readList rest
end

/-! ## §4  Targets of references -/

/-- Why a schema makes no validator. -/
inductive SchemaFault where
  | violation (violation : Violation)
  | reference (fault : ReferenceFault)

def SchemaFault.message : SchemaFault → String
  | violation v => v.message
  | reference f => f.message

def readSchema (schema : Json) : Except SchemaFault Constraint :=
  match read schema with
  | .ok c => .ok c
  | .error v => .error (.violation v)

def readTarget (root : Json) (reference : String) : Except SchemaFault Constraint :=
  match Reference.target root reference with
  | .ok schema => readSchema schema
  | .error f => .error (.reference f)

/-- Adds the targets of references to those that were read before, and the targets behind them in
at most so many further rounds. -/
def addTargets (root : Json) : Nat → List String → List (String × Constraint) →
    Except SchemaFault (List (String × Constraint))
  | 0, _, named => pure named
  | rounds + 1, references, named => do
      match (references.filter fun r => !Table.contains r named).eraseDups with
      | [] => pure named
      | missing =>
          let added ← missing.mapM fun r => return (r, ← readTarget root r)
          addTargets root rounds (added.flatMap fun e => e.2.references) (named ++ added)

/-- The targets of all references behind a constraint.  Each round but the last adds a reference,
and each reference stands in the text of the schema. -/
def targetsOf (root : Json) (c : Constraint) : Except SchemaFault (List (String × Constraint)) :=
  addTargets root (root.text.length + 1) c.references []

end Validation

open Validation

/-- A schema that is ready to validate values. -/
structure Validator where
  /-- Whether formats are checked. -/
  formats : Bool
  constraint : Constraint
  /-- The constraints that references lead to. -/
  targets : List (String × Constraint) := []

namespace Validator

def ofSchema (formats : Bool) (schema : Json) : Except SchemaFault Validator := do
  match checkSchema schema with
  | .error v => throw (.violation v)
  | .ok _ =>
      let constraint ← readSchema schema
      return { formats, constraint, targets := ← targetsOf schema constraint }

def validate (v : Validator) (value : Json) : Except Violation Unit :=
  checkNamed v.formats v.targets v.constraint value

def accepts (v : Validator) (value : Json) : Bool := passes (v.validate value)

end Validator

end ReplySchema

import ReplySchema.Schema.Identifier
import ReplySchema.Schema.Position
import ReplySchema.Text.Utf8
import ReplySchema.Validation.Constraint

/-! # References inside one schema

A validator looks at one schema alone.  References that are left in it lead to a place
inside it: its root, the place of a pointer, or the schema that declares a dynamic
anchor.  Everything else leads nowhere, and `ReferenceFault` says why.

Anchors are looked for level by level, from the root inwards; the last declaration of
a name is the one that counts.
-/

set_option autoImplicit false

namespace ReplySchema.Validation

-- Powers are those of the core library, whatever else is imported.
attribute [local instance (high)] instPowNat

/-- Why a reference leads nowhere. -/
inductive ReferenceFault where
  | noPlace (pointer : String)
  /-- A step into an array that is no index. -/
  | noIndex (token pointer : String)
  /-- The octets of the pointer are no text. -/
  | noText (pointer : String)
  | noAnchor (name : String)
  | malformedAnchor (name : String)
  /-- The reference leads out of the schema. -/
  | outside (id : String)
deriving DecidableEq

namespace ReferenceFault

def message : ReferenceFault → String
  | noPlace pointer => "Pointer '" ++ pointer ++ "' does not exist"
  | noIndex token pointer =>
      "Failed to parse array index '" ++ token ++ "' in pointer '" ++ pointer ++ "'"
  | noText pointer =>
      "Invalid percent encoding in pointer '" ++ pointer ++
        "': the decoded bytes do not represent valid UTF-8"
  | noAnchor name => "Anchor '" ++ name ++ "' does not exist"
  | malformedAnchor name => "Anchor '" ++ name ++ "' is invalid"
  | outside id =>
      "Resource '" ++ id ++ "' is not present in a registry and retrieving it failed: " ++
        "Retrieving external resources is not supported once the registry is populated"

end ReferenceFault

namespace Reference

/-! ## §1  Pointers -/

def greatestIndex : Nat := 2 ^ (64 : Nat) - 1

def walk (pointer : String) : List (List Char) → Json → Except ReferenceFault Json
  | [], v => pure v
  | token :: rest, .array items =>
      match Decimal.boundedOf? greatestIndex token with
      | none => throw (.noIndex (String.ofList token) pointer)
      | some i =>
          match items[i]? with
          | some v => walk pointer rest v
          | none => throw (.noPlace pointer)
  | token :: rest, v =>
      match v.get? (String.ofList (Pointer.unescapeChars token)) with
      | some next => walk pointer rest next
      | none => throw (.noPlace pointer)

/-- The place of a pointer that starts with a slash and may have percent signs. -/
def place (root : Json) (pointer : String) : Except ReferenceFault Json :=
  match Text.Utf8.decode? (Uri.decodeChars (pointer.toList.drop 1)) with
  | none => throw (.noText pointer)
  | some text => walk pointer (Text.splitAll '/' text.toList) root

/-! ## §2  Anchors -/

def schemasUnder : String × Json → List Json
  | ("additionalItems", _) => []
  | ("contentSchema", v) => [v]
  | (keyword, value) =>
      match Schema.holds keyword, value with
      | .schema, v => [v]
      | .either, v => [v]
      | .named, .object entries => entries.map (·.2)
      | .list, .array items => items
      | _, _ => []

/-- The schemas on so many levels below some schemas, and these first. -/
def levels : Nat → List Json → List Json
  | 0, level => level
  | n + 1, level => level ++ levels n (level.flatMap fun s => s.members.flatMap schemasUnder)

def anchorOf? (schema : Json) : Option String := (schema.get? "$dynamicAnchor").bind Json.asString?

def anchored (root : Json) (name : String) : Except ReferenceFault Json :=
  match (levels root.depth [root]).reverse.find? fun s => anchorOf? s == some name with
  | some schema => pure schema
  | none => throw (if name.toList.contains '/' then .malformedAnchor name else .noAnchor name)

/-! ## §3  References -/

def ownId : String := "json-schema:///"

/-- The identifier and the fragment of a reference.  A leading mark makes the rest the fragment,
else the last mark separates. -/
def split (reference : String) : String × String :=
  match reference.toList with
  | '#' :: fragment => ("", String.ofList fragment)
  | cs =>
      match Text.cutAt '#' cs.reverse with
      | (fragment, some id) => (String.ofList id.reverse, String.ofList fragment.reverse)
      | (_, none) => (reference, "")

def resolved (id : String) : String :=
  match (Uri.read? ownId).bind (Uri.join? · id) with
  | some u => u.text
  | none => id

def target (root : Json) (reference : String) : Except ReferenceFault Json :=
  let (id, fragment) := split reference
  if resolved id ≠ ownId then throw (.outside (resolved id))
  else if fragment.isEmpty then pure root
  else if fragment.toList.head? = some '/' then place root fragment
  else anchored root fragment

end Reference

mutual
def Constraint.references : Constraint → List String
  | .reference name => [name]
  | .all parts | .prefixItems parts | .allOf parts | .anyOf parts | .oneOf parts =>
      referencesOfAll parts
  | .properties entries | .dependentSchemas entries => referencesOfNamed entries
  | .patternProperties entries => referencesOfPatterns entries
  | .additional declared patterns rest =>
      referencesOfNamed declared ++ referencesOfPatterns patterns ++ rest.references
  | .closed declared patterns _ => referencesOfNamed declared ++ referencesOfPatterns patterns
  | .propertyNames c | .items _ c | .contains c _ _ | .not _ c | .aside c
  | .unevaluatedProperties c | .unevaluatedItems c => c.references
  | .conditional test yes no => test.references ++ yes.references ++ no.references
  | _ => []

def referencesOfAll : List Constraint → List String
  | [] => []
  | c :: rest => c.references ++ referencesOfAll rest

def referencesOfNamed : List (String × Constraint) → List String
  | [] => []
  | (_, c) :: rest => c.references ++ referencesOfNamed rest

def referencesOfPatterns : List (Pattern.Script × Constraint) → List String
  | [] => []
  | (_, c) :: rest => c.references ++ referencesOfPatterns rest
end

end ReplySchema.Validation

import ReplySchema.Digest.Sha256
import ReplySchema.Json.Written
import ReplySchema.Schema.Document

/-! # Schema stores, schema sets and references

A store holds the shared documents that were registered on one scope, in the order of
registration.  Two documents of one identifier do not fit into a store; a
registration that is refused leaves the store as it was.

A schema set is what one scope sees: the stores of the scope and of its ancestors,
merged from the outermost inwards, so that an inner document wins over an outer one of
the same identifier.  It also knows the schemas embedded in those documents.

A reference is resolved from the document that holds it.  Its identifier part is
joined to that document's identifier and looked up, first joined, then as a bare name,
each time among the documents, the embedded schemas and the document itself; its
fragment then leads to a place inside.  A lone fragment that leads nowhere may still be
the whole identifier of a shared document.

Two documents can carry one identifier (a schema on a route may repeat a shared one),
so a target is known by the *origin* of its document, not by its identifier.
-/

set_option autoImplicit false

namespace ReplySchema.Schema

-- Sums are those of the core library, whatever else is imported.
attribute [local instance (high)] Zero.ofOfNat0

/-! ## §1  Stores -/

/-- The shared documents of one scope. -/
structure Store where
  documents : List Document := []

namespace Store

/-- The document of an identifier, which is brought to normal form first. -/
def get? (id : String) (store : Store) : Option Document :=
  store.documents.find? fun d => d.id == some (Identifier.canonical id)

def contains (id : String) (store : Store) : Bool := (store.get? id).isSome

def register (root : Json) (store : Store) : Except SchemaError (Store × Document) := do
  let d ← Document.ofShared? root
  match d.id with
  | none => .error .missingId
  | some id =>
      if store.documents.any fun other => other.id == some id then .error (.alreadyPresent id)
      else .ok ({ documents := store.documents ++ [d] }, d)

def size (store : Store) : Nat := store.documents.length

end Store

/-! ## §2  Sources and targets -/

/-- Where a document stands: on a route, or at a place of a store. -/
inductive Origin where
  | inline
  | shared (store place : Nat)
deriving DecidableEq

/-- A document together with its origin. -/
structure Source where
  origin : Origin
  document : Document

namespace Source

def ofInline (root : Json) : Source := ⟨.inline, .ofInline root⟩

def id (s : Source) : Option String := s.document.id

def root (s : Source) : Json := s.document.root

end Source

/-- What identifies a target: its document's origin and the pointer into it. -/
abbrev Key := Origin × String

instance (key : Key) (keys : List Key) : Decidable (key ∈ keys) := inferInstance

/-- A target that a reference leads to. -/
structure Target where
  source : Source
  pointer : String
  schema : Json
  found : source.root.at? pointer = some schema

def Target.key (t : Target) : Key := (t.source.origin, t.pointer)

/-- The schemas visible from one scope. -/
structure Set where
  documents : Table String Source := []
  embedded : Table String (Source × String) := []
  /-- Grows whenever a schema is registered on the scope or an ancestor. -/
  generation : Nat := 0

namespace Set

/-! ## §3  Merging stores -/

def addSource (set : Set) (s : Source) : Set :=
  let documents := match s.id with
    | some id => Table.insert id s set.documents
    | none => set.documents
  { set with
    documents
    embedded := Table.insertAll
      (s.document.index.embedded.map fun e => (e.1, (s, e.2))) set.embedded }

def sourcesOf (stores : List Store) : List Source :=
  stores.zipIdx.flatMap fun (store, i) =>
    store.documents.zipIdx.map fun (d, place) => ⟨.shared i place, d⟩

/-- Merges stores from the outermost inwards. -/
def ofStores (stores : List Store) (generation : Nat) : Set :=
  (sourcesOf stores).foldl addSource { generation }

def size (set : Set) : Nat := set.documents.length

/-- The document of an identifier, which is brought to normal form first. -/
def document? (id : String) (set : Set) : Option Source :=
  Table.find? (Identifier.canonical id) set.documents

def contains (id : String) (set : Set) : Bool := (set.document? id).isSome

/-! ## §4  Fingerprint -/

def sortedDocuments (set : Set) : List (String × Source) :=
  set.documents.mergeSort fun a b => a.1 ≤ b.1

/-- A digest of identifiers and texts of the documents in the order of the identifiers. -/
def fingerprint (set : Set) : String :=
  Sha256.shortHex (set.sortedDocuments.flatMap fun p =>
    Text.Utf8.encode p.1 ++ Text.Utf8.encode p.2.root.text)

/-! ## §5  References -/

/-- The place that the identifier part of a reference means. -/
def locate? (set : Set) (uri : String) (base : Source) : Option (Source × String) :=
  [Identifier.join base.id uri, Identifier.canonical uri].findSome? fun candidate =>
    (Table.find? candidate set.documents).map (fun s => (s, "")) <|>
      Table.find? candidate set.embedded <|>
      if base.id = some candidate then some (base, "") else none

def targetAt? (s : Source) (pointer : String) : Option Target :=
  match h : s.root.at? pointer with
  | some schema => some ⟨s, pointer, schema, h⟩
  | none => none

def targetOf? (place : Source × String) (fragment : String) : Option Target :=
  let (s, pointer) := place
  if fragment.isEmpty then targetAt? s pointer
  else if fragment.toList.head? = some '/' then targetAt? s (pointer ++ fragment)
  else (s.document.anchor? fragment).bind (targetAt? s)

/-- The target that `reference` means inside `base`, if there is one. -/
def target? (set : Set) (reference : String) (base : Source) : Option Target :=
  let (uri, fragment) := Identifier.split reference
  if uri.isEmpty then
    targetOf? (base, "") fragment <|>
      (Table.find? reference set.documents).bind (targetAt? · "")
  else (set.locate? uri base).bind (targetOf? · fragment)

/-- The target that `reference` means inside `base`. -/
def resolve (set : Set) (reference : String) (base : Source) : Except SchemaError Target :=
  match set.target? reference base with
  | some t => .ok t
  | none => .error (.refNotFound reference base.id)

/-! ## §6  How many targets there can be -/

mutual
/-- The number of string members `$ref` anywhere in a value. -/
def referencesIn : Json → Nat
  | .array items => referencesInItems items
  | .object members => referencesInMembers members
  | _ => 0

def referencesInItems : List Json → Nat
  | [] => 0
  | x :: rest => referencesIn x + referencesInItems rest

/-- The number of references among the members and in their values. -/
def referencesInMembers : List (String × Json) → Nat
  | [] => 0
  | (k, x) :: rest =>
      (if k = "$ref" ∧ x.asString?.isSome then 1 else 0) + referencesIn x +
        referencesInMembers rest
end

/-- All documents that a reference can lead into. -/
def sources (set : Set) (base : Source) : List Source :=
  base :: (set.documents.map (·.2) ++ set.embedded.map (·.2.1))

/-- More than the number of different targets that can be met from `base`, so more than the
number of targets that can be entered one inside the other.  Composing can carry a reference of one
document into another, so each of them may be followed from each of the documents. -/
def targetBound (set : Set) (base : Source) : Nat :=
  (set.sources base).length * ((set.sources base).map fun s => referencesIn s.root).sum + 1

end Set

end ReplySchema.Schema

import ReplySchema.Yaml.Core
import ReplySchema.Yaml.Node

/-! # What a manifest file holds

A manifest is written in JSON or in YAML.  Both are read as a tree, in which a mapping
keeps its entries as they are written: repeated keys stay, and in YAML a key need not be
a text.  What a key may be is decided where the mapping is used: the members of a schema
have texts for keys and the last of them counts, while the parts of a manifest must not
repeat.
-/

set_option autoImplicit false

namespace ReplySchema.Manifest

/-- What a file holds. -/
inductive Tree where
  | null
  | bool (value : Bool)
  | number (value : Number)
  | text (text : String)
  | items (items : List Tree)
  | entries (entries : List (Tree × Tree))
deriving Inhabited

namespace Tree

mutual
def ofJson : Json → Tree
  | .null => null
  | .bool b => bool b
  | .number n => number n
  | .string s => text s
  | .array xs => items (ofJsonItems xs)
  | .object ms => entries (ofJsonMembers ms)

def ofJsonItems : List Json → List Tree
  | [] => []
  | x :: rest => ofJson x :: ofJsonItems rest

def ofJsonMembers : List (String × Json) → List (Tree × Tree)
  | [] => []
  | (key, value) :: rest => (text key, ofJson value) :: ofJsonMembers rest
end

/-- Whether a collection may have a tag: any but one of one's own. -/
def allowsTag (tag : Option String) : Bool := !tag.any Yaml.isLocalTag

mutual
/-- A YAML node as a tree; nothing if it holds an integer that is too wide, or a tag that is
refused. -/
def ofYaml? : Yaml.Node → Option Tree
  | .scalar tag plain s => (Yaml.scalarValue? tag plain s).map ofJson
  | .sequence tag xs => if allowsTag tag then (ofYamlItems? xs).map items else none
  | .mapping tag es => if allowsTag tag then (ofYamlEntries? es).map entries else none

def ofYamlItems? : List Yaml.Node → Option (List Tree)
  | [] => some []
  | x :: rest => do return (← ofYaml? x) :: (← ofYamlItems? rest)

def ofYamlEntries? : List (Yaml.Node × Yaml.Node) → Option (List (Tree × Tree))
  | [] => some []
  | (key, value) :: rest => do
      return (← ofYaml? key, ← ofYaml? value) :: (← ofYamlEntries? rest)
end

/-- The number as it stands in a value; one that JSON cannot write is nothing. -/
def numberValue : Number → Json
  | .float x => if x.isFinite then .number (.float x) else .null
  | n => .number n

mutual
/-- The tree as a value, with repeated members kept; nothing if a key is no text. -/
def verbatim? : Tree → Option Json
  | null => some .null
  | bool b => some (.bool b)
  | number n => some (numberValue n)
  | text s => some (.string s)
  | items xs => (verbatimItems? xs).map Json.array
  | entries es => (verbatimMembers? es).map Json.object

def verbatimItems? : List Tree → Option (List Json)
  | [] => some []
  | x :: rest => do return (← verbatim? x) :: (← verbatimItems? rest)

def verbatimMembers? : List (Tree × Tree) → Option (List (String × Json))
  | [] => some []
  | (text key, value) :: rest => do return (key, ← verbatim? value) :: (← verbatimMembers? rest)
  | _ => none
end

/-- The tree as a value, such as a schema; of repeated members the last counts. -/
def json? (t : Tree) : Option Json := t.verbatim?.map Json.settle

def text? : Tree → Option String
  | text s => some s
  | _ => none

def items? : Tree → Option (List Tree)
  | items xs => some xs
  | _ => none

end Tree

end ReplySchema.Manifest

import ReplySchema.Manifest.Basic
import ReplySchema.Manifest.Tree

/-! # Reading manifests

The parts of a manifest are known by their keys; other keys are passed over, and no part
may repeat.  An entry of a scope below the root may also be a sequence of its parts, or
have the numbers of its parts for keys; the root entry and the routes have names alone.
A part that is there must have the right form, so `routes` is a sequence and not nothing;
only the name and the schemas of a route may be nothing, which is as if they were not
there.
-/

set_option autoImplicit false

namespace ReplySchema

namespace Manifest

/-- The one value of a key; `some none` if there is none, and nothing if there are more. -/
def single? {α : Type} (key : String) (parts : List (String × α)) : Option (Option α) :=
  match parts.filter fun p => p.1 == key with
  | [] => some none
  | [p] => some (some p.2)
  | _ => none

/-- The parts that a mapping names; nothing if one of its keys is refused. -/
def keyed? (partName? : Tree → Option (Option String)) :
    List (Tree × Tree) → Option (List (String × Tree))
  | [] => some []
  | (key, value) :: rest => do
      let name ← partName? key
      let parts ← keyed? partName? rest
      return (name.map fun s => (s, value)).toList ++ parts

def partOr? {α : Type} (default : α) (read : Tree → Option α) : Option Tree → Option α
  | none => some default
  | some t => read t

end Manifest

open Manifest

namespace RouteEntry

/-- The part that a key of a route names; a number names none, and other keys are refused. -/
def partName? : Tree → Option (Option String)
  | .text key => some (some key)
  | .number (.int n) => if 0 ≤ n then some none else none
  | _ => none

def schema? (key : String) (parts : List (String × Tree)) : Option (Option Json) := do
  match ← single? key parts with
  | none => return none
  | some .null => return none
  | some t => return some (← t.json?)

def ofTree? : Tree → Option RouteEntry
  | .entries es => do
      let parts ← keyed? partName? es
      let method ← (← single? "method" parts).bind Tree.text?
      let url ← (← single? "url" parts).bind Tree.text?
      let response ← schema? "response" parts
      let body ← schema? "body" parts
      let querystring ← schema? "querystring" parts
      let params ← schema? "params" parts
      let headers ← schema? "headers" parts
      return { method, url, response, input := { body, querystring, params, headers } }
  | _ => none

end RouteEntry

namespace ScopeEntry

def partNames : List String := ["prefix", "schemas", "routes", "scopes"]

/-- The part that a key of an entry names; a number names the part at its place. -/
def partName? : Tree → Option (Option String)
  | .text key => some (some key)
  | .number (.int n) => if 0 ≤ n then some partNames[n.toNat]? else none
  | _ => none

def parts? : Tree → Option (List (String × Tree))
  | .entries es => keyed? partName? es
  | .items xs => if xs.length ≤ partNames.length then some (partNames.zip xs) else none
  | _ => none

def ofTree? : Nat → Tree → Option ScopeEntry
  | 0, _ => none
  | depth + 1, t => do
      let parts ← parts? t
      let path ← partOr? "" Tree.text? (← single? "prefix" parts)
      let schemas ← partOr? [] (fun t => t.items?.bind fun xs => xs.mapM Tree.json?)
        (← single? "schemas" parts)
      let routes ← partOr? [] (fun t => t.items?.bind fun xs => xs.mapM RouteEntry.ofTree?)
        (← single? "routes" parts)
      let children ← partOr? [] (fun t => t.items?.bind fun xs => xs.mapM (ofTree? depth))
        (← single? "scopes" parts)
      return entry path schemas routes children

end ScopeEntry

namespace Manifest

inductive Format where
  | json
  | yaml
deriving DecidableEq, Repr

def ofParts? (name : Option String) (parts : List (String × Tree)) : Option Manifest := do
  let root ← ScopeEntry.ofTree? Yaml.greatestDepth
    (.entries (parts.map fun p => (.text p.1, p.2)))
  return { name, root }

def splitName {α : Type} (parts : List (String × α)) : List (String × α) × List (String × α) :=
  parts.partition fun p => p.1 == "name"

def ofJson? (text : String) : Option Manifest := do
  let .object members ← Json.readVerbatim? .stepwise Json.maxDepth text | none
  let (names, parts) := splitName members
  let name ← match ← single? "name" names with
    | none => some none
    | some .null => some none
    | some (.string s) => some (some s)
    | some _ => none
  ofParts? name (parts.map fun p => (p.1, Tree.ofJson p.2))

/-- The name that a node means: the text of a scalar, whatever it means otherwise.  A tag
counts only if it is the one of nothing, which must then stand there. -/
def nameOf? : Yaml.Node → Option (Option String)
  | .scalar tag plain s =>
      if !plain then some (some s)
      else
        match tag with
        | none => some (if Yaml.meansNull s then none else some s)
        | some tag =>
            if tag != Yaml.commonTag "null" then some (some s)
            else if Yaml.namesNull s then some none
            else none
  | _ => none

/-- Reads a manifest from YAML.  An empty document is an empty manifest. -/
def ofYaml? (text : String) : Option Manifest := do
  match ← Yaml.read? text with
  | .scalar _ true "" => return {}
  | .mapping _ entries => do
      let keyed ← entries.mapM fun p => p.1.text?.map fun key => (key, p.2)
      let (names, parts) := splitName keyed
      let name ← match ← single? "name" names with
        | none => some none
        | some node => nameOf? node
      ofParts? name (← parts.mapM fun p => (Tree.ofYaml? p.2).map fun t => (p.1, t))
  | _ => none

def read? : Format → String → Option Manifest
  | .json, text => ofJson? text
  | .yaml, text => ofYaml? text

end Manifest

/-- Why a file gives no engine. -/
inductive ManifestError where
  /-- The file is no manifest of its format. -/
  | unreadable (format : Manifest.Format)
  /-- The engine refuses what is declared. -/
  | refused (error : EngineError)

namespace ManifestError

def message : ManifestError → String
  | unreadable .json => "Failed to parse JSON manifest"
  | unreadable .yaml => "Failed to parse YAML manifest"
  | refused _ => "Failed to register manifest declarations"

end ManifestError

end ReplySchema

import ReplySchema.Engine.Basic

/-! # Manifests

A manifest declares the schemas, routes and scopes of an engine in one file.  A *scope
entry* holds schemas, routes and the entries of the scopes below; the manifest itself is
the entry of the root scope, with a name.

Applying an entry registers its schemas first, then its routes, then its children, so a
child sees every schema of its parents.  The path of an entry is the prefix of the scope
that is made for it.  The root scope is there already, so the path of the root entry
has no effect.
-/

set_option autoImplicit false

namespace ReplySchema

/-- A route as a manifest declares it. -/
structure RouteEntry where
  method : String
  url : String
  response : Option Json := none
  input : InputSchemas := {}

namespace RouteEntry

def declaration (r : RouteEntry) : RouteDeclaration where
  method := r.method
  url := r.url
  response := r.response
  input := r.input

def optional (members : List (String × Option Json)) : List (String × Json) :=
  members.filterMap fun m => m.2.map fun v => (m.1, v)

def toJson (r : RouteEntry) : Json :=
  .object <| [("method", .string r.method), ("url", .string r.url)] ++
    optional [("response", r.response), ("body", r.input.body),
      ("querystring", r.input.querystring), ("params", r.input.params),
      ("headers", r.input.headers)]

end RouteEntry

/-- A scope as a manifest declares it. -/
inductive ScopeEntry where
  | entry (path : String) (schemas : List Json) (routes : List RouteEntry)
      (children : List ScopeEntry)

namespace ScopeEntry

def empty : ScopeEntry := entry "" [] [] []

def path : ScopeEntry → String
  | entry path _ _ _ => path

def schemas : ScopeEntry → List Json
  | entry _ schemas _ _ => schemas

def routes : ScopeEntry → List RouteEntry
  | entry _ _ routes _ => routes

/-! ## Applying -/

def applySchemas (scope : ScopeId) : List Json → Engine → Except EngineError Engine
  | [], e => .ok e
  | schema :: rest, e => do applySchemas scope rest (← e.registerSchema scope schema)

def applyRoutes (scope : ScopeId) : List RouteEntry → Engine → Except EngineError Engine
  | [], e => .ok e
  | r :: rest, e => do
      let (e, _) ← e.addRoute scope r.declaration
      applyRoutes scope rest e

mutual
def apply (scope : ScopeId) : ScopeEntry → Engine → Except EngineError Engine
  | entry _ schemas routes children, e => do
      let e ← applySchemas scope schemas e
      let e ← applyRoutes scope routes e
      applyChildren scope children e

/-- Makes a scope for each entry, and registers what the entry declares there. -/
def applyChildren (parent : ScopeId) : List ScopeEntry → Engine → Except EngineError Engine
  | [], e => .ok e
  | entry path schemas routes children :: rest, e => do
      let (e, scope) ← e.childScope parent path
      let e ← apply scope (entry path schemas routes children) e
      applyChildren parent rest e
end

/-! ## Views -/

mutual
/-- How many routes an entry declares, its children included. -/
def routeCount : ScopeEntry → Nat
  | entry _ _ routes children => routes.length + routeCounts children

def routeCounts : List ScopeEntry → Nat
  | [] => 0
  | child :: rest => routeCount child + routeCounts rest
end

mutual
def members : ScopeEntry → List (String × Json)
  | entry path schemas routes children =>
      [("prefix", .string path), ("schemas", .array schemas),
        ("routes", .array (routes.map RouteEntry.toJson)),
        ("scopes", .array (memberLists children))]

def memberLists : List ScopeEntry → List Json
  | [] => []
  | child :: rest => .object (members child) :: memberLists rest
end

end ScopeEntry

/-- What an application declares in a file. -/
structure Manifest where
  name : Option String := none
  root : ScopeEntry := .empty

namespace Manifest

def routeCount (m : Manifest) : Nat := m.root.routeCount

def toJson (m : Manifest) : Json :=
  .object ((m.name.map fun s => ("name", Json.string s)).toList ++ m.root.members)

/-- Registers what the manifest declares in the root scope of an engine. -/
def apply (m : Manifest) (e : Engine) : Except EngineError Engine := m.root.apply .root e

/-- The engine that a manifest declares; it is not ready yet. -/
def toEngine (m : Manifest) (config : EngineConfig) : Except EngineError Engine :=
  m.apply (.ofConfig config)

end Manifest

end ReplySchema

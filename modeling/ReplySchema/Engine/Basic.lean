import ReplySchema.Config.EngineConfig
import ReplySchema.Request.Input
import ReplySchema.Scope.Tree

/-! # Engines

An engine holds the scopes and routes of an application.  First scopes, schemas and
routes are registered; then the engine is made ready, which prepares every route; then
it serves.  A route that is not prepared yet is prepared for each call, so an engine
serves in every state, only slower.

Registering is a function from an engine to an engine or an error; a refusal leaves
nothing behind.  What is bound later takes effect on a ready engine: new schemas reach
the routes that see them, and a new compiler empties the cache.
-/

set_option autoImplicit false

namespace ReplySchema

structure RouteDeclaration where
  method : String
  url : String
  response : Option Json := none
  input : InputSchemas := {}
  compiler : Option Compiler := none

/-- A route that is ready to serve. -/
structure Prepared where
  responses : Response.Declaration
  validators : InputValidators
  /-- The schemas that the route sees, as they were when it was prepared. -/
  schemas : Schema.Set
  version : Version

/-- A route of an engine. -/
structure Route where
  scope : ScopeId
  method : String
  /-- The address, the prefixes of the scopes included. -/
  url : String
  declaration : RouteDeclaration
  prepared : Option Prepared := none

namespace Route

def label (r : Route) : String := r.method ++ " " ++ r.url

def error (r : Route) (fault : BuildFault) : BuildError := ⟨r.method, r.url, fault⟩

end Route

/-- Scopes, routes and what was compiled for them. -/
structure Engine where
  config : EngineConfig := {}
  scopes : ScopeTree := {}
  routes : List Route := []
  cache : Cache Serializer := {}
  ready : Bool := false

namespace Engine

def ofConfig (config : EngineConfig) : Engine := { config, cache := { enabled := config.cache } }

def route (e : Engine) (id : RouteId) : Except EngineError Route :=
  match e.routes[id.index]? with
  | some r => .ok r
  | none => .error (.unknownRoute id)

/-! ## Registering -/

def childScope (e : Engine) (parent : ScopeId) (path : String) :
    Except EngineError (Engine × ScopeId) := do
  let (scopes, id) ← e.scopes.child parent path
  return ({ e with scopes }, id)

/-- Lets a prepared route see the schemas that are visible now, if there are others. -/
def refreshRoute (scopes : ScopeTree) (r : Route) : Route :=
  match r.prepared with
  | none => r
  | some p =>
      if scopes.generation r.scope = p.schemas.generation then r
      else
        let schemas := scopes.schemaSet r.scope
        { r with prepared := some { p with schemas, version := .ofSet schemas } }

def registerSchema (e : Engine) (scope : ScopeId) (root : Json) : Except EngineError Engine := do
  let scopes ← e.scopes.registerSchema scope root
  return { e with
    scopes
    routes := if e.ready then e.routes.map (refreshRoute scopes) else e.routes }

def setCompiler (e : Engine) (scope : ScopeId) (compiler : Compiler) :
    Except EngineError Engine := do
  let scopes ← e.scopes.update scope fun s => { s with compiler := some compiler }
  return { e with scopes, cache := if e.ready then e.cache.clear else e.cache }

def setReplySerializer (e : Engine) (scope : ScopeId) (serializer : ReplySerializer) :
    Except EngineError Engine := do
  let scopes ← e.scopes.update scope fun s => { s with replySerializer := some serializer }
  return { e with scopes }

def setErrorHandler (e : Engine) (scope : ScopeId) (handler : ErrorHandler) :
    Except EngineError Engine := do
  let scopes ← e.scopes.update scope fun s => { s with errorHandler := some handler }
  return { e with scopes }

def addObserver (e : Engine) (scope : ScopeId) (observer : Observer) :
    Except EngineError Engine := do
  let scopes ← e.scopes.update scope fun s => { s with observers := s.observers ++ [observer] }
  return { e with scopes }

def addRoute (e : Engine) (scope : ScopeId) (declaration : RouteDeclaration) :
    Except EngineError (Engine × RouteId) := do
  let above ← e.scopes.get scope
  let method := Text.upper (Text.trim declaration.method)
  let url := Address.join above.address declaration.url
  if e.ready then throw (.routeAfterReady method url)
  else
    let route : Route := { scope, method, url, declaration }
    return ({ e with routes := e.routes ++ [route] }, ⟨e.routes.length⟩)

/-- The first route of a method, in any case, and an address. -/
def findRoute? (e : Engine) (method url : String) : Option RouteId :=
  (e.routes.findIdx? fun r => Text.sameIgnoringCase r.method method && r.url == url).map
    RouteId.mk

def clearCache (e : Engine) : Engine := { e with cache := e.cache.clear }

end Engine

end ReplySchema

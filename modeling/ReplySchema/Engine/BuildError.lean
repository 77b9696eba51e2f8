import ReplySchema.Response.Declaration
import ReplySchema.Schema.Document
import ReplySchema.Serializer.Writer

/-! # Errors of an engine

Scopes and routes are known by the order in which they were made.

What can be wrong with a route when it is made ready, and with a call.  Each error has a
stable code and a text.
-/

set_option autoImplicit false

namespace ReplySchema

structure ScopeId where
  index : Nat
deriving DecidableEq, Repr

def ScopeId.root : ScopeId := ⟨0⟩

def ScopeId.text (id : ScopeId) : String := "scope#" ++ Decimal.ofNat id.index

structure RouteId where
  index : Nat
deriving DecidableEq, Repr

def RouteId.text (id : RouteId) : String := "route#" ++ Decimal.ofNat id.index

/-- What is wrong with a route. -/
inductive BuildFault where
  | invalidSelector (key : String)
  | missingSchema (contentType : String)
  | serialization (status : String) (contentType : Option String) (reason : String)
  | validation (part : String) (reason : String)
  | schema (error : SchemaError)
deriving DecidableEq

/-- What is wrong with a route, and which route it is. -/
structure BuildError where
  method : String
  url : String
  fault : BuildFault
deriving DecidableEq

namespace BuildError

def ofFault (method url : String) : Response.Fault → BuildError
  | .invalidSelector key => ⟨method, url, .invalidSelector key⟩
  | .missingSchema contentType => ⟨method, url, .missingSchema contentType⟩

def code (e : BuildError) : String :=
  match e.fault with
  | .invalidSelector _ => "ERR_SCH_INVALID_STATUS_SELECTOR"
  | .missingSchema _ => "ERR_SCH_CONTENT_MISSING_SCHEMA"
  | .serialization _ _ _ => "ERR_SCH_SERIALIZATION_BUILD"
  | .validation _ _ => "ERR_SCH_VALIDATION_BUILD"
  | .schema error => error.code

def message (e : BuildError) : String :=
  let place := " (" ++ e.method ++ " " ++ e.url ++ ")"
  match e.fault with
  | .invalidSelector key => "Invalid response status selector '" ++ key ++ "'" ++ place
  | .missingSchema contentType =>
      "Schema is missing for the content type '" ++ contentType ++ "'" ++ place
  | .serialization _ _ reason =>
      "Failed building the serialization schema for " ++ e.method ++ ": " ++ e.url ++
        ", due to error " ++ reason
  | .validation part reason =>
      "Failed building the validation schema for " ++ part ++ " of " ++ e.method ++ ": " ++
        e.url ++ ", due to error " ++ reason
  | .schema error => error.message ++ place

end BuildError

/-- Why an engine refuses a call. -/
inductive EngineError where
  | schema (error : SchemaError)
  | build (error : BuildError)
  | routeAfterReady (method url : String)
  | unknownScope (id : ScopeId)
  | unknownRoute (id : RouteId)
  | serialize (error : SerializeError)

namespace EngineError

def code : EngineError → String
  | schema e => e.code
  | build e => e.code
  | routeAfterReady _ _ => "ERR_ROUTE_AFTER_READY"
  | unknownScope _ => "ERR_UNKNOWN_SCOPE"
  | unknownRoute _ => "ERR_UNKNOWN_ROUTE"
  | serialize _ => "ERR_SERIALIZATION"

def message : EngineError → String
  | schema e => e.message
  | build e => e.message
  | routeAfterReady method url =>
      "Cannot add route " ++ method ++ " " ++ url ++ ": the engine is already ready"
  | unknownScope id => "Unknown scope " ++ id.text
  | unknownRoute id => "Unknown route " ++ id.text
  | serialize e => e.message

end EngineError

end ReplySchema

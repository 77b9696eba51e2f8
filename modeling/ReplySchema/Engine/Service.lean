import ReplySchema.Engine.Preparation
import ReplySchema.Reply.Pipeline

/-! # Serving

The calls that serve a route: to serialize a value, to send a reply, to validate a
request, and to do all of it for one request.  A route that is not prepared is prepared
for the call.
-/

set_option autoImplicit false

namespace ReplySchema.Engine

/-- The preparation of a route: the one it has, else a new one for this call. -/
def preparation (e : Engine) (id : RouteId) (r : Route) : Serve EngineError Prepared :=
  match r.prepared with
  | some p => pure p
  | none => (e.prepare id r .kept).mapError .build

def lift {ε α : Type} (result : Except ε α) : Serve ε α := ExceptT.mk (pure result)

/-- The serializer for a status and a declared content type, if a slot applies. -/
def serializerFor (e : Engine) (id : RouteId) (r : Route) (p : Prepared) (status : Nat)
    (contentType : Option String) : Serve BuildError (Option Serializer) :=
  match p.responses.resolve? status contentType e.config.contentFallthrough with
  | none => pure none
  | some slot => some <$> e.artifact id r p.schemas p.version slot

def serializeStep (e : Engine) (id : RouteId) (status : Nat) (contentType : Option String)
    (value : Json) : Serve EngineError Payload := do
  let r ← lift (e.route id)
  let p ← e.preparation id r
  match ← (e.serializerFor id r p status contentType).mapError .build with
  | some serializer => lift ((serializer value).mapError .serialize)
  | none => return (Payload.generic value).2

def pipeline (e : Engine) (id : RouteId) (r : Route) (p : Prepared) : Pipeline where
  method := r.method
  url := r.url
  replySerializer := e.scopes.replySerializer? r.scope
  errorHandler := (e.scopes.errorHandler? r.scope).getD .default
  observers := e.scopes.observers r.scope
  lookup := fun status contentType =>
    (e.serializerFor id r p status contentType).mapError fun error => .told error.message

def sendStep (e : Engine) (id : RouteId) (reply : Reply) : Serve EngineError SentResponse := do
  let r ← lift (e.route id)
  let p ← e.preparation id r
  ExceptT.lift ((e.pipeline id r p).send reply)

def validateStep (e : Engine) (id : RouteId) (request : Request) :
    Serve EngineError (Option HandlerError) := do
  let r ← lift (e.route id)
  let p ← e.preparation id r
  return p.validators.check request

/-- What is sent for a request: the reply of the handler, or the error of a request that does
not fit. -/
def dispatchStep (e : Engine) (id : RouteId) (request : Request) (handler : Request → Reply) :
    Serve EngineError SentResponse := do
  match ← e.validateStep id request with
  | some error => e.sendStep id { body := .error error }
  | none =>
      ExceptT.lift (Serving.note .handled)
      e.sendStep id (handler request)

def answer {α : Type} (e : Engine) (step : Serve EngineError α) : Answer α :=
  let (result, s) := step.run.run { cache := e.cache }
  ⟨result, { e with cache := s.cache }, s.events⟩

def serialize (e : Engine) (id : RouteId) (status : Nat) (contentType : Option String)
    (value : Json) : Answer Payload :=
  e.answer (e.serializeStep id status contentType value)

def send (e : Engine) (id : RouteId) (reply : Reply) : Answer SentResponse :=
  e.answer (e.sendStep id reply)

def validate (e : Engine) (id : RouteId) (request : Request) : Answer (Option HandlerError) :=
  e.answer (e.validateStep id request)

def dispatch (e : Engine) (id : RouteId) (request : Request) (handler : Request → Reply) :
    Answer SentResponse :=
  e.answer (e.dispatchStep id request handler)

end ReplySchema.Engine

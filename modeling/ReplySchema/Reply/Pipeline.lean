import ReplySchema.Engine.Event
import ReplySchema.Reply.Basic

/-! # The way of a reply

A reply becomes what is sent.  A value goes through the serializer of its scope, if
there is one that bypasses the schemas, else through the serializer of the slot that
applies; without a slot it goes out as it is.  An error is shown to the observers,
mapped by the error handler, and its body takes the same way.

Every way ends in something that is sent:

* a serializer that fails makes the reply an error;
* one that fails for an error gives way to a fixed body;
* a payload that cannot be sent gives way to a fixed body.
-/

set_option autoImplicit false

namespace ReplySchema

/-- What the way of a reply depends on. -/
structure Pipeline where
  method : String
  url : String
  replySerializer : Option ReplySerializer
  errorHandler : ErrorHandler
  /-- Told of errors in this order. -/
  observers : List Observer
  /-- The serializer for a status and a declared content type, if a slot applies. -/
  lookup : Nat → Option String → Serve SerializeError (Option Serializer)

namespace Pipeline

def doubleFailureBody (inner first : String) : Json :=
  .object [("statusCode", .nat 500), ("code", .string "ERR_FAILED_ERROR_SERIALIZATION"),
    ("message", .string ("Failed to serialize an error. Error: " ++ inner ++
      ". Original error: " ++ first))]

/-- The body in place of a payload that cannot be sent. -/
def invalidPayloadBody (typeName : String) : Json :=
  .object [("statusCode", .nat 500), ("code", .string "ERR_REP_INVALID_PAYLOAD_TYPE"),
    ("message", .string ("Attempted to send payload of invalid type '" ++ typeName ++
      "'. Expected a string or binary payload."))]

/-- What goes out with a body that depends on no serializer. -/
def fallback (body : Json) (states : List ReplyState) : SentResponse :=
  { status := 500, contentType := MediaType.jsonUtf8, body := .text body.text,
    states := states ++ [.sentFixedFallback] }

/-- What goes out with a payload, if that can be sent; `states` lead to `last`. -/
def finish (status : Nat) (contentType : String) (payload : Payload) (states : List ReplyState)
    (last : ReplyState) : SentResponse :=
  if payload.isSendable then { status, contentType, body := payload, states := states ++ [last] }
  else fallback (invalidPayloadBody payload.typeName) states

def mark (p : Pipeline) (status : Nat) : SerializationMark := ⟨p.method, p.url, status⟩

def errorPayload (p : Pipeline) (status : Nat) (contentType : Option String) (body : Json) :
    Serve SerializeError Payload :=
  match p.replySerializer with
  | some raw => return raw body status
  | none => do
      match ← p.lookup status contentType with
      | some serializer => (liftExcept (serializer body) : Serve SerializeError Payload)
      | none => return (Payload.generic body).2
where
  /-- A result as a step. -/
  liftExcept {α : Type} (result : Except SerializeError α) : Serve SerializeError α :=
    ExceptT.mk (pure result)

def sendError (p : Pipeline) (error : HandlerError) (replyStatus : Nat)
    (contentType : Option String) (states : List ReplyState) : StateM Serving SentResponse := do
  let states := states ++ [.errorSerializing]
  p.observers.forM fun o => Serving.note (.observed o error)
  Serving.note (.errorHandled error replyStatus)
  let reply := p.errorHandler error replyStatus
  match ← (p.errorPayload reply.status contentType reply.body).run with
  | .ok payload =>
      return finish reply.status (contentType.getD MediaType.jsonUtf8) payload states .sentError
  | .error inner =>
      return fallback (doubleFailureBody inner.message error.message)
        (states ++ [.doubleFailure])

def sendValue (p : Pipeline) (status : Nat) (contentType : Option String) (value : Json) :
    StateM Serving SentResponse := do
  let states := [.pending, .resolvingSchema]
  let failed (e : SerializeError) (states : List ReplyState) : StateM Serving SentResponse :=
    p.sendError (.ofSerialize e (some (p.mark status))) status contentType states
  match ← (p.lookup status contentType).run with
  | .error e => failed e states
  | .ok none =>
      let (defaultType, payload) := Payload.generic value
      return finish status (contentType.getD defaultType) payload states .sent
  | .ok (some serializer) =>
      let states := states ++ [.serializing]
      match serializer value with
      | .ok payload =>
          return finish status (contentType.getD MediaType.jsonUtf8) payload states .sent
      | .error e => failed e states

def send (p : Pipeline) (reply : Reply) : StateM Serving SentResponse :=
  match reply.body with
  | .error error => p.sendError error reply.status reply.contentType [.pending]
  | .value value =>
      match p.replySerializer with
      | some raw =>
          return finish reply.status (reply.contentType.getD MediaType.jsonUtf8)
            (raw value reply.status) [.pending] .sentRaw
      | none => p.sendValue reply.status reply.contentType value

end Pipeline

end ReplySchema

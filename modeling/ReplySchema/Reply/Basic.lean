import ReplySchema.Reply.HandlerError
import ReplySchema.Serializer.Payload

/-! # Replies

A handler hands back a value or an error, with a status and, if it likes, a content
type.  What is sent has a status, a content type and a payload, and it knows the states
that the reply went through.
-/

set_option autoImplicit false

namespace ReplySchema

inductive ReplyBody where
  | value (value : Json)
  | error (error : HandlerError)

/-- What a handler hands back. -/
structure Reply where
  status : Nat := 200
  contentType : Option String := none
  body : ReplyBody

/-- The states of a reply on its way out. -/
inductive ReplyState where
  | pending
  /-- Sent by a serializer that knows no schemas. -/
  | sentRaw
  | resolvingSchema
  | serializing
  | sent
  | errorSerializing
  | sentError
  /-- The error could not be serialized either. -/
  | doubleFailure
  /-- Sent with a body that depends on no serializer. -/
  | sentFixedFallback
deriving DecidableEq, Repr

namespace ReplyState

def isTerminal : ReplyState → Bool
  | sentRaw => true
  | sent => true
  | sentError => true
  | sentFixedFallback => true
  | _ => false

end ReplyState

/-- What goes out. -/
structure SentResponse where
  status : Nat
  contentType : String
  body : Payload
  /-- Every state visited, in order. -/
  states : List ReplyState

namespace SentResponse

def outcome (s : SentResponse) : ReplyState := s.states.getLast?.getD .pending

end SentResponse

/-- A serializer that bypasses the schemas of a whole scope. -/
abbrev ReplySerializer := Json → Nat → Payload

end ReplySchema

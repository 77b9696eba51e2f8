import ReplySchema.Cache
import ReplySchema.Reply.HandlerError
import ReplySchema.Serializer.Compiler

/-! # Events

Serving a reply calls what the application has bound: compilers, handlers of errors,
observers.  Each call is an event, in the order of the calls, so that what was called
and with what can be spoken about.  Beside the events, serving changes nothing but the
cache.
-/

set_option autoImplicit false

namespace ReplySchema

/-- Someone who is told of errors, known by a name. -/
structure Observer where
  name : String
deriving DecidableEq, Repr

/-- A call of something that the application has bound. -/
inductive Event where
  | compiled (compiler : Compiler) (context : CompileContext)
  | observed (observer : Observer) (error : HandlerError)
  | errorHandled (error : HandlerError) (replyStatus : Nat)
  /-- The handler of a request. -/
  | handled

/-- What changes while replies are served. -/
structure Serving where
  cache : Cache Serializer
  events : List Event := []

/-- A step of serving that can fail. -/
abbrev Serve (ε : Type) := ExceptT ε (StateM Serving)

namespace Serving

/-- The cache as a part of what changes.  The state as a whole goes first. -/
instance (priority := low) : MonadStateOf (Cache Serializer) (StateM Serving) where
  get := do return (← get).cache
  set cache := modify fun s => { s with cache }
  modifyGet f := modifyGet fun s =>
    let (result, cache) := f s.cache
    (result, { s with cache })

def note (event : Event) : StateM Serving Unit :=
  modify fun s => { s with events := s.events ++ [event] }

end Serving

/-- A failing step with another kind of error. -/
def Serve.mapError {ε ε' α : Type} (f : ε → ε') (step : Serve ε α) : Serve ε' α :=
  ExceptT.mk do
    let result ← step.run
    return result.mapError f

end ReplySchema

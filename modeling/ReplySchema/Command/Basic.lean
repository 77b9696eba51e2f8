import ReplySchema.Config.EngineConfig

/-! # Commands

The program checks a manifest, lists its routes, or renders one reply.  A command comes
with settings, which win over those of the environment.
-/

set_option autoImplicit false

namespace ReplySchema

/-- The reply that is to be rendered. -/
structure RenderRequest where
  method : String := "GET"
  /-- The address of the route, with the prefixes of its scopes. -/
  url : String
  status : Nat := 200
  contentType : Option String := none
  /-- The value of the reply as JSON text. -/
  value : String

/-- What the program is asked to do. -/
inductive Command where
  /-- To tell whether all routes can be made ready. -/
  | check (manifest : String)
  /-- To list the routes. -/
  | routes (manifest : String)
  /-- To show what a route sends for a value. -/
  | render (manifest : String) (request : RenderRequest)

namespace Command

def manifest : Command → String
  | check manifest => manifest
  | routes manifest => manifest
  | render manifest _ => manifest

end Command

structure Invocation where
  logLevel : String
  rounding : Option Rounding := none
  contentFallthrough : Option Response.Fallthrough := none
  command : Command

namespace Invocation

/-- The settings of the engine: those of the command line, else those of the environment. -/
def config (i : Invocation) (environment : Variables) : EngineConfig :=
  let base := EngineConfig.ofVariables environment
  { base with
    rounding := i.rounding.getD base.rounding
    contentFallthrough := i.contentFallthrough.getD base.contentFallthrough }

end Invocation

end ReplySchema

import ReplySchema.Response.Declaration
import ReplySchema.Serializer.Rounding

/-! # Configuration of an engine

Three settings, read from variables.  A variable that is not set or has no known value
leaves the default.
-/

set_option autoImplicit false

namespace ReplySchema

abbrev Variables := String → Option String

structure EngineConfig where
  /-- Whether compiled serializers are kept. -/
  cache : Bool := true
  rounding : Rounding := .trunc
  contentFallthrough : Response.Fallthrough := .stop
deriving DecidableEq, Repr

namespace EngineConfig

def switch? (given : String) : Option Bool :=
  let name := OptionError.normalized given
  if ["on", "true", "1", "yes"].contains name then some true
  else if ["off", "false", "0", "no"].contains name then some false
  else none

def ofVariables (lookup : Variables) : EngineConfig where
  cache := ((lookup "BRRTS_SERIALIZER_CACHE").bind switch?).getD true
  rounding := ((lookup "BRRTS_INTEGER_ROUNDING").bind fun s => (Rounding.read s).toOption).getD
    .trunc
  contentFallthrough := ((lookup "BRRTS_CONTENT_FALLTHROUGH").bind fun s =>
    (Response.Fallthrough.read s).toOption).getD .stop

end EngineConfig

end ReplySchema

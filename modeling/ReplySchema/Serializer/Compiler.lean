import ReplySchema.Serializer.Output

/-! # Compilers

A compiler makes a serializer from a schema and what is known about the place where the
schema stands.  The built-in compiler makes a plan; others may be bound to scopes and
routes.
-/

set_option autoImplicit false

namespace ReplySchema

/-- Makes a payload from a value. -/
abbrev Serializer := Json → Except SerializeError Payload

structure CompileContext where
  schema : Json
  method : String
  /-- The address with the prefixes of its scopes. -/
  url : String
  /-- The text of the selector. -/
  status : String
  /-- The declared media type, nothing for a plain schema. -/
  contentType : Option String
  /-- The shared schemas that the route sees. -/
  schemas : Schema.Set
  /-- The schema as a document, from which its references start. -/
  document : Schema.Source

/-- A way of making serializers. -/
inductive Compiler where
  | builtIn (rounding : Rounding)
  | custom (name : Option String) (make : CompileContext → Except String Serializer)

namespace Compiler

def ofPlan (plan : Serializer.Plan) : Serializer := fun v => return .text (← plan.serialize v)

/-- Makes a serializer, or says why there is none. -/
def compile (compiler : Compiler) (context : CompileContext) : Except String Serializer :=
  match compiler with
  | builtIn rounding =>
      match Serializer.Plan.build context.schemas context.document context.schema rounding with
      | .ok plan => .ok (ofPlan plan)
      | .error e => .error e.message
  | custom _ make => make context

end Compiler

end ReplySchema

import ReplySchema.Engine.BuildError
import ReplySchema.Reply.HandlerError

/-! # Requests and their validation

A route may declare a schema for each part of a request: headers, path parameters,
query string and body.  The parts are validated in this order, and the first that fails
is answered with an error of status 400.

Names of headers are kept in small letters.
-/

set_option autoImplicit false

namespace ReplySchema

inductive RequestPart where
  | headers
  | params
  | querystring
  | body
deriving DecidableEq, Repr

namespace RequestPart

def all : List RequestPart := [headers, params, querystring, body]

def name : RequestPart → String
  | headers => "headers"
  | params => "params"
  | querystring => "querystring"
  | body => "body"

end RequestPart

/-- A request as validation sees it. -/
structure Request where
  body : Option Json := none
  querystring : Table String Json := []
  params : Table String Json := []
  headers : Table String Json := []

namespace Request

def withHeader (r : Request) (name : String) (value : Json) : Request :=
  { r with headers := Table.insert (Text.lower name) value r.headers }

/-- The value of a part; a missing body is null. -/
def part (r : Request) : RequestPart → Json
  | .headers => .object r.headers
  | .params => .object r.params
  | .querystring => .object r.querystring
  | .body => r.body.getD .null

end Request

/-- The schemas that a route declares for the parts of its requests. -/
structure InputSchemas where
  body : Option Json := none
  querystring : Option Json := none
  params : Option Json := none
  headers : Option Json := none

namespace InputSchemas

def get? (s : InputSchemas) : RequestPart → Option Json
  | .headers => s.headers
  | .params => s.params
  | .querystring => s.querystring
  | .body => s.body

/-- The parts that have a schema. -/
def parts (s : InputSchemas) : List RequestPart :=
  RequestPart.all.filter fun p => (s.get? p).isSome

end InputSchemas

/-- The validators of a route in the order of validation. -/
abbrev InputValidators := List (RequestPart × Validator)

namespace InputValidators

def ofSchema (set : Schema.Set) (part : RequestPart) (schema : Json) :
    Except BuildFault Validator :=
  match set.bundle (.ofInline schema) with
  | .error e => .error (.schema e)
  | .ok bundled =>
      match Validator.ofSchema true bundled with
      | .ok v => .ok v
      | .error violation => .error (.validation part.name violation.message)

def compile (set : Schema.Set) (method url : String) (schemas : InputSchemas) :
    Except BuildError InputValidators :=
  RequestPart.all.filterMapM fun part =>
    match schemas.get? part with
    | none => .ok none
    | some schema =>
        match ofSchema set part schema with
        | .ok v => .ok (some (part, v))
        | .error fault => .error ⟨method, url, fault⟩

def refusal (part : RequestPart) (violation : Validation.Violation) : HandlerError :=
  { message := part.name ++ " " ++ violation.message
    status := some 400
    code := some "ERR_VALIDATION"
    properties := [("validationContext", .string part.name)] }

def check : InputValidators → Request → Option HandlerError
  | [], _ => none
  | (part, validator) :: rest, request =>
      match validator.validate (request.part part) with
      | .error violation => some (refusal part violation)
      | .ok _ => check rest request

end InputValidators

end ReplySchema

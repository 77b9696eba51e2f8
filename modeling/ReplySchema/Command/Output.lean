import ReplySchema.Command.Basic
import ReplySchema.Engine.Service
import ReplySchema.Manifest.Reader
import ReplySchema.Unicode.Case

/-! # What a command prints

A command reads its manifest, builds the engine and prints a few lines, or says why not.
The content of the file is all that it needs from outside.
-/

set_option autoImplicit false

namespace ReplySchema

/-- Why a command prints nothing. -/
inductive CommandError where
  /-- The file cannot be read as text. -/
  | noFile (path : String)
  /-- The file is no manifest of its format. -/
  | noManifest (path : String)
  /-- The engine refuses what is declared. -/
  | refused (error : EngineError)
  /-- Some routes cannot be made ready. -/
  | notReady (count : Nat)
  | engine (error : EngineError)
  /-- The value to render is not JSON. -/
  | noValue
  | noRoute (method url path : String)

namespace CommandError

def message : CommandError → String
  | noFile path => "Failed to read manifest " ++ path
  | noManifest path => "Invalid manifest " ++ path
  | refused error => (ManifestError.refused error).message
  | notReady count => Decimal.ofNat count ++ " route(s) failed the ready pass"
  | engine error => error.message
  | noValue => "--value must be valid JSON"
  | noRoute method url path =>
      "No route " ++ Unicode.capitalize method ++ " " ++ url ++ " in " ++ path

def cause? : CommandError → Option EngineError
  | refused error => some error
  | engine error => some error
  | _ => none

end CommandError

namespace Manifest.Format

/-- The part of a file name behind its last dot; a name that only begins with a dot has none. -/
def extension? (name : List Char) : Option (List Char) :=
  let stem := name.reverse.dropWhile (· != '.')
  if stem.length ≤ 1 then none else some (name.drop stem.length)

/-- The format of a file: YAML if its name says so, else JSON. -/
def ofPath (path : String) : Format :=
  let name := (path.toList.reverse.takeWhile (· != '/')).reverse
  match (extension? name).map String.ofList with
  | some "yaml" => .yaml
  | some "yml" => .yaml
  | _ => .json

end Manifest.Format

namespace Command

/-- The engine that the content of a file declares; the content is missing if the file cannot
be read. -/
def load (path : String) (content : Option String) (config : EngineConfig) :
    Except CommandError Engine :=
  match content with
  | none => .error (.noFile path)
  | some text =>
      match Manifest.read? (.ofPath path) text with
      | none => .error (.noManifest path)
      | some manifest => (manifest.toEngine config).mapError .refused

def checkOutput (path : String) (e : Engine) : Except CommandError String :=
  let (issues, _) := e.diagnose
  if issues.isEmpty then
    match e.makeReady.result with
    | .error error => .error (.engine error)
    | .ok report =>
        .ok ("✅ " ++ path ++ ": " ++ Decimal.ofNat report.routes ++ " route(s), " ++
          Decimal.ofNat report.serializers ++ " serializer(s), " ++
          Decimal.ofNat report.validators ++ " validator(s)\n")
  else .error (.notReady issues.length)

def methodWidth : Nat := 7

def routeLine (r : Route) : String :=
  r.method ++ String.ofList (List.replicate (methodWidth - r.method.length) ' ') ++ " " ++
    r.url ++ "\n"

/-- The lines of a rendered reply: status and content type, then the body. -/
def renderOutput (path : String) (request : RenderRequest) (value : Json) (e : Engine) :
    Except CommandError String := do
  let ready := e.makeReady
  let _ ← ready.result.mapError CommandError.engine
  match ready.engine.findRoute? request.method request.url with
  | none => throw (.noRoute request.method request.url path)
  | some id =>
      let reply : Reply :=
        { status := request.status, contentType := request.contentType, body := .value value }
      let sent ← (ready.engine.send id reply).result.mapError CommandError.engine
      return Decimal.ofNat sent.status ++ " " ++ sent.contentType ++ "\n" ++
        sent.body.toText ++ "\n"

/-- What a command prints.  The value to render is looked at before the manifest. -/
def output (command : Command) (config : EngineConfig) (content : Option String) :
    Except CommandError String := do
  match command with
  | check path => checkOutput path (← load path content config)
  | routes path =>
      let e ← load path content config
      return Text.joinWith "" (e.routes.map routeLine)
  | render path request =>
      match Json.read? .stepwise request.value with
      | none => throw .noValue
      | some value => renderOutput path request value (← load path content config)

end Command

end ReplySchema

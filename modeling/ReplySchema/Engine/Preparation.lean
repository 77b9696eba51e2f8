import ReplySchema.Engine.Basic
import ReplySchema.Schema.Check

/-! # Preparing routes

To prepare a route is to read its response declaration, to take the schemas that it
sees, to make the validators of its input, and to check and compile the schema of every
slot.  What is compiled goes through the cache, except in a diagnosis, which tries
everything and keeps nothing.
-/

set_option autoImplicit false

namespace ReplySchema.Engine

/-- Whether what is compiled is kept. -/
inductive Keeping where
  | kept
  | discarded
deriving DecidableEq, Repr

/-- What a call leaves behind: its result, the engine after it, and the events on the way. -/
structure Answer (α : Type) where
  result : Except EngineError α
  engine : Engine
  events : List Event

/-- The compiler for a route: its own, else the one in force at its scope, else the built-in. -/
def compilerFor (e : Engine) (r : Route) : Compiler :=
  (r.declaration.compiler <|> e.scopes.compiler? r.scope).getD (.builtIn e.config.rounding)

/-- What a compiler is told about a slot of a route. -/
def contextOf (r : Route) (schemas : Schema.Set) (slot : Response.Slot) : CompileContext where
  schema := slot.schema
  method := r.method
  url := r.url
  status := slot.selector.label
  contentType := slot.mediaType
  schemas := schemas
  document := .ofInline slot.schema

def compileSlot (e : Engine) (r : Route) (schemas : Schema.Set) (slot : Response.Slot) :
    Serve BuildError Serializer := do
  let compiler := e.compilerFor r
  let context := contextOf r schemas slot
  ExceptT.lift (Serving.note (.compiled compiler context))
  match compiler.compile context with
  | .ok serializer => return serializer
  | .error reason =>
      throw (r.error (.serialization slot.selector.label slot.mediaType reason))

/-- What the serializer of a slot is kept under. -/
def artifactKey (id : RouteId) (slot : Response.Slot) : ArtifactKey :=
  ⟨id, slot.selector.label, slot.mediaType⟩

/-- The serializer of a slot, compiled if none is kept. -/
def artifact (e : Engine) (id : RouteId) (r : Route) (schemas : Schema.Set) (version : Version)
    (slot : Response.Slot) : Serve BuildError Serializer :=
  Cache.getOrCompile (artifactKey id slot) version (e.compileSlot r schemas slot)

def prepareSlot (e : Engine) (id : RouteId) (r : Route) (keeping : Keeping) (p : Prepared)
    (slot : Response.Slot) : Serve BuildError Unit := do
  match p.schemas.check (.ofInline slot.schema) with
  | .error fault => throw (r.error (.schema fault))
  | .ok _ =>
      match keeping with
      | .kept => let _ ← e.artifact id r p.schemas p.version slot
      | .discarded => let _ ← e.compileSlot r p.schemas slot

def outfit (e : Engine) (r : Route) : Except BuildError Prepared := do
  let responses ← match r.declaration.response with
    | some declaration =>
        (Response.Declaration.ofJson declaration).mapError (BuildError.ofFault r.method r.url)
    | none => pure {}
  let schemas := e.scopes.schemaSet r.scope
  let validators ← InputValidators.compile schemas r.method r.url r.declaration.input
  return { responses, validators, schemas, version := .ofSet schemas }

def prepare (e : Engine) (id : RouteId) (r : Route) (keeping : Keeping) :
    Serve BuildError Prepared := do
  match e.outfit r with
  | .error error => throw error
  | .ok p =>
      p.responses.slots.forM (e.prepareSlot id r keeping p)
      return p

/-! ## Making ready -/

/-- How much was made ready. -/
structure ReadyReport where
  routes : Nat := 0
  serializers : Nat := 0
  validators : Nat := 0
deriving DecidableEq, Repr

namespace ReadyReport

def add (report : ReadyReport) (p : Prepared) : ReadyReport where
  routes := report.routes + 1
  serializers := report.serializers + p.responses.slots.length
  validators := report.validators + p.validators.length

end ReadyReport

/-- Prepares routes in order, the first of which has the given index, and stops at the first
error.  The routes before it stay prepared. -/
def prepareAll (e : Engine) : Nat → List Route → ReadyReport → Serving →
    Except BuildError ReadyReport × List Route × Serving
  | _, [], report, s => (.ok report, [], s)
  | index, r :: rest, report, s =>
      match ((e.prepare ⟨index⟩ r .kept).run).run s with
      | (.error error, s) => (.error error, r :: rest, s)
      | (.ok p, s) =>
          let (result, routes, s) := prepareAll e (index + 1) rest (report.add p) s
          (result, { r with prepared := some p } :: routes, s)

/-- Prepares all routes.  The engine is ready if that succeeds. -/
def makeReady (e : Engine) : Answer ReadyReport :=
  match e.prepareAll 0 e.routes {} { cache := e.cache } with
  | (.ok report, routes, s) =>
      ⟨.ok report, { e with routes, cache := s.cache, ready := true }, s.events⟩
  | (.error error, routes, s) =>
      ⟨.error (.build error), { e with routes, cache := s.cache }, s.events⟩

/-! ## Diagnosis -/

/-- What is wrong with a route. -/
structure Issue where
  location : String
  code : String
  message : String
deriving DecidableEq, Repr

namespace Issue

def text (i : Issue) : String := "[" ++ i.code ++ "] " ++ i.location ++ ": " ++ i.message

end Issue

def diagnoseRoute (e : Engine) (index : Nat) (r : Route) : StateM Serving (Option Issue) := do
  match ← (e.prepare ⟨index⟩ r .discarded).run with
  | .ok _ => return none
  | .error error => return some ⟨r.label, error.code, error.message⟩

def diagnose (e : Engine) : List Issue × List Event :=
  let (issues, s) := (e.routes.zipIdx.mapM fun p => e.diagnoseRoute p.2 p.1).run
    { cache := e.cache }
  (issues.filterMap id, s.events)

end ReplySchema.Engine

import ReplySchema.Proofs.Engine.InPlace

/-! # Refused registrations

A registration that is refused changes nothing, though it is made in place and undoes nothing: an
engine that has lived from the start is sound (`sound_run`), and on a sound engine every check comes
before the first write.  So whatever is called afterwards is answered as if the refused call had not
been made (`leavesNothing_of_refused`).

Soundness is what this rests on.  With a route that stands in no scope, the refresh behind a
registered schema stops half-way and the schema stays (`not_unchanged_unplaced`).
-/

set_option autoImplicit false

namespace ReplySchema

namespace Engine

variable {e : Engine} {r : Registration} {fault : EngineError}

/-! ## §1  Reasons -/

/-- Why an engine refuses a registration. -/
inductive Refuses (e : Engine) : Registration → EngineError → Prop where
  /-- The scope is not there. -/
  | unknown {r : Registration} {scope : ScopeId} (hr : r.scope? = some scope)
      (hscope : e.scopes.get? scope = none) : Refuses e r (.unknownScope scope)
  /-- The schema has no identifier. -/
  | unnamed {scope : ScopeId} {root : Json}
      (hroot : Schema.Document.ofShared? root = .error .missingId) :
      Refuses e (.registerSchema scope root) (.schema .missingId)
  /-- A schema of the identifier is visible already, or it is in the store. -/
  | taken {scope : ScopeId} {root : Json} {d : Schema.Document} {x : String} {s : Scope}
      (hroot : Schema.Document.ofShared? root = .ok d) (hx : d.id = some x)
      (hscope : e.scopes.get? scope = some s)
      (htaken : (e.scopes.schemaSet scope).contains x = true ∨
        ∃ other ∈ s.schemas.documents, other.id = some x) :
      Refuses e (.registerSchema scope root) (.schema (.alreadyPresent x))
  /-- Routes are not added to an engine that is ready. -/
  | late {scope : ScopeId} {declaration : RouteDeclaration} {above : Scope}
      (hscope : e.scopes.get? scope = some above) (hready : e.ready = true) :
      Refuses e (.addRoute scope declaration) (.routeAfterReady
        (Text.upper (Text.trim declaration.method)) (Address.join above.address declaration.url))

/-- A scope that is looked up in vain is the reason. -/
theorem refuses_of_get {scope : ScopeId} (hr : r.scope? = some scope)
    (h : e.scopes.get scope = .error fault) : e.Refuses r fault := by
  unfold ScopeTree.get at h
  split at h
  · cases h
  · next hnone =>
      obtain rfl := Except.error.inj h
      exact .unknown hr hnone

theorem refuses_of_update {scope : ScopeId} {change : Scope → Scope} {make : ScopeTree → Engine}
    (hr : r.scope? = some scope)
    (h : (do let scopes ← e.scopes.update scope change; return make scopes) =
      (.error fault : Except EngineError Engine)) : e.Refuses r fault := by
  rcases Result.bind_eq_error.mp h with h | ⟨scopes, -, h⟩
  · rcases Result.bind_eq_error.mp h with h | ⟨s, -, h⟩
    · exact refuses_of_get hr h
    · cases h
  · cases h

theorem refuses_of_registerSchema {scope : ScopeId} {root : Json}
    (h : e.scopes.registerSchema scope root = .error fault) :
    e.Refuses (.registerSchema scope root) fault := by
  cases hs : e.scopes.get? scope with
  | none =>
      have hget : e.scopes.get scope = .error (.unknownScope scope) := by
        rw [ScopeTree.get, hs]
      unfold ScopeTree.registerSchema at h
      rw [hget] at h
      exact Except.error.inj h ▸ .unknown rfl hs
  | some s =>
      cases hd : Schema.Document.ofShared? root with
      | error missing =>
          unfold ScopeTree.registerSchema at h
          rw [ScopeTree.get_eq_ok.mpr hs, hd] at h
          obtain rfl : missing = .missingId := by
            unfold Schema.Document.ofShared? at hd
            split at hd
            · cases hd
            · exact (Except.error.inj hd).symm
          exact Except.error.inj h ▸ .unnamed hd
      | ok d =>
          obtain ⟨x, hx⟩ := Schema.Document.id_of_ofShared? hd
          rw [ScopeTree.registerSchema_of_document hs hd hx] at h
          split at h
          · next hvisible => exact Except.error.inj h ▸ .taken hd hx hs (.inl hvisible)
          · split at h
            · next hstored =>
                obtain ⟨other, hother, hid⟩ := List.any_eq_true.mp hstored
                exact Except.error.inj h ▸
                  .taken hd hx hs (.inr ⟨other, hother, eq_of_beq hid⟩)
            · cases h

/-- **Nothing else is a reason** to refuse a registration. -/
theorem refuses_of_register? (h : e.register? r = .error fault) : e.Refuses r fault := by
  cases r with
  | childScope parent path =>
      rcases Result.bind_eq_error.mp (Result.map_eq_error.mp h) with h | ⟨made, -, h⟩
      · rcases Result.bind_eq_error.mp h with h | ⟨above, -, h⟩
        · exact refuses_of_get rfl h
        · cases h
      · cases h
  | registerSchema scope root =>
      rcases Result.bind_eq_error.mp h with h | ⟨scopes, -, h⟩
      · exact refuses_of_registerSchema h
      · cases h
  | setCompiler scope compiler => exact refuses_of_update rfl h
  | setReplySerializer scope serializer => exact refuses_of_update rfl h
  | setErrorHandler scope handler => exact refuses_of_update rfl h
  | addObserver scope observer => exact refuses_of_update rfl h
  | addRoute scope declaration =>
      rcases Result.bind_eq_error.mp (Result.map_eq_error.mp h) with h | ⟨above, habove, h⟩
      · exact refuses_of_get rfl h
      · split at h
        · next hready =>
            exact Except.error.inj h ▸ .late (ScopeTree.get_eq_ok.mp habove) hready
        · cases h
  | diagnose => cases h

/-! ## §2  Sound engines -/

/-- **An engine is sound whatever was done with it.** -/
theorem sound_run (config : EngineConfig) (operations : List Operation) :
    ((ofConfig config).run operations).Sound := by
  constructor
  · refine run_induct (T := fun e => e.scopes.IsRooted) ScopeTree.Recorded.root.rooted operations ?_
    intro front operation rest _ h
    rcases scopes_perform ((ofConfig config).run front) operation with heq | ⟨r, -, -, hstep⟩
    · exact heq ▸ h
    · exact h.alters hstep
  · intro r hr
    exact ScopeTree.exists_get?_iff.mpr
      ((lived_reachable config operations ⟨0⟩).placed r hr)

end Engine

namespace InPlace

/-! ## §3  Runs -/

/-- What an operation answers: its result, and the events on the way. -/
structure Answered where
  result : Except EngineError Outcome
  events : List Event := []

def answered {α : Type} (outcome : α → Outcome) (answer : Engine.Answer α) : Answered × Engine :=
  (⟨answer.result.map outcome, answer.events⟩, answer.engine)

/-- The events of a registration: only a diagnosis calls what the application has bound. -/
def eventsOf (e : Engine) : Registration → List Event
  | .diagnose => e.diagnose.2
  | _ => []

def perform (e : Engine) : Operation → Answered × Engine
  | .register r =>
      let (result, e') := exec (registering r) e
      (⟨result, eventsOf e r⟩, e')
  | .clearCache => (⟨.ok .done, []⟩, e.clearCache)
  | .ready => answered .ready e.makeReady
  | .serialize id status contentType value =>
      answered .payload (e.serialize id status contentType value)
  | .send id reply => answered .sent (e.send id reply)
  | .validate id request => answered .validated (e.validate id request)
  | .dispatch id request handler => answered .sent (e.dispatch id request handler)

/-- A run: the answers in order, and the engine after it. -/
def run (e : Engine) : List Operation → List Answered × Engine
  | [] => ([], e)
  | operation :: rest =>
      let later := run (perform e operation).2 rest
      ((perform e operation).1 :: later.1, later.2)

variable {e e' : Engine} {r : Registration} {fault : EngineError}

theorem run_append (e : Engine) (front rest : List Operation) : run e (front ++ rest) =
    ((run e front).1 ++ (run (run e front).2 rest).1, (run (run e front).2 rest).2) := by
  induction front generalizing e with
  | nil => rfl
  | cons operation front ih =>
      rw [List.cons_append, run, run, ih]
      rfl

/-- **On a sound engine a registration that fails has changed nothing.** -/
theorem exec_registering_error (h : e.Sound) (hfault : exec (registering r) e = (.error fault, e')) :
    e' = e ∧ e.register? r = .error fault := by
  rw [exec_registering h] at hfault
  cases hsettled : e.settled r with
  | ok made =>
      rw [hsettled] at hfault
      cases hfault
  | error fault' =>
      rw [hsettled] at hfault
      cases hfault
      rw [← Engine.settled_map, hsettled]
      exact ⟨rfl, rfl⟩

/-- On a sound engine an operation comes to the same engine in place. -/
theorem snd_perform (h : e.Sound) (operation : Operation) :
    (perform e operation).2 = e.perform operation := by
  cases operation with
  | register r =>
      show (exec (registering r) e).2 = e.register r
      rw [exec_registering h, Engine.register, ← Engine.settled_map]
      cases e.settled r <;> rfl
  | _ => rfl

/-- **A run in place comes to the engine of the run.** -/
theorem snd_run (config : EngineConfig) (operations : List Operation) :
    (run (.ofConfig config) operations).2 = (Engine.ofConfig config).run operations := by
  induction operations using List.reverseRecOn with
  | nil => rfl
  | append_singleton front operation ih =>
      rw [run_append, Engine.run_append, ih]
      exact snd_perform (Engine.sound_run config front) operation

/-- What a refused registration leaves of a run: the engine as it was, and the same answers to
whatever is called afterwards. -/
structure LeavesNothing (config : EngineConfig) (past : List Operation) (r : Registration)
    (fault : EngineError) (e' : Engine) : Prop where
  refused : ((Engine.ofConfig config).run past).register? r = .error fault
  reason : ((Engine.ofConfig config).run past).Refuses r fault
  unchanged : e' = (Engine.ofConfig config).run past
  later : ∀ operations, ∃ answers,
    run (.ofConfig config) (past ++ operations) =
      ((run (.ofConfig config) past).1 ++ answers,
        (Engine.ofConfig config).run (past ++ operations)) ∧
    run (.ofConfig config) (past ++ .register r :: operations) =
      ((run (.ofConfig config) past).1 ++ ⟨.error fault, []⟩ :: answers,
        (Engine.ofConfig config).run (past ++ operations))

/-- **A refused registration leaves nothing behind**, in whatever state the engine is. -/
theorem leavesNothing_of_refused {config : EngineConfig} {past : List Operation}
    (h : exec (registering r) (run (.ofConfig config) past).2 = (.error fault, e')) :
    LeavesNothing config past r fault e' := by
  have hsound := Engine.sound_run config past
  rw [snd_run] at h
  obtain ⟨rfl, hrefused⟩ := exec_registering_error hsound h
  refine ⟨hrefused, Engine.refuses_of_register? hrefused, rfl, fun operations => ?_⟩
  have hperform : perform ((Engine.ofConfig config).run past) (.register r) =
      (⟨.error fault, []⟩, (Engine.ofConfig config).run past) := by
    have hevents : eventsOf ((Engine.ofConfig config).run past) r = [] := by
      cases r with
      | diagnose => cases hrefused
      | _ => rfl
    rw [perform, h, hevents]
  have hlast := snd_run config (past ++ operations)
  rw [run_append, snd_run] at hlast
  refine ⟨(run ((Engine.ofConfig config).run past) operations).1, ?_, ?_⟩
  · rw [run_append, snd_run, ← hlast]
  · rw [run_append, snd_run, run, hperform, ← hlast]

/-- A ready engine with a scope below the root, a schema of the root and a route that was called. -/
def readied : List Operation := [
  .register (.childScope .root "/a"),
  .register (.registerSchema .root (Engine.namedType "a" "string")),
  .register (.addRoute ⟨1⟩ { method := "get", url := "/b" }),
  .serialize ⟨0⟩ 200 none (.nat 5),
  .ready]

def refusals : List Registration := [
  .childScope ⟨2⟩ "/c",
  .registerSchema ⟨2⟩ (Engine.namedType "b" "string"),
  .registerSchema ⟨1⟩ (.object [("type", .string "string")]),
  .registerSchema ⟨1⟩ (Engine.namedType "a" "integer"),
  .setCompiler ⟨2⟩ (.custom none fun _ => .error ""),
  .setReplySerializer ⟨2⟩ fun _ _ => .text "",
  .setErrorHandler ⟨2⟩ .default,
  .addObserver ⟨2⟩ ⟨"o"⟩,
  .addRoute ⟨2⟩ { method := "get", url := "/c" },
  .addRoute ⟨1⟩ { method := "get", url := "/c" }]

def errorCode? {α : Type} : Except EngineError α → Option String
  | .error fault => some fault.code
  | .ok _ => none

/-- Each of them is refused, and nothing is left of any. -/
theorem leavesNothing_of_refused_refusals :
    (refusals.map fun r => errorCode? (exec (registering r) (run (.ofConfig {}) readied).2).1) =
      [some "ERR_UNKNOWN_SCOPE", some "ERR_UNKNOWN_SCOPE", some "ERR_SCH_MISSING_ID",
        some "ERR_SCH_ALREADY_PRESENT", some "ERR_UNKNOWN_SCOPE", some "ERR_UNKNOWN_SCOPE",
        some "ERR_UNKNOWN_SCOPE", some "ERR_UNKNOWN_SCOPE", some "ERR_UNKNOWN_SCOPE",
        some "ERR_ROUTE_AFTER_READY"] ∧
    ∀ r ∈ refusals, ∃ fault e',
      exec (registering r) (run (.ofConfig {}) readied).2 = (.error fault, e') ∧
      LeavesNothing {} readied r fault e' := by
  have hcodes : (refusals.map fun r =>
      errorCode? (exec (registering r) (run (.ofConfig {}) readied).2).1) =
        [some "ERR_UNKNOWN_SCOPE", some "ERR_UNKNOWN_SCOPE", some "ERR_SCH_MISSING_ID",
          some "ERR_SCH_ALREADY_PRESENT", some "ERR_UNKNOWN_SCOPE", some "ERR_UNKNOWN_SCOPE",
          some "ERR_UNKNOWN_SCOPE", some "ERR_UNKNOWN_SCOPE", some "ERR_UNKNOWN_SCOPE",
          some "ERR_ROUTE_AFTER_READY"] := by
    decide +kernel
  refine ⟨hcodes, fun r hr => ?_⟩
  cases hexec : exec (registering r) (run (.ofConfig {}) readied).2 with
  | mk result e' =>
      cases result with
      | error fault => exact ⟨fault, e', rfl, leavesNothing_of_refused hexec⟩
      | ok outcome =>
          -- an accepted registration would have no code
          have hnone : none ∈ refusals.map fun r =>
              errorCode? (exec (registering r) (run (.ofConfig {}) readied).2).1 :=
            List.mem_map.mpr ⟨r, hr, by rw [hexec]; rfl⟩
          rw [hcodes] at hnone
          exact absurd hnone (by decide)

/-- A ready engine with two prepared routes, the second of which stands in no scope. -/
def unplaced : Engine where
  routes :=
    let prepared : Prepared := { responses := {}, validators := [], schemas := {}, version := .ofSet {} }
    [{ scope := .root, method := "GET", url := "/a", declaration := { method := "get", url := "/a" },
        prepared := some prepared },
      { scope := ⟨1⟩, method := "GET", url := "/b", declaration := { method := "get", url := "/b" },
        prepared := some prepared }]
  ready := true

/-- **A failure undoes nothing by itself**: on an engine that is not sound a schema can be refused
and be there all the same, and the first route sees it. -/
theorem not_unchanged_unplaced : ∃ fault e',
    exec (registering (.registerSchema .root (Engine.namedType "a" "string"))) unplaced =
        (.error fault, e') ∧
      fault.code = "ERR_UNKNOWN_SCOPE" ∧ e'.scopes.generation .root = 1 ∧
      e'.routes.map (fun r => r.prepared.map fun p => p.schemas.generation) = [some 1, some 0] := by
  let last := exec (registering (.registerSchema .root (Engine.namedType "a" "string"))) unplaced
  have hlast : errorCode? last.1 = some "ERR_UNKNOWN_SCOPE" ∧
      last.2.scopes.generation .root = 1 ∧
      last.2.routes.map (fun r => r.prepared.map fun p => p.schemas.generation) =
        [some 1, some 0] := by
    decide +kernel
  cases hresult : last.1 with
  | error fault =>
      rw [hresult] at hlast
      exact ⟨fault, last.2, Prod.ext hresult rfl, Option.some.inj hlast.1, hlast.2⟩
  | ok outcome =>
      rw [hresult] at hlast
      cases hlast.1

end InPlace

end ReplySchema

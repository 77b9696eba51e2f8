import ReplySchema.Proofs.Engine.Lived
import ReplySchema.Proofs.Reply.Delivery

/-! # Serializing a value and sending it

A value can be serialized on its own, or as a reply on its way out.  Each way resolves the
slot, compiles its schema if nothing is kept, and applies the serializer, and each has its own
errors: a serialization keeps apart what went wrong in the compiler and in the serializer, and
a reply makes both into the text of a handler's error.

On a ready engine the two ways agree (`send_agrees`), also if one is gone after the other: what
is looked up twice is the same (`lookupFor_again`), although the first lookup may have put
an artifact into the cache.
-/

set_option autoImplicit false

namespace ReplySchema

open Serving

/-! ## §1  One lookup, two results -/

namespace Pipeline

/-- **What an attempt sends is what a serialization comes to**, for one and the same lookup: its
payload is sent, and its error takes the place of the reply with the text that it has. -/
theorem attempt_foundBy (p : Pipeline) (reply : Reply) (hraw : p.replySerializer = none)
    {value : Json} (hbody : reply.body = .value value)
    (found : Except BuildError (Option Serializer)) :
    match Engine.payloadBy found value with
    | .ok payload => ∃ contentType states, p.attempt reply (Engine.foundBy found) =
        .ok (finish reply.status contentType payload states .sent)
    | .error error => ∃ states, p.attempt reply (Engine.foundBy found) =
        .error ({ message := error.message, serialization := some (p.mark reply.status) },
          states) := by
  unfold attempt Engine.foundBy Engine.payloadBy
  rw [hbody, hraw]
  rcases found with fault | _ | serializer
  · exact ⟨_, rfl⟩
  · exact ⟨_, _, rfl⟩
  · cases h : serializer value with
    | ok payload =>
        simp only [Except.mapError, h]
        exact ⟨_, _, rfl⟩
    | error inner =>
        simp only [Except.mapError, h]
        exact ⟨_, rfl⟩

theorem finish_of_payload (status : Nat) (contentType : String) (payload : Payload)
    (states : List ReplyState) :
    if payload.isSendable then
      (finish status contentType payload states .sent).outcome = .sent ∧
        (finish status contentType payload states .sent).status = status ∧
        (finish status contentType payload states .sent).body = payload
    else ∃ before, finish status contentType payload states .sent =
      fallback (invalidPayloadBody payload.typeName) before := by
  cases payload with
  | text text => exact ⟨outcome_append rfl, rfl, rfl⟩
  | binary bytes => exact ⟨outcome_append rfl, rfl, rfl⟩
  | value v => exact ⟨states, rfl⟩

end Pipeline

namespace Engine

variable {e : Engine} {id : RouteId} {r : Route} {p : Prepared}

/-! ## §2  Calls on a prepared route -/

/-- What a lookup comes to from a cache. -/
def lookupFor (e : Engine) (id : RouteId) (r : Route) (p : Prepared) (status : Nat)
    (contentType : Option String) (s : Serving) : Except BuildError (Option Serializer) × Serving :=
  (e.serializerFor id r p status contentType).run.run s

theorem preparation_of_prepared (hp : r.prepared = some p) (e : Engine) (id : RouteId) :
    e.preparation id r = pure p := by
  unfold preparation
  rw [hp]

theorem route_eq_ok (hr : e.routes[id.index]? = some r) : e.route id = .ok r := by
  unfold route
  rw [hr]

theorem run_serializeStep (hr : e.routes[id.index]? = some r) (hp : r.prepared = some p)
    (status : Nat) (contentType : Option String) (value : Json) (s : Serving) :
    (e.serializeStep id status contentType value).run.run s =
      (payloadBy (e.lookupFor id r p status contentType s).1 value,
        (e.lookupFor id r p status contentType s).2) := by
  unfold serializeStep
  rw [route_eq_ok hr, Result.run_bind]
  show (e.preparation id r >>= _ : Serve EngineError Payload).run.run s = _
  rw [preparation_of_prepared hp, pure_bind, Result.run_bind]
  have hlookup :
      ((e.serializerFor id r p status contentType).mapError EngineError.build).run.run s =
        ((e.lookupFor id r p status contentType s).1.mapError .build,
        (e.lookupFor id r p status contentType s).2) := rfl
  rw [hlookup]
  rcases e.lookupFor id r p status contentType s with ⟨found, s'⟩
  rcases found with fault | _ | serializer <;> rfl

theorem run_sendStep (hr : e.routes[id.index]? = some r) (hp : r.prepared = some p) (reply : Reply)
    (s : Serving) :
    (e.sendStep id reply).run.run s =
      (.ok (((e.pipeline id r p).send reply).run s).1,
        (((e.pipeline id r p).send reply).run s).2) := by
  unfold sendStep
  rw [route_eq_ok hr, Result.run_bind]
  show (e.preparation id r >>= _ : Serve EngineError SentResponse).run.run s = _
  rw [preparation_of_prepared hp, pure_bind]
  rfl

/-- What a reply looks up is what a serialization looks up, with the text of its fault. -/
theorem found_pipeline (e : Engine) (id : RouteId) (r : Route) (p : Prepared) (status : Nat)
    (contentType : Option String) (s : Serving) :
    (e.pipeline id r p).found status contentType s =
      foundBy (e.lookupFor id r p status contentType s).1 := rfl

/-! ## §3  The same lookup again -/

theorem artifact_again (e : Engine) (id : RouteId) (r : Route) (schemas : Schema.Set)
    (version : Version) (slot : Response.Slot) {s s' : Serving}
    (h : s'.cache = ((e.artifact id r schemas version slot).run.run s).2.cache) :
    ((e.artifact id r schemas version slot).run.run s').1 =
      ((e.artifact id r schemas version slot).run.run s).1 := by
  rw [run_artifact] at h
  rw [run_artifact, run_artifact]
  cases hserved : s.cache.served? (artifactKey id slot) version with
  | some serializer =>
      rw [hserved] at h
      rw [show s'.cache = s.cache from h, hserved]
  | none =>
      rw [hserved] at h
      dsimp only at h ⊢
      cases hmade : e.compiled r schemas slot with
      | error fault =>
          rw [hmade] at h
          rw [show s'.cache = s.cache from h, hserved]
      | ok serializer =>
          rw [hmade] at h
          rw [show s'.cache = s.cache.stored (artifactKey id slot) version serializer from h,
            Cache.served?_stored_self]
          cases s.cache.enabled <;> rfl

/-- **A lookup that is made again comes to the same**, whether the first one put its artifact into
the cache or not. -/
theorem lookupFor_again (e : Engine) (id : RouteId) (r : Route) (p : Prepared) (status : Nat)
    (contentType : Option String) {s s' : Serving}
    (h : s'.cache = (e.lookupFor id r p status contentType s).2.cache) :
    (e.lookupFor id r p status contentType s').1 = (e.lookupFor id r p status contentType s).1 := by
  unfold lookupFor serializerFor at h ⊢
  cases hslot : p.responses.resolve? status contentType e.config.contentFallthrough with
  | none => rfl
  | some slot =>
      simp only [hslot, map_eq_pure_bind, Result.run_bind] at h ⊢
      have hagain := @artifact_again e id r p.schemas p.version slot s s'
      rcases hrun : (e.artifact id r p.schemas p.version slot).run.run s with ⟨made, t⟩
      rcases hrun' : (e.artifact id r p.schemas p.version slot).run.run s' with ⟨made', t'⟩
      rw [hrun] at h
      rw [hrun, hrun'] at hagain
      obtain rfl : made' = made := hagain (by cases made <;> exact h)
      cases made' <;> rfl

/-! ## §4  Agreement -/

/-- Whether what was sent for a value, and what was told of on the way, agree with what its
serialization came to. -/
def Agrees (e : Engine) (r : Route) (status : Nat) (result : Except EngineError Payload)
    (answer : Answer SentResponse) : Prop :=
  ∃ sent, answer.result = .ok sent ∧
    match result with
    | .ok payload =>
        answer.events.filter Event.tells = [] ∧
          if payload.isSendable then
            sent.outcome = .sent ∧ sent.status = status ∧ sent.body = payload
          else ∃ states,
            sent = Pipeline.fallback (Pipeline.invalidPayloadBody payload.typeName) states
    | .error error =>
        let told : HandlerError :=
          { message := error.message, serialization := some ⟨r.method, r.url, status⟩ }
        ReplyState.errorSerializing ∈ sent.states ∧
          answer.events.filter Event.tells =
            (e.scopes.observers r.scope).map (.observed · told) ++ [.errorHandled told status]

/-- A reply agrees with a serialization that looked up the same. -/
theorem agrees_of_lookupFor (hr : e.routes[id.index]? = some r) (hp : r.prepared = some p)
    (hraw : e.scopes.replySerializer? r.scope = none) {status : Nat}
    {contentType : Option String} (value : Json) {found : Except BuildError (Option Serializer)}
    (hfound : (e.lookupFor id r p status contentType { cache := e.cache }).1 = found) :
    e.Agrees r status (payloadBy found value)
      (e.send id { status, contentType, body := .value value }) := by
  have hanswer : e.send id { status, contentType, body := .value value } = e.answer _ := rfl
  unfold answer at hanswer
  rw [run_sendStep hr hp] at hanswer
  obtain ⟨told, s₁, htold, hdelivers, -, -, hevents⟩ := (e.pipeline id r p).send_delivers
    { status, contentType, body := .value value } { cache := e.cache }
  have hattempt := (e.pipeline id r p).attempt_foundBy
    { status, contentType, body := .value value } hraw rfl found
  have hsent := (e.pipeline id r p).run_send { status, contentType, body := .value value }
    { cache := e.cache }
  unfold Pipeline.errorOf at htold
  rw [found_pipeline, hfound] at htold hsent
  refine ⟨_, congrArg Answer.result hanswer, ?_⟩
  rw [congrArg Answer.events hanswer, hevents (e.isQuiet_pipeline id r p)]
  cases hpayload : payloadBy found value with
  | ok payload =>
      rw [hpayload] at hattempt
      obtain ⟨type, states, hattempt⟩ := hattempt
      rw [hattempt] at htold hsent
      rw [htold, hsent]
      exact ⟨rfl, Pipeline.finish_of_payload status type payload states⟩
  | error error =>
      rw [hpayload] at hattempt
      obtain ⟨states, hattempt⟩ := hattempt
      rw [hattempt] at htold
      subst htold
      exact ⟨hdelivers.isSome_told.mp rfl, rfl⟩

/-- A serialization and a reply on a prepared route agree, in any order of the calls. -/
theorem agrees_of_prepared (hr : e.routes[id.index]? = some r) (hp : r.prepared = some p)
    (hraw : e.scopes.replySerializer? r.scope = none) (status : Nat)
    (contentType : Option String) (value : Json) :
    e.Agrees r status (e.serialize id status contentType value).result
        (e.send id { status, contentType, body := .value value }) ∧
      e.Agrees r status (e.serialize id status contentType value).result
        ((e.serialize id status contentType value).engine.send id
          { status, contentType, body := .value value }) := by
  have hserialize := run_serializeStep hr hp status contentType value { cache := e.cache }
  have hanswer : e.serialize id status contentType value = e.answer _ := rfl
  unfold answer at hanswer
  rw [hserialize] at hanswer
  rw [hanswer]
  refine ⟨agrees_of_lookupFor hr hp hraw value rfl, ?_⟩
  -- the engine after the serialization has another cache, and looks up the same
  exact agrees_of_lookupFor
    (e := { e with cache := (e.lookupFor id r p status contentType { cache := e.cache }).2.cache })
    hr hp hraw value (lookupFor_again e id r p status contentType (s := { cache := e.cache }) rfl)

/-! ## §5  Ready engines -/

theorem ready_run (h : e.ready = true) (operations : List Operation) :
    (e.run operations).ready = true := by
  refine run_induct (T := fun e => e.ready = true) h operations ?_
  intro front operation _ _ hready
  cases operation with
  | register registration =>
      refine register_keeps (T := fun e => e.ready = true) hready ?_ registration
      intro e' hstep
      cases hstep <;> exact hready
  | ready =>
      obtain ⟨ready, hengine, hkept, -⟩ := (e.run front).engine_makeReady
      show (e.run front).makeReady.engine.ready = true
      rw [hengine]
      exact hkept hready
  | _ => exact hready

/-- **Serializing and sending agree**: on every route of an engine that was made ready and has
lived on in any way, if no serializer bypasses the schemas of the route, sending a value ends with
what serializing it comes to. -/
theorem send_agrees (config : EngineConfig) (front back : List Operation) {report : ReadyReport}
    (hready : ((ofConfig config).run front).makeReady.result = .ok report)
    (id : RouteId) {r : Route}
    (hr : ((ofConfig config).run (front ++ .ready :: back)).routes[id.index]? = some r)
    (hraw :
      ((ofConfig config).run (front ++ .ready :: back)).scopes.replySerializer? r.scope = none)
    (status : Nat) (contentType : Option String) (value : Json) :
    let e := (ofConfig config).run (front ++ .ready :: back)
    let serialized := e.serialize id status contentType value
    e.Agrees r status serialized.result
        (e.send id { status, contentType, body := .value value }) ∧
      e.Agrees r status serialized.result
        (serialized.engine.send id { status, contentType, body := .value value }) := by
  have hrun : (ofConfig config).run (front ++ .ready :: back) =
      ((ofConfig config).run front).makeReady.engine.run back := run_append _ _ _
  have hnow : ((ofConfig config).run (front ++ .ready :: back)).ready = true := by
    obtain ⟨routes, s, -, hengine⟩ := exists_of_makeReady_eq_ok hready
    rw [hrun]
    refine ready_run ?_ back
    rw [hengine]
  obtain ⟨p, hp, -⟩ := (lived_reachable config (front ++ .ready :: back) id).prepared hnow r
    (List.mem_of_getElem? hr)
  exact agrees_of_prepared hr hp hraw status contentType value

def stringReplies : Json := .object [("200", .object [("type", .string "string")])]

/-- A route with observers on its scope and above it. -/
def watched : List Operation := [
  .register (.childScope .root "/v1"),
  .register (.addObserver ⟨1⟩ ⟨"inner"⟩),
  .register (.addObserver .root ⟨"outer"⟩),
  .register (.addRoute ⟨1⟩ { method := "GET", url := "/a", response := some stringReplies })]

/-- A compiler that refuses every schema, bound once the engine is ready. -/
def refusing : List Operation := [
  .register (.setCompiler .root (.custom none fun _ => .error "refused"))]

/-- What the compiler refuses for a call is told to both observers. -/
theorem send_agrees_refusing :
    ∃ r error, ((ofConfig {}).run watched).makeReady.result = .ok ⟨1, 1, 0⟩ ∧
      ((ofConfig {}).run (watched ++ .ready :: refusing)).routes[0]? = some r ∧
      ((ofConfig {}).run (watched ++ .ready :: refusing)).scopes.replySerializer? r.scope = none ∧
      (((ofConfig {}).run (watched ++ .ready :: refusing)).serialize ⟨0⟩ 200 none .null).result =
        .error error ∧
      ((ofConfig {}).run (watched ++ .ready :: refusing)).scopes.observers r.scope =
        [⟨"outer"⟩, ⟨"inner"⟩] ∧
      ((ofConfig {}).run (watched ++ .ready :: refusing)).Agrees r 200 (.error error)
        (((ofConfig {}).run (watched ++ .ready :: refusing)).send ⟨0⟩
          { body := .value .null }) := by
  have hready : ((ofConfig {}).run watched).makeReady.result = .ok ⟨1, 1, 0⟩ :=
    Result.toOption_eq_some.mp (by decide +kernel)
  obtain ⟨r, hr⟩ := Option.isSome_iff_exists.mp
    (show (((ofConfig {}).run (watched ++ .ready :: refusing)).routes[0]?).isSome = true by
      decide +kernel)
  have hscope : (((ofConfig {}).run (watched ++ .ready :: refusing)).routes[0]?).map Route.scope =
      some ⟨1⟩ := by
    decide +kernel
  rw [hr, Option.map_some, Option.some.injEq] at hscope
  have hraw : ((ofConfig {}).run (watched ++ .ready :: refusing)).scopes.replySerializer? r.scope =
      none := by
    rw [hscope, ← Option.isNone_iff_eq_none]
    decide +kernel
  have hobservers : ((ofConfig {}).run (watched ++ .ready :: refusing)).scopes.observers r.scope =
      [⟨"outer"⟩, ⟨"inner"⟩] := by
    rw [hscope]
    decide +kernel
  obtain ⟨error, herror⟩ : ∃ error, (((ofConfig {}).run (watched ++ .ready :: refusing)).serialize
      ⟨0⟩ 200 none .null).result = .error error := by
    have hnone : (((ofConfig {}).run (watched ++ .ready :: refusing)).serialize
        ⟨0⟩ 200 none .null).result.toOption.isNone = true := by
      decide +kernel
    cases h : (((ofConfig {}).run (watched ++ .ready :: refusing)).serialize
        ⟨0⟩ 200 none .null).result with
    | error error => exact ⟨error, rfl⟩
    | ok payload =>
        rw [h] at hnone
        cases hnone
  have hagrees := (send_agrees {} watched refusing hready ⟨0⟩ hr hraw 200 none .null).1
  rw [herror] at hagrees
  exact ⟨r, error, hready, hr, hraw, herror, hobservers, hagrees⟩

end Engine

end ReplySchema

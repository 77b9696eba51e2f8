import ReplySchema.Proofs.Engine.Operation
import ReplySchema.Proofs.Engine.Traced
import ReplySchema.Proofs.Reply.Response

/-! # What every call keeps

A call uses a preparation of its route, the one that the route has or a new one, and looks for
serializers.  A property of the cache that preparations and lookups keep is therefore kept by every
call, and what the call comes to is made of what it looked up.

`Framed` has these premises.  What is to be said of a lookup, and of a preparation that fails, are
parameters of it, so that each invariant of the cache is followed through the calls in one way.

Main statements: `Framed.serializeStep`, `Framed.sendStep` and `Framed.perform_call`.
-/

set_option autoImplicit false

namespace ReplySchema

def Operation.isCall : Operation → Bool
  | register _ => false
  | clearCache => false
  | ready => false
  | serialize _ _ _ _ => true
  | send _ _ => true
  | validate _ _ => true
  | dispatch _ _ _ => true

namespace Engine

open Serving

/-! ## §1  What a call uses -/

/-- The schemas that a call on a route uses: those that the route had when it was prepared, or
those that it sees now if it is prepared for the call. -/
def snapshot (e : Engine) (r : Route) : Schema.Set :=
  match r.prepared with
  | some p => p.schemas
  | none => e.scopes.schemaSet r.scope

/-- The payload of a value, given what was looked up. -/
def payloadBy (found : Except BuildError (Option Serializer)) (value : Json) :
    Except EngineError Payload :=
  match found with
  | .error fault => .error (.build fault)
  | .ok none => .ok (Payload.generic value).2
  | .ok (some serializer) => (serializer value).mapError .serialize

def foundBy (found : Except BuildError (Option Serializer)) :
    Except SerializeError (Option Serializer) :=
  found.mapError fun fault => .told fault.message

/-- Whether a preparation is that of the route as it is declared, under schemas that the route
sees or saw. -/
structure Remembers (e : Engine) (r : Route) (p : Prepared) : Prop where
  responses : r.declared = .ok p.responses
  version : p.version = .ofSet p.schemas
  seen : Seen e.scopes r.scope p.schemas

theorem Reflects.remembers {e : Engine} {r : Route} {p : Prepared} (h : Reflects e r p) :
    Remembers e r p where
  responses := h.responses
  version := by rw [h.version, h.schemas]
  seen := by rw [h.schemas]; exact seen_schemaSet _ _

def Remembering (e : Engine) : Prop :=
  ∀ r ∈ e.routes, ∀ p, r.prepared = some p → Remembers e r p

/-! ## §2  The premises -/

/-- What is to be said of a lookup on a prepared route, for a status and a content type. -/
abbrev LookupSpec := RouteId → Route → Prepared → Nat → Option String →
  Except BuildError (Option Serializer) → Prop

/-- What is to be said of the fault of a route that cannot be prepared. -/
abbrev FaultSpec := RouteId → Route → BuildError → Prop

/-- Whether the preparations and the lookups of an engine keep a property of the cache and meet
what is to be said of them. -/
structure Framed (e : Engine) (P : Cache Serializer → Prop) (F : FaultSpec) (Q : LookupSpec) :
    Prop where
  remembering : Remembering e
  prepare : ∀ id r, e.routes[id.index]? = some r →
    Meets P (e.prepare id r .kept).run fun result c => P c ∧
      (∀ p, result = .ok p → Reflects e r p) ∧ ∀ fault, result = .error fault → F id r fault
  lookup : ∀ id r p status contentType, e.routes[id.index]? = some r → Remembers e r p →
    p.schemas = e.snapshot r →
    Meets P (e.serializerFor id r p status contentType).run fun found c =>
      P c ∧ Q id r p status contentType found

/-- Whether a call on a route ended because the route could not be prepared. -/
def EndsUnprepared {α : Type} (F : FaultSpec) (id : RouteId) (r : Route)
    (result : Except EngineError α) : Prop :=
  r.prepared = none ∧ ∃ fault, F id r fault ∧ result = .error (.build fault)

/-- What a call that serializes on a route comes to, by what was looked up. -/
def SerializesBy (e : Engine) (id : RouteId) (r : Route) (F : FaultSpec) (Q : LookupSpec)
    (status : Nat) (contentType : Option String) (value : Json)
    (result : Except EngineError Payload) : Prop :=
  EndsUnprepared F id r result ∨ ∃ p found, Remembers e r p ∧ Q id r p status contentType found ∧
    result = payloadBy found value

/-- What a call that sends on a route comes to, by what was looked up for the value and for the
error. -/
def SendsBy (e : Engine) (id : RouteId) (r : Route) (F : FaultSpec) (Q : LookupSpec)
    (reply : Reply) (result : Except EngineError SentResponse) : Prop :=
  EndsUnprepared F id r result ∨ ∃ p status first second, Remembers e r p ∧
    Q id r p reply.status reply.contentType first ∧ Q id r p status reply.contentType second ∧
    result = .ok ((e.pipeline id r p).response reply (foundBy first) (foundBy second))

namespace Framed

variable {e : Engine} {P : Cache Serializer → Prop} {F : FaultSpec} {Q : LookupSpec}

/-! ## §3  Calls -/

theorem onRoute {α : Type} (h : Framed e P F Q) (id : RouteId)
    {f : Route → Prepared → Serve EngineError α} {T : Route → Except EngineError α → Prop}
    (hfails : ∀ r result, EndsUnprepared F id r result → T r result)
    (hf : ∀ r p, e.routes[id.index]? = some r → Remembers e r p → p.schemas = e.snapshot r →
      Meets P (f r p).run fun result c => P c ∧ T r result) :
    Meets P (do
      let r ← lift (e.route id)
      let p ← e.preparation id r
      f r p).run fun result c =>
        P c ∧ ∀ r, e.routes[id.index]? = some r → T r result := by
  unfold route
  cases hr : e.routes[id.index]? with
  | none =>
      refine meets_throw fun c hc => ⟨hc, fun r hr' => ?_⟩
      cases hr'
  | some r =>
      have hknown : ∀ {result c}, P c ∧ T r result →
          P c ∧ ∀ r', some r = some r' → T r' result := by
        rintro result c ⟨hc, hresult⟩
        refine ⟨hc, fun r' hr' => ?_⟩
        obtain rfl := Option.some.inj hr'
        exact hresult
      change Meets P (e.preparation id r >>= f r).run _
      unfold preparation
      cases hp : r.prepared with
      | some p =>
          have hremembers := h.remembering r (List.mem_of_getElem? hr) p hp
          exact (hf r p hr hremembers (by rw [snapshot, hp])).mono fun _ _ => hknown
      -- an unprepared route is prepared for this call, which may fail before `f` is reached
      | none =>
          refine meets_bindExcept (meets_mapError (h.prepare id r hr) (g := EngineError.build)
            (Q := fun result c => P c ∧ (∀ p, result = .ok p → Reflects e r p) ∧
              ∀ error, result = .error error → ∃ fault, F id r fault ∧ error = .build fault) ?_)
            ?_ ?_
          · rintro result c ⟨hc, hreflects, hfault⟩
            refine ⟨hc, fun p hp => hreflects p (Result.mapError_eq_ok.mp hp), ?_⟩
            intro error herror
            cases result with
            | ok p => cases herror
            | error fault =>
                cases herror
                exact ⟨fault, hfault fault rfl, rfl⟩
          · rintro p s ⟨hs, hreflects, -⟩
            have hp' := hreflects p rfl
            refine hknown (hf r p hr hp'.remembers ?_ s hs)
            rw [snapshot, hp]
            exact hp'.schemas
          · rintro error c ⟨hc, -, hfault⟩
            obtain ⟨fault, hF, rfl⟩ := hfault error rfl
            exact hknown ⟨hc, hfails r _ ⟨hp, fault, hF, rfl⟩⟩

theorem serializeStep (h : Framed e P F Q) (id : RouteId) (status : Nat)
    (contentType : Option String) (value : Json) :
    Meets P (e.serializeStep id status contentType value).run fun result c =>
      P c ∧ ∀ r, e.routes[id.index]? = some r →
        SerializesBy e id r F Q status contentType value result := by
  refine h.onRoute id (fun r result => Or.inl) fun r p hr hp hschemas => ?_
  refine meets_bindExcept (meets_mapError (h.lookup id r p status contentType hr hp hschemas)
    (g := EngineError.build) (Q := fun result c => P c ∧
      ∃ found : Except BuildError (Option Serializer), result = found.mapError .build ∧
        Q id r p status contentType found) ?_) ?_ ?_
  · rintro found c ⟨hc, hfound⟩
    exact ⟨hc, found, rfl, hfound⟩
  · rintro found s ⟨hs, found', heq, hfound⟩
    obtain rfl : found' = .ok found := Result.mapError_eq_ok.mp heq.symm
    cases found with
    | none => exact ⟨hs, Or.inr ⟨p, _, hp, hfound, rfl⟩⟩
    | some serializer => exact ⟨hs, Or.inr ⟨p, _, hp, hfound, rfl⟩⟩
  · rintro error c ⟨hc, found, heq, hfound⟩
    cases found with
    | ok found => cases heq
    | error fault =>
        cases heq
        exact ⟨hc, Or.inr ⟨p, _, hp, hfound, rfl⟩⟩

theorem sendStep (h : Framed e P F Q) (id : RouteId) (reply : Reply) :
    Meets P (e.sendStep id reply).run fun result c =>
      P c ∧ ∀ r, e.routes[id.index]? = some r → SendsBy e id r F Q reply result := by
  refine h.onRoute id (fun r result => Or.inl) fun r p hr hp hschemas => ?_
  have hlookup : ∀ status contentType,
      Meets P ((e.pipeline id r p).lookup status contentType).run fun result c =>
        P c ∧ ∃ found, result = foundBy found ∧ Q id r p status contentType found :=
    fun status contentType =>
      meets_mapError (h.lookup id r p status contentType hr hp hschemas)
        fun found c hc => ⟨hc.1, found, rfl, hc.2⟩
  refine meets_lift ((Pipeline.send_meets hlookup reply).mono ?_)
  rintro sent c ⟨hc, status, _, _, ⟨first, rfl, hfirst⟩, ⟨second, rfl, hsecond⟩, heq⟩
  exact ⟨hc, Or.inr ⟨p, status, first, second, hp, hfirst, hsecond, by rw [heq]⟩⟩

theorem validateStep (h : Framed e P F Q) (id : RouteId) (request : Request) :
    Keeps P (e.validateStep id request).run :=
  (h.onRoute id (T := fun _ _ => True) (fun _ _ _ => trivial)
    fun _ _ _ _ _ => meets_ok fun _ hc => ⟨hc, trivial⟩).mono fun _ _ hc => hc.1

theorem dispatchStep (h : Framed e P F Q) (id : RouteId) (request : Request)
    (handler : Request → Reply) : Keeps P (e.dispatchStep id request handler).run := by
  have hsend : ∀ reply, Keeps P (e.sendStep id reply).run :=
    fun reply => (h.sendStep id reply).mono fun _ _ hc => hc.1
  refine meets_bindExcept (h.validateStep id request) (fun refused => ?_) fun _ _ hc => hc
  cases refused with
  | some error => exact hsend _
  | none =>
      refine meets_bindExcept (R := fun _ => P) (meets_lift (note_keeps .handled))
        (fun _ => ?_) fun _ _ hc => hc
      exact hsend _

theorem answer_keeps {α : Type} {step : Serve EngineError α} (hstep : Keeps P step.run)
    (hc : P e.cache) : ∃ c, P c ∧ (e.answer step).engine = { e with cache := c } :=
  ⟨(step.run.run { cache := e.cache }).2.cache, hstep { cache := e.cache } hc, rfl⟩

/-- **A call changes the cache alone**, and it keeps what preparations and lookups keep. -/
theorem perform_call (h : Framed e P F Q) (hc : P e.cache) (operation : Operation)
    (hcall : operation.isCall = true) :
    ∃ c, P c ∧ e.perform operation = { e with cache := c } := by
  cases operation with
  | serialize id status contentType value =>
      exact answer_keeps ((h.serializeStep id status contentType value).mono fun _ _ => And.left) hc
  | send id reply => exact answer_keeps ((h.sendStep id reply).mono fun _ _ => And.left) hc
  | validate id request => exact answer_keeps (h.validateStep id request) hc
  | dispatch id request handler => exact answer_keeps (h.dispatchStep id request handler) hc
  | _ => cases hcall

/-! ## §4  Making ready -/

/-- Making ready keeps the property, whether it succeeds or stops at a route; each route is left as
it was or is prepared, and if all goes well each is prepared. -/
theorem prepareAll (h : Framed e P F Q) (hc : P e.cache) :
    P (e.prepareAll 0 e.routes {} { cache := e.cache }).2.2.cache ∧
      (∀ r ∈ (e.prepareAll 0 e.routes {} { cache := e.cache }).2.1,
        r ∈ e.routes ∨ IsPrepared e r) ∧
      ∀ report, (e.prepareAll 0 e.routes {} { cache := e.cache }).1 = .ok report →
        ∀ r ∈ (e.prepareAll 0 e.routes {} { cache := e.cache }).2.1, IsPrepared e r := by
  refine prepareAll_keeps (fun id r hr => ?_) e.routes 0 {} { cache := e.cache } (fun i r hr => ?_)
    hc
  · exact (h.prepare id r hr).mono fun _ _ hresult => ⟨hresult.1, hresult.2.1⟩
  · rwa [Nat.zero_add]

end Framed

end Engine

end ReplySchema

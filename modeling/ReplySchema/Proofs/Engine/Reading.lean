import ReplySchema.Proofs.Engine.Calls
import ReplySchema.Proofs.Engine.Stocking
import ReplySchema.Proofs.Engine.Trial
import ReplySchema.Proofs.Engine.Run
import ReplySchema.Proofs.Reply.Delivery

/-! # A ready engine only reads

Making ready compiles every declared slot, and a lookup finds no slot but a declared one.  So on a
ready engine nothing is left to be compiled, if the cache keeps what it is given: a call ends in
the state in which it began, but for the calls that tell of an error.

The two enumerations of slots meet in `Stocked.serializerFor_passes`.

Main statement: `serving_only_reads`.
-/

set_option autoImplicit false

namespace ReplySchema

open Serving

def Event.compiles : Event → Bool
  | compiled _ _ => true
  | _ => false

/-! ## §1  Steps that compile nothing -/

namespace Serving

variable {α β ε ε' : Type}

/-- Whether a state comes after another by calls of which none is that of a compiler, with the
cache as it was. -/
def Passes (s s' : Serving) : Prop :=
  s'.cache = s.cache ∧ s'.events.filter Event.compiles = s.events.filter Event.compiles

theorem Passes.refl (s : Serving) : Passes s s := ⟨rfl, rfl⟩

theorem Passes.trans {s s' s'' : Serving} (h : Passes s s') (h' : Passes s' s'') : Passes s s'' :=
  ⟨h'.1.trans h.1, h'.2.trans h.2⟩

/-- Whether a step that begins with a given cache compiles nothing and comes to one of some
values. -/
def Spares (c : Cache Serializer) (step : StateM Serving α) (Q : α → Prop) : Prop :=
  ∀ s, s.cache = c → Passes s (step.run s).2 ∧ Q (step.run s).1

variable {c : Cache Serializer}

theorem spares_pure {a : α} {Q : α → Prop} (h : Q a) : Spares c (pure a) Q :=
  fun s _ => ⟨.refl s, h⟩

theorem spares_bind {x : StateM Serving α} {f : α → StateM Serving β} {R : α → Prop}
    {Q : β → Prop} (hx : Spares c x R) (hf : ∀ a, R a → Spares c (f a) Q) :
    Spares c (x >>= f) Q := by
  intro s hs
  obtain ⟨hpasses, ha⟩ := hx s hs
  obtain ⟨hpasses', hb⟩ := hf _ ha (x.run s).2 (hpasses.1.trans hs)
  exact ⟨hpasses.trans hpasses', hb⟩

/-- A composed step that can fail goes on if its first part came to a value. -/
theorem spares_bindExcept {x : Serve ε α} {f : α → Serve ε β} {R : Except ε α → Prop}
    {Q : Except ε β → Prop} (hx : Spares c x.run R) (hok : ∀ a, R (.ok a) → Spares c (f a).run Q)
    (herror : ∀ error, R (.error error) → Q (.error error)) : Spares c (x >>= f).run Q := by
  change Spares c (x.run >>= ExceptT.bindCont f) Q
  refine spares_bind hx fun result hresult => ?_
  cases result with
  | ok a => exact hok a hresult
  | error error => exact spares_pure (herror error hresult)

theorem spares_mapError {x : Serve ε α} {g : ε → ε'} {R : Except ε α → Prop}
    {Q : Except ε' α → Prop} (hx : Spares c x.run R)
    (h : ∀ result, R result → Q (result.mapError g)) : Spares c (x.mapError g).run Q :=
  spares_bind hx fun result hresult => spares_pure (h result hresult)

theorem spares_lift {x : StateM Serving α} {Q : Except ε α → Prop}
    (hx : Spares c x fun a => Q (.ok a)) : Spares c (ExceptT.lift x : Serve ε α).run Q :=
  spares_bind hx fun _ ha => spares_pure ha

end Serving

namespace Pipeline

variable {p : Pipeline} {c : Cache Serializer}

theorem passes_tell (error : HandlerError) (replyStatus : Nat) (s : Serving) :
    Passes s (p.tell error replyStatus s) := by
  refine ⟨rfl, ?_⟩
  have hcalls : (p.callsFor error replyStatus).filter Event.compiles = [] := by
    rw [List.filter_eq_nil_iff]
    intro event hevent
    rcases List.mem_append.mp hevent with hevent | hevent
    · obtain ⟨observer, -, rfl⟩ := List.mem_map.mp hevent
      exact Bool.false_ne_true
    · rw [List.mem_singleton.mp hevent]
      exact Bool.false_ne_true
  unfold tell
  rw [List.filter_append, hcalls, List.append_nil]

theorem passes_looks
    (h : ∀ status contentType, Spares c (p.lookup status contentType).run fun _ => True)
    {s s' : Serving} (hs : s.cache = c) (hlooks : p.Looks s s') : Passes s s' := by
  rcases hlooks with rfl | ⟨status, contentType, rfl⟩
  · exact .refl _
  · exact (h status contentType s hs).1

theorem send_spares
    (h : ∀ status contentType, Spares c (p.lookup status contentType).run fun _ => True)
    (reply : Reply) : Spares c (p.send reply) fun _ => True := by
  intro s hs
  refine ⟨?_, trivial⟩
  have hattempt : Passes s (p.afterAttempt reply s) :=
    passes_looks h hs (p.looks_afterAttempt reply s)
  rw [run_send]
  cases p.attempt reply (p.found reply.status reply.contentType s) with
  | ok sent => exact hattempt
  | error ended =>
      -- the error is told, and then its own payload is looked up
      obtain ⟨error, states⟩ := ended
      have htold : Passes s (p.tell error reply.status (p.afterAttempt reply s)) :=
        hattempt.trans (passes_tell error reply.status _)
      refine htold.trans (passes_looks h (htold.1.trans hs) ?_)
      exact p.looks_afterLookup _ _ _

end Pipeline

namespace Engine

/-! ## §2  Calls on a stocked route -/

section

variable {e : Engine} {id : RouteId}

/-- **Every serializer that a call looks for is there**: a slot that is resolved is a declared one,
and these were compiled. -/
theorem Stocked.serializerFor_passes {c : Cache Serializer} {r : Route} {p : Prepared}
    (h : Stocked e c id r p) (status : Nat) (contentType : Option String) :
    Spares c (e.serializerFor id r p status contentType).run fun result =>
      ∃ found, result = .ok found := by
  unfold serializerFor
  cases hslot : p.responses.resolve? status contentType e.config.contentFallthrough with
  | none => exact spares_pure ⟨none, rfl⟩
  | some slot =>
      -- what is resolved is among the slots that were compiled
      obtain ⟨-, hkept⟩ := h.slots slot (Response.Declaration.mem_slots_of_resolve? hslot)
      have hartifact : Spares c (e.artifact id r p.schemas p.version slot).run fun result =>
          ∃ serializer, result = .ok serializer := by
        intro s hs
        obtain ⟨serializer, hrun⟩ := run_artifact_of_isSome (by rw [hs]; exact hkept)
        rw [hrun]
        exact ⟨.refl s, serializer, rfl⟩
      refine spares_bindExcept hartifact (fun serializer _ => ?_) ?_
      · exact spares_pure ⟨some serializer, rfl⟩
      · rintro fault ⟨serializer, hne⟩
        cases hne

def RefusesUnknown {α : Type} (e : Engine) (id : RouteId) (result : Except EngineError α) : Prop :=
  e.route id = .error (.unknownRoute id) ∧ result = .error (.unknownRoute id)

/-- A call on an equipped engine comes to a stocked route, or the route is unknown. -/
theorem Equipped.onRoute {α : Type} (h : Equipped e) (id : RouteId)
    {f : Route → Prepared → Serve EngineError α} {Q : Except EngineError α → Prop}
    (hunknown : ∀ result, RefusesUnknown e id result → Q result)
    (hf : ∀ r p, Stocked e e.cache id r p → Spares e.cache (f r p).run Q) :
    Spares e.cache (do
      let r ← lift (e.route id)
      let p ← e.preparation id r
      f r p).run Q := by
  cases hr : e.routes[id.index]? with
  | none =>
      have hroute : e.route id = .error (.unknownRoute id) := by rw [route, hr]
      rw [hroute]
      exact spares_pure (hunknown _ ⟨hroute, rfl⟩)
  | some r =>
      have hroute : e.route id = .ok r := by rw [route, hr]
      obtain ⟨p, hp⟩ := h.stocked id.index r hr
      rw [Nat.zero_add] at hp
      have hpreparation : e.preparation id r = pure p := by rw [preparation, hp.prepared]
      rw [hroute]
      change Spares e.cache (e.preparation id r >>= f r).run Q
      rw [hpreparation]
      exact hf r p hp

theorem Equipped.serializeStep_spares (h : Equipped e) (id : RouteId) (status : Nat)
    (contentType : Option String) (value : Json) :
    Spares e.cache (e.serializeStep id status contentType value).run fun result =>
      ∀ fault, result ≠ .error (.build fault) := by
  refine h.onRoute id ?_ fun r p hp => ?_
  · rintro result ⟨-, rfl⟩ fault hfault
    cases hfault
  · refine spares_bindExcept (R := fun result => ∃ found, result = .ok found)
      (spares_mapError (hp.serializerFor_passes status contentType) ?_) (fun found _ => ?_) ?_
    · rintro result ⟨found, rfl⟩
      exact ⟨found, rfl⟩
    · cases found with
      | none => exact spares_pure nofun
      | some serializer =>
          refine spares_pure fun fault => ?_
          cases serializer value with
          | ok payload => nofun
          | error error => nofun
    · rintro error ⟨found, hne⟩
      cases hne

theorem Equipped.sendStep_spares (h : Equipped e) (id : RouteId) (reply : Reply) :
    Spares e.cache (e.sendStep id reply).run fun result =>
      RefusesUnknown e id result ∨ ∃ sent, result = .ok sent := by
  refine h.onRoute id (fun _ => Or.inl) fun r p hp => spares_lift ?_
  have hlookup : ∀ status contentType,
      Spares e.cache ((e.pipeline id r p).lookup status contentType).run fun _ => True :=
    fun status contentType =>
      spares_mapError (hp.serializerFor_passes status contentType) fun _ _ => trivial
  intro s hs
  exact ⟨(Pipeline.send_spares hlookup reply s hs).1, Or.inr ⟨_, rfl⟩⟩

theorem Equipped.validateStep_spares (h : Equipped e) (id : RouteId) (request : Request) :
    Spares e.cache (e.validateStep id request).run fun result =>
      RefusesUnknown e id result ∨ ∃ refused, result = .ok refused :=
  h.onRoute id (fun _ => Or.inl) fun _ _ _ => spares_pure (Or.inr ⟨_, rfl⟩)

theorem Equipped.dispatchStep_spares (h : Equipped e) (id : RouteId) (request : Request)
    (handler : Request → Reply) :
    Spares e.cache (e.dispatchStep id request handler).run fun result =>
      RefusesUnknown e id result ∨ ∃ sent, result = .ok sent := by
  refine spares_bindExcept (h.validateStep_spares id request) (fun refused _ => ?_) ?_
  · cases refused with
    | some error => exact h.sendStep_spares id _
    | none =>
        have hnote : Spares e.cache (ExceptT.lift (note .handled) : Serve EngineError Unit).run
            fun result => result = .ok () := by
          refine spares_lift fun s _ => ⟨⟨rfl, ?_⟩, rfl⟩
          change (s.events ++ [Event.handled]).filter Event.compiles = _
          rw [List.filter_append]
          exact List.append_nil _
        refine spares_bindExcept hnote (fun _ _ => ?_) nofun
        exact h.sendStep_spares id (handler request)
  · rintro error (⟨hroute, herror⟩ | ⟨refused, hne⟩)
    · cases herror
      exact Or.inl ⟨hroute, rfl⟩
    · cases hne

end

/-! ## §3  Every call -/

end Engine

def Operation.isServing : Operation → Bool
  | register .diagnose => true
  | register _ => false
  | clearCache => false
  | ready => true
  | serialize _ _ _ _ => true
  | send _ _ => true
  | validate _ _ => true
  | dispatch _ _ _ => true

namespace Engine

/-- Whether a call on an engine left it as it was, called no compiler and found nothing wrong with
a route. -/
structure OnlyRead {α : Type} (e : Engine) (answer : Answer α) : Prop where
  engine : answer.engine = e
  events : answer.events.filter Event.compiles = []
  result : ∀ fault, answer.result ≠ .error (.build fault)

/-- Whether all that an engine does to serve is to read. -/
structure ServesByReading (e : Engine) (report : ReadyReport) : Prop where
  serialize : ∀ id status contentType value, OnlyRead e (e.serialize id status contentType value)
  send : ∀ id reply, OnlyRead e (e.send id reply)
  validate : ∀ id request, OnlyRead e (e.validate id request)
  dispatch : ∀ id request handler, OnlyRead e (e.dispatch id request handler)
  /-- On a known route something is sent for every reply. -/
  sends : ∀ id r, e.route id = .ok r → ∀ reply, ∃ sent, (e.send id reply).result = .ok sent
  /-- On a known route something is sent for every request. -/
  dispatches : ∀ id r, e.route id = .ok r → ∀ request handler,
    ∃ sent, (e.dispatch id request handler).result = .ok sent
  /-- A diagnosis calls compilers, but it keeps nothing. -/
  diagnosis : e.diagnosis.2.cache = e.cache
  /-- Making ready once more reports the same; there are no events, so nothing was compiled. -/
  makeReady : e.makeReady = ⟨.ok report, e, []⟩

section

variable {e : Engine} {α : Type} {step : Serve EngineError α}

theorem onlyRead_answer {Q : Except EngineError α → Prop} (hstep : Spares e.cache step.run Q)
    (hQ : ∀ result, Q result → ∀ fault, result ≠ .error (.build fault)) :
    OnlyRead e (e.answer step) := by
  obtain ⟨⟨hcache, hevents⟩, hresult⟩ := hstep { cache := e.cache } rfl
  refine ⟨?_, hevents, hQ _ hresult⟩
  change { e with cache := (step.run.run { cache := e.cache }).2.cache } = e
  rw [hcache]

theorem ne_build_of_refusesUnknown {id : RouteId} {result : Except EngineError α}
    (h : RefusesUnknown e id result ∨ ∃ a, result = .ok a) (fault : BuildError) :
    result ≠ .error (.build fault) := by
  rcases h with ⟨-, rfl⟩ | ⟨a, rfl⟩
  · nofun
  · nofun

theorem exists_ok_of_known {id : RouteId} {r : Route} (hr : e.route id = .ok r)
    (hstep : Spares e.cache step.run fun result =>
      RefusesUnknown e id result ∨ ∃ a, result = .ok a) : ∃ a, (e.answer step).result = .ok a := by
  obtain ⟨-, hresult⟩ := hstep { cache := e.cache } rfl
  rcases hresult with ⟨hroute, -⟩ | hok
  · rw [hroute] at hr
    cases hr
  · exact hok

theorem Equipped.servesByReading (h : Equipped e) : e.ServesByReading (countAll {} e.routes) where
  serialize id status contentType value :=
    onlyRead_answer (h.serializeStep_spares id status contentType value) fun _ hresult => hresult
  send id reply :=
    onlyRead_answer (h.sendStep_spares id reply) fun _ => ne_build_of_refusesUnknown
  validate id request :=
    onlyRead_answer (h.validateStep_spares id request) fun _ => ne_build_of_refusesUnknown
  dispatch id request handler :=
    onlyRead_answer (h.dispatchStep_spares id request handler) fun _ => ne_build_of_refusesUnknown
  sends id _ hr reply := exists_ok_of_known hr (h.sendStep_spares id reply)
  dispatches id _ hr request handler :=
    exists_ok_of_known hr (h.dispatchStep_spares id request handler)
  diagnosis := e.cache_diagnosis
  makeReady := h.makeReady_eq

/-- An operation that serves leaves an equipped engine as it is. -/
theorem Equipped.perform_eq (h : Equipped e) {operation : Operation}
    (hserving : operation.isServing = true) : e.perform operation = e := by
  have hreads := h.servesByReading
  cases operation with
  | register registration =>
      cases registration with
      | diagnose => rfl
      | _ => cases hserving
  | clearCache => cases hserving
  | ready => exact congrArg Answer.engine hreads.makeReady
  | serialize id status contentType value =>
      exact (hreads.serialize id status contentType value).engine
  | send id reply => exact (hreads.send id reply).engine
  | validate id request => exact (hreads.validate id request).engine
  | dispatch id request handler => exact (hreads.dispatch id request handler).engine

theorem Equipped.run_eq (h : Equipped e) : ∀ {operations : List Operation},
    operations.all Operation.isServing = true → e.run operations = e
  | [], _ => rfl
  | operation :: rest, hserving => by
      rw [List.all_cons, Bool.and_eq_true] at hserving
      change (e.perform operation).run rest = e
      rw [h.perform_eq hserving.1]
      exact h.run_eq hserving.2

end

/-- **A ready engine only reads**: after making ready has succeeded, whatever the engine was before,
no call that serves and no diagnosis changes anything, no compiler is called to serve, no call finds
a route that cannot be prepared, and something is sent for every reply and request on a known
route. -/
theorem serving_only_reads {e : Engine} (hcache : e.cache.enabled = true) {report : ReadyReport}
    (hready : e.makeReady.result = .ok report) {operations : List Operation}
    (hserving : operations.all Operation.isServing = true) :
    e.makeReady.engine.run operations = e.makeReady.engine ∧
      (e.makeReady.engine.run operations).ServesByReading report := by
  obtain ⟨hequipped, rfl⟩ := equipped_makeReady hcache hready
  have hrun := hequipped.run_eq hserving
  refine ⟨hrun, ?_⟩
  rw [hrun]
  exact hequipped.servesByReading

def eachKind : List Operation := [
  .serialize ⟨0⟩ 204 (some "text/html") .null,
  .send ⟨0⟩ { body := .error { message := "no", status := some 404 } },
  .validate ⟨1⟩ {},
  .register .diagnose,
  .ready,
  .dispatch ⟨0⟩ {} fun _ => { body := .value (.string "yes") }]

theorem serving_only_reads_eachKind :
    ((ofConfig {}).registerAll oneRoute).cache.enabled = true ∧
    ((ofConfig {}).registerAll oneRoute).makeReady.result = .ok ⟨1, 3, 0⟩ ∧
    eachKind.all Operation.isServing = true ∧
    ((ofConfig {}).registerAll oneRoute).makeReady.engine.run eachKind =
      ((ofConfig {}).registerAll oneRoute).makeReady.engine ∧
    (((ofConfig {}).registerAll oneRoute).makeReady.engine.run eachKind).ServesByReading
      ⟨1, 3, 0⟩ := by
  have hcache : ((ofConfig {}).registerAll oneRoute).cache.enabled = true := by decide +kernel
  have hready : ((ofConfig {}).registerAll oneRoute).makeReady.result = .ok ⟨1, 3, 0⟩ :=
    Result.toOption_eq_some.mp (by decide +kernel)
  exact ⟨hcache, hready, rfl, serving_only_reads hcache hready rfl⟩

end Engine

end ReplySchema

import ReplySchema.Proofs.Engine.Frame

/-! # What holds in the life of an engine

Two invariants cover the life of an engine:

* `Registering`: nothing was compiled yet, and every route stands in a scope;
* `Served`: the engine is ready, every route has a preparation that reflects it, and the
  cache is faithful.

The first call of ready that succeeds leads from the one to the other (`served_makeReady`),
and no operation leaves the second (`served_run`).

So the cache cannot be observed.  What a ready engine serializes is what it would serialize
without a cache and without preparations: the declaration is read anew, a slot is resolved, and
its schema is compiled by the compiler in force against the schemas that are visible now
(`serialize_eq_uncached`, for every way in which an engine was registered and everything that
happened to it since).
-/

set_option autoImplicit false

namespace ReplySchema.Engine

open Serving

/-! ## §1  While routes are registered -/

/-- An engine that was never asked to be ready. -/
structure Registering (e : Engine) : Prop where
  notReady : e.ready = false
  uncached : e.cache.entries = []
  placed : ∀ r ∈ e.routes, r.scope.index < e.scopes.scopes.length

theorem registering_ofConfig (config : EngineConfig) : Registering (ofConfig config) where
  notReady := rfl
  uncached := rfl
  placed r hr := by cases hr

theorem Registering.registers {e e' : Engine} (h : Registering e) (hstep : Registers e e') :
    Registering e' := by
  cases hstep with
  | unseen scopes hlength hview =>
      exact ⟨h.notReady, h.uncached, fun r hr => Nat.lt_of_lt_of_le (h.placed r hr) hlength⟩
  | compiler scopes hlength hset =>
      refine ⟨h.notReady, ?_, fun r hr => Nat.lt_of_lt_of_le (h.placed r hr) hlength⟩
      simp only [h.notReady]
      exact h.uncached
  | schema scopes hlength hview =>
      refine ⟨h.notReady, h.uncached, fun r hr => ?_⟩
      simp only [h.notReady] at hr
      exact Nat.lt_of_lt_of_le (h.placed r hr) hlength
  | route r hready hplaced hfresh =>
      refine ⟨h.notReady, h.uncached, fun r' hr' => ?_⟩
      rcases List.mem_append.mp hr' with hr' | hr'
      · exact h.placed r' hr'
      · rw [List.mem_singleton.mp hr']
        exact hplaced

theorem Registering.register {e : Engine} (h : Registering e) (registration : Registration) :
    Registering (e.register registration) :=
  register_keeps h (fun _ => h.registers) registration

theorem Registering.registerAll {e : Engine} (h : Registering e) :
    ∀ registrations, Registering (e.registerAll registrations)
  | [] => h
  | registration :: rest => (h.register registration).registerAll rest

/-! ## §2  While replies are served -/

/-- Whether every wildcard that a route declares is written as one. -/
def Bare (e : Engine) : Prop :=
  ∀ r ∈ e.routes, ∀ declaration, r.declaration.response = some declaration →
    Response.WildcardsAreBare declaration

/-- An engine that is ready, and whose cache may be relied on. -/
structure Served (e : Engine) : Prop where
  ready : e.ready = true
  placed : ∀ r ∈ e.routes, r.scope.index < e.scopes.scopes.length
  bare : Bare e
  prepared : ∀ r ∈ e.routes, IsPrepared e r
  faithful : Faithful e e.cache

theorem exists_of_sites {e e' : Engine}
    (h : e'.routes.map Route.site = e.routes.map Route.site) {r' : Route} (hr' : r' ∈ e'.routes) :
    ∃ r ∈ e.routes, r'.site = r.site := by
  obtain ⟨i, hi⟩ := List.mem_iff_getElem?.mp hr'
  obtain ⟨r, hr, hsite⟩ := sites_get? h hi
  exact ⟨r, List.mem_of_getElem? hr, hsite⟩

theorem bare_of_sites {e e' : Engine} (h : e'.routes.map Route.site = e.routes.map Route.site)
    (hbare : Bare e) : Bare e' := by
  intro r' hr' declaration hd
  obtain ⟨r, hr, hsite⟩ := exists_of_sites h hr'
  refine hbare r hr declaration ?_
  rw [← hd, Route.eq_of_site (fun r => r.declaration.response) (fun _ => rfl) hsite]

theorem placed_of_sites {e e' : Engine} (h : e'.routes.map Route.site = e.routes.map Route.site)
    (hlength : e.scopes.scopes.length ≤ e'.scopes.scopes.length)
    (hplaced : ∀ r ∈ e.routes, r.scope.index < e.scopes.scopes.length) :
    ∀ r ∈ e'.routes, r.scope.index < e'.scopes.scopes.length := by
  intro r' hr'
  obtain ⟨r, hr, hsite⟩ := exists_of_sites h hr'
  rw [Route.eq_of_site Route.scope (fun _ => rfl) hsite]
  exact Nat.lt_of_lt_of_le (hplaced r hr) hlength

theorem IsPrepared.carry {e e' : Engine} {r : Route} (h : IsPrepared e r)
    (hset : e'.scopes.schemaSet r.scope = e.scopes.schemaSet r.scope) : IsPrepared e' r := by
  obtain ⟨p, hp, hreflects⟩ := h
  exact ⟨p, hp, hreflects.responses, by rw [hset]; exact hreflects.schemas,
    by rw [hset]; exact hreflects.version⟩

theorem site_refreshRoute (scopes : ScopeTree) (r : Route) :
    (refreshRoute scopes r).site = r.site := by
  unfold refreshRoute
  cases r.prepared with
  | none => rfl
  | some p =>
      dsimp only
      split <;> rfl

/-- A registered schema leaves the routes where they are. -/
theorem sites_refreshed (ready : Bool) (scopes : ScopeTree) (routes : List Route) :
    (if ready then routes.map (refreshRoute scopes) else routes).map Route.site =
      routes.map Route.site := by
  split
  · rw [List.map_map]
    exact List.map_congr_left fun r _ => site_refreshRoute scopes r
  · rfl

theorem IsPrepared.refreshRoute {e e' : Engine} {r : Route} (h : IsPrepared e r)
    (hview : e'.scopes.schemaSet r.scope = e.scopes.schemaSet r.scope ∨
      e.scopes.generation r.scope < e'.scopes.generation r.scope) :
    IsPrepared e' (refreshRoute e'.scopes r) := by
  obtain ⟨p, hp, hreflects⟩ := h
  unfold Engine.refreshRoute
  simp only [hp]
  by_cases hgeneration : e'.scopes.generation r.scope = p.schemas.generation
  · rw [if_pos hgeneration]
    rcases hview with hset | hlt
    · exact IsPrepared.carry ⟨p, hp, hreflects⟩ hset
    · rw [hreflects.schemas, ScopeTree.generation_schemaSet] at hgeneration
      omega
  · rw [if_neg hgeneration]
    exact ⟨_, rfl, hreflects.responses, rfl, rfl⟩

/-- A registration keeps what a ready engine relies on: who sees other schemas sees a greater
generation, and a new compiler finds an empty cache. -/
theorem Served.registers {e e' : Engine} (h : Served e) (hstep : Registers e e') :
    Served e' := by
  cases hstep with
  | unseen scopes hlength hview =>
      refine ⟨h.ready, placed_of_sites (e := e) rfl hlength h.placed,
        bare_of_sites (e := e) rfl h.bare, ?_, ?_⟩
      · exact fun r hr => (h.prepared r hr).carry (hview r.scope (h.placed r hr)).1
      · exact h.faithful.carry rfl rfl fun r hr => Or.inl (hview r.scope (h.placed r hr))
  | compiler scopes hlength hset =>
      refine ⟨h.ready, placed_of_sites (e := e) rfl hlength h.placed,
        bare_of_sites (e := e) rfl h.bare, ?_, ?_⟩
      · exact fun r hr => (h.prepared r hr).carry (hset r.scope)
      · refine faithful_empty _ ?_
        simp only [h.ready]
        rfl
  | schema scopes hlength hview =>
      have hsites : (if e.ready then e.routes.map (refreshRoute scopes) else e.routes).map
          Route.site = e.routes.map Route.site := sites_refreshed e.ready scopes e.routes
      refine ⟨h.ready, placed_of_sites hsites hlength h.placed, bare_of_sites hsites h.bare, ?_,
        h.faithful.carry hsites rfl fun r _ => hview r.scope⟩
      intro r' hr'
      rw [if_pos h.ready] at hr'
      obtain ⟨r, hr, rfl⟩ := List.mem_map.mp hr'
      exact (h.prepared r hr).refreshRoute ((hview r.scope).imp_left fun hsame => hsame.1)
  | route r hready hplaced hfresh =>
      rw [h.ready] at hready
      cases hready

theorem Served.withCache {e : Engine} (h : Served e) {c : Cache Serializer} (hc : Faithful e c) :
    Served { e with cache := c } where
  ready := h.ready
  placed := h.placed
  bare := h.bare
  prepared r hr := (h.prepared r hr).carry rfl
  faithful := hc.carry rfl rfl fun _ _ => Or.inl ⟨rfl, rfl⟩

/-! ## §3  Calls that serve -/

section

variable {e : Engine} {id : RouteId} {r : Route}

def resolved (e : Engine) (r : Route) (d : Response.Declaration) (status : Nat)
    (contentType : Option String) : Except BuildError (Option Serializer) :=
  match d.resolve? status contentType e.config.contentFallthrough with
  | none => .ok none
  | some slot => (e.compiled r (e.scopes.schemaSet r.scope) slot).map some

/-- The serializer of a slot keeps the cache faithful, and it is what the slot compiles to. -/
theorem Served.serializerFor (h : Served e) {p : Prepared} (hr : e.routes[id.index]? = some r)
    (hp : Reflects e r p) (status : Nat) (contentType : Option String) :
    Meets (Faithful e) (e.serializerFor id r p status contentType).run fun result c =>
      Faithful e c ∧ result = e.resolved r p.responses status contentType := by
  unfold Engine.serializerFor resolved
  cases hslot : p.responses.resolve? status contentType e.config.contentFallthrough with
  | none => exact meets_pure fun _ hc => ⟨hc, rfl⟩
  | some slot =>
      have hbare : ∀ entry ∈ p.responses.entries, entry.IsBare := by
        intro entry hentry
        have hdeclared := hp.responses
        unfold Route.declared at hdeclared
        cases hd : r.declaration.response with
        | none =>
            rw [hd] at hdeclared
            rw [← Except.ok.inj hdeclared] at hentry
            cases hentry
        | some declaration =>
            rw [hd] at hdeclared
            exact Response.Declaration.isBare_ofJson (Result.mapError_eq_ok.mp hdeclared)
              (h.bare r (List.mem_of_getElem? hr) declaration hd) entry hentry
      have hfirst := Response.Declaration.resolve?_isFirst hbare hslot
      rw [hp.schemas, hp.version]
      dsimp only
      refine meets_bindExcept (artifact_meets_compiled hr hp.responses hfirst) ?_ ?_
      · exact fun serializer => meets_pure fun c hc => ⟨hc.1, by rw [← hc.2]; rfl⟩
      · exact fun fault c hc => ⟨hc.1, by rw [← hc.2]; rfl⟩

/-- The calls of a ready engine keep the cache faithful, and each lookup comes to what the slot
compiles to. -/
theorem Served.framed (h : Served e) : Framed e (Faithful e) (fun _ _ _ => True)
    fun _ r p status contentType found =>
      found = e.resolved r p.responses status contentType where
  remembering r hr p hp := by
    obtain ⟨q, hq, hreflects⟩ := h.prepared r hr
    obtain rfl : q = p := Option.some.inj (hq.symm.trans hp)
    exact hreflects.remembers
  prepare id r hr := (prepare_meets hr).mono fun _ _ hc => ⟨hc.1, hc.2, fun _ _ => trivial⟩
  lookup id r p status contentType hr hp hschemas := by
    obtain ⟨q, hq, hreflects⟩ := h.prepared r (List.mem_of_getElem? hr)
    have hpresent : p.schemas = e.scopes.schemaSet r.scope := by
      rw [hschemas, snapshot, hq]
      exact hreflects.schemas
    refine h.serializerFor hr ⟨hp.responses, hpresent, ?_⟩ status contentType
    rw [hp.version, hpresent]

end

/-! ## §4  Runs -/

/-- **Ready engines may rely on their cache**, however they were registered. -/
theorem served_makeReady {e : Engine} (h : Registering e) (hbare : Bare e) {report : ReadyReport}
    (hready : e.makeReady.result = .ok report) : Served e.makeReady.engine := by
  obtain ⟨hcache, -, hall⟩ := prepareAll_keeps (fun _ _ hr => prepare_meets hr) e.routes 0 {}
    { cache := e.cache } (fun i r hr => by rwa [Nat.zero_add]) (faithful_empty e h.uncached)
  have hsites := sites_prepareAll e e.routes 0 {} { cache := e.cache }
  obtain ⟨routes, s, hrun, hengine⟩ := exists_of_makeReady_eq_ok hready
  rw [hrun] at hcache hsites hall
  rw [hengine]
  refine ⟨rfl, placed_of_sites (e := e) hsites (Nat.le_refl _) h.placed,
    bare_of_sites (e := e) hsites hbare, ?_, ?_⟩
  · exact fun r hr => (hall report rfl r hr).carry rfl
  · exact hcache.carry hsites rfl fun r _ => Or.inl ⟨rfl, rfl⟩

theorem Served.makeReady {e : Engine} (h : Served e) : Served e.makeReady.engine := by
  obtain ⟨hcache, hroutes, -⟩ := h.framed.prepareAll h.faithful
  have hsites := sites_prepareAll e e.routes 0 {} { cache := e.cache }
  obtain ⟨ready, hengine, hready, -⟩ := e.engine_makeReady
  rw [hengine]
  refine ⟨hready h.ready, placed_of_sites (e := e) hsites (Nat.le_refl _) h.placed,
    bare_of_sites (e := e) hsites h.bare, fun r hr => ?_,
    hcache.carry hsites rfl fun r _ => Or.inl ⟨rfl, rfl⟩⟩
  rcases hroutes r hr with hold | hnew
  · exact (h.prepared r hold).carry rfl
  · exact hnew.carry rfl

/-- No operation leaves what a ready engine relies on. -/
theorem Served.perform {e : Engine} (h : Served e) (operation : Operation) :
    Served (e.perform operation) := by
  have hcall := h.framed.perform_call h.faithful operation
  cases operation with
  | register registration => exact register_keeps h (fun _ => h.registers) registration
  | clearCache => exact h.withCache (faithful_empty e rfl)
  | ready => exact h.makeReady
  | _ =>
      obtain ⟨c, hc, heq⟩ := hcall rfl
      rw [heq]
      exact h.withCache hc

/-- **No run leaves what a ready engine relies on.** -/
theorem served_run {e : Engine} (h : Served e) (operations : List Operation) :
    Served (e.run operations) :=
  run_induct h operations fun _ operation _ _ hserved => hserved.perform operation

/-! ## §5  The cache cannot be observed -/

/-- What is serialized by compiling for this one call. -/
def uncached (e : Engine) (id : RouteId) (status : Nat) (contentType : Option String)
    (value : Json) : Except EngineError Payload :=
  match e.routes[id.index]? with
  | none => .error (.unknownRoute id)
  | some r =>
      match r.declared with
      | .error fault => .error (.build fault)
      | .ok declaration =>
          match declaration.resolve? status contentType e.config.contentFallthrough with
          | none => .ok (Payload.generic value).2
          | some slot =>
              let compiler : Compiler :=
                match r.declaration.compiler, e.scopes.compiler? r.scope with
                | some own, _ => own
                | none, some bound => bound
                | none, none => .builtIn e.config.rounding
              let context : CompileContext := {
                schema := slot.schema
                method := r.method
                url := r.url
                status := slot.selector.label
                contentType := slot.mediaType
                schemas := e.scopes.schemaSet r.scope
                document := .ofInline slot.schema }
              match compiler.compile context with
              | .error reason => .error (.build ⟨r.method, r.url,
                  .serialization slot.selector.label slot.mediaType reason⟩)
              | .ok serializer => (serializer value).mapError .serialize

/-- The compiler in force is the first of three. -/
theorem compilerFor_eq (e : Engine) (r : Route) : e.compilerFor r =
    match r.declaration.compiler, e.scopes.compiler? r.scope with
    | some own, _ => own
    | none, some bound => bound
    | none, none => .builtIn e.config.rounding := by
  unfold compilerFor
  cases r.declaration.compiler <;> cases e.scopes.compiler? r.scope <;> rfl

/-- An engine whose cache may be relied on serializes as if it had none. -/
theorem Served.serialize_eq {e : Engine} (h : Served e) (id : RouteId) (status : Nat)
    (contentType : Option String) (value : Json) :
    (e.serialize id status contentType value).result = e.uncached id status contentType value := by
  cases hr : e.routes[id.index]? with
  | none =>
      have hroute : e.route id = .error (.unknownRoute id) := by rw [route, hr]
      unfold Engine.serialize uncached
      rw [hr]
      unfold serializeStep
      rw [hroute]
      rfl
  | some r =>
      have hserialized := (h.framed.serializeStep id status contentType value { cache := e.cache }
        h.faithful).2 r hr
      rcases hserialized with ⟨hunprepared, -⟩ | ⟨p, found, hp, rfl, hresult⟩
      · obtain ⟨q, hq, -⟩ := h.prepared r (List.mem_of_getElem? hr)
        rw [hunprepared] at hq
        cases hq
      · refine hresult.trans ?_
        unfold uncached resolved
        simp only [hr, hp.responses, ← compilerFor_eq]
        cases p.responses.resolve? status contentType e.config.contentFallthrough with
        | none => rfl
        | some slot =>
            simp only [compiled, contextOf]
            cases (e.compilerFor r).compile
              ⟨slot.schema, r.method, r.url, slot.selector.label, slot.mediaType,
                e.scopes.schemaSet r.scope, .ofInline slot.schema⟩ <;> rfl

/-- **The cache cannot be observed**: an engine that was registered and made ready serializes, at
every later moment, what it would serialize by compiling for the call. -/
theorem serialize_eq_uncached {config : EngineConfig} {registrations : List Registration}
    {report : ReadyReport}
    (hbare : ∀ r ∈ ((ofConfig config).registerAll registrations).routes, ∀ declaration,
      r.declaration.response = some declaration → Response.WildcardsAreBare declaration)
    (hready : ((ofConfig config).registerAll registrations).makeReady.result = .ok report)
    (operations : List Operation) (id : RouteId) (status : Nat) (contentType : Option String)
    (value : Json) :
    ((((ofConfig config).registerAll registrations).makeReady.engine.run operations).serialize
        id status contentType value).result =
      (((ofConfig config).registerAll registrations).makeReady.engine.run operations).uncached
        id status contentType value :=
  (served_run (served_makeReady ((registering_ofConfig config).registerAll registrations) hbare
    hready) operations).serialize_eq id status contentType value

/-- A declaration with two entries of one label, one of which has a wildcard. -/
def sameLabelTwice : Json :=
  .object [
    ("2xx", .object [("content", .object [
      ("application/json", .object [("schema", .object [("type", .string "object")])]),
      ("*/*", .object [("schema", .object [])])])]),
    ("2XX", .object [("type", .string "string")])]

def oneRoute : List Registration := [
  .childScope .root "/v1",
  .addRoute ⟨1⟩ { method := "get", url := "/a", response := some sameLabelTwice }]

/-- A schema and a compiler that are bound between two calls. -/
def boundLate : List Operation := [
  .serialize ⟨0⟩ 204 none .null,
  .register (.registerSchema .root (.object [("$id", .string "urn:late")])),
  .serialize ⟨0⟩ 204 none .null,
  .register (.setCompiler .root (.custom none fun context =>
    .ok fun _ => .ok (.text context.status)))]

theorem serialize_eq_uncached_boundLate :
    (∀ r ∈ ((ofConfig {}).registerAll oneRoute).routes, ∀ declaration,
      r.declaration.response = some declaration → Response.WildcardsAreBare declaration) ∧
    ((ofConfig {}).registerAll oneRoute).makeReady.result = .ok ⟨1, 3, 0⟩ ∧
    ((((ofConfig {}).registerAll oneRoute).makeReady.engine.run boundLate).serialize
        ⟨0⟩ 204 none .null).result =
      (((ofConfig {}).registerAll oneRoute).makeReady.engine.run boundLate).uncached
        ⟨0⟩ 204 none .null := by
  have hbare : ∀ r ∈ ((ofConfig {}).registerAll oneRoute).routes, ∀ declaration,
      r.declaration.response = some declaration → Response.WildcardsAreBare declaration := by
    intro r hr declaration hd
    have hresponses : ((ofConfig {}).registerAll oneRoute).routes.map
        (fun r => r.declaration.response) = [some sameLabelTwice] := rfl
    have hmem := List.mem_map_of_mem (f := fun r : Route => r.declaration.response) hr
    rw [hresponses, List.mem_singleton, hd, Option.some.injEq] at hmem
    subst hmem
    have hkeys : ∀ key ∈ ["application/json", "*/*"],
        MediaType.normalize key = MediaType.wildcard → Text.trim key = MediaType.wildcard := by
      decide +kernel
    intro entry hentry content hcontent key hkey
    refine hkeys key.1 ?_
    rcases List.mem_cons.mp hentry with rfl | hentry
    · cases hcontent
      rcases List.mem_cons.mp hkey with rfl | hkey
      · exact List.mem_cons_self
      · rw [List.mem_singleton.mp hkey]
        exact List.mem_cons_of_mem _ List.mem_cons_self
    · rw [List.mem_singleton.mp hentry] at hcontent
      cases hcontent
  have hready : ((ofConfig {}).registerAll oneRoute).makeReady.result = .ok ⟨1, 3, 0⟩ :=
    Result.toOption_eq_some.mp (by decide +kernel)
  exact ⟨hbare, hready, serialize_eq_uncached hbare hready boundLate ⟨0⟩ 204 none .null⟩

end ReplySchema.Engine

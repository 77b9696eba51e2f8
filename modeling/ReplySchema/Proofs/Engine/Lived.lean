import ReplySchema.Proofs.Engine.Calls
import ReplySchema.Proofs.Engine.Run

/-! # What holds of every engine, however it lived

`Registering` and `Served` follow the one way on which nothing is served before the engine
is ready and no call of ready fails.  `Lived` is about all ways.  Two things survive each
of them:

* every preparation is of the route as it is declared, under schemas that the route sees
  or saw, and once the engine is ready it is of the present;
* the artifacts of a route come from compilers that were in force for it at some time.

Which compilers these are is left open: `Lived` has a class of compilers for one route as a
parameter, and an operation keeps it if the compiler in force belongs to the class.

Main statement: `lived_run`.
-/

set_option autoImplicit false

namespace ReplySchema.Engine

open Serving

/-- What holds of an engine in every state, if the compilers of a route are among some. -/
structure Lived (e : Engine) (id : RouteId) (C : Compiler → Prop) : Prop where
  placed : ∀ r ∈ e.routes, r.scope.index < e.scopes.scopes.length
  remembering : Remembering e
  prepared : e.ready = true → ∀ r ∈ e.routes, IsPrepared e r
  traced : Traced e id C e.cache

theorem lived_ofConfig (config : EngineConfig) (id : RouteId) (C : Compiler → Prop) :
    Lived (ofConfig config) id C where
  placed r hr := by cases hr
  remembering r hr := by cases hr
  prepared _ r hr := by cases hr
  traced := traced_of_unkept fun _ _ => rfl

variable {e e' : Engine} {id : RouteId} {C : Compiler → Prop}

/-! ## §1  Registrations -/

/-- A preparation is remembered as long as its route sees the same schemas, or younger ones. -/
theorem Remembers.carry {r : Route} {p : Prepared} (h : Remembers e r p)
    (hview : e'.scopes.schemaSet r.scope = e.scopes.schemaSet r.scope ∨
      e.scopes.generation r.scope < e'.scopes.generation r.scope) : Remembers e' r p where
  responses := h.responses
  version := h.version
  seen := h.seen.carry hview

theorem Remembers.refreshRoute {r : Route} (h : ∀ p, r.prepared = some p → Remembers e r p)
    (hview : e'.scopes.schemaSet r.scope = e.scopes.schemaSet r.scope ∨
      e.scopes.generation r.scope < e'.scopes.generation r.scope) {p : Prepared}
    (hp : (Engine.refreshRoute e'.scopes r).prepared = some p) :
    Remembers e' (Engine.refreshRoute e'.scopes r) p := by
  unfold Engine.refreshRoute at hp ⊢
  cases hr : r.prepared with
  | none =>
      simp only [hr] at hp
      cases hp
  | some q =>
      have hq := h q hr
      simp only [hr] at hp ⊢
      by_cases hgeneration : e'.scopes.generation r.scope = q.schemas.generation
      · rw [if_pos hgeneration] at hp ⊢
        obtain rfl : q = p := Option.some.inj (hr.symm.trans hp)
        exact hq.carry hview
      · rw [if_neg hgeneration] at hp ⊢
        obtain rfl := Option.some.inj hp
        exact ⟨hq.responses, rfl, seen_schemaSet _ _⟩

/-- A change to the scopes after which every route sees the same schemas or younger ones keeps
everything, if preparations are refreshed where the engine is ready. -/
theorem Lived.sees (h : Lived e id C) {scopes : ScopeTree}
    (hlength : e.scopes.scopes.length ≤ scopes.scopes.length)
    (hview : ∀ r ∈ e.routes, scopes.schemaSet r.scope = e.scopes.schemaSet r.scope ∨
      e.scopes.generation r.scope < scopes.generation r.scope) :
    Lived { e with
      scopes
      routes := if e.ready then e.routes.map (refreshRoute scopes) else e.routes } id C := by
  have hsites : (if e.ready then e.routes.map (refreshRoute scopes) else e.routes).map
      Route.site = e.routes.map Route.site := sites_refreshed e.ready scopes e.routes
  refine ⟨placed_of_sites hsites hlength h.placed, ?_, ?_, h.traced.carry fun r hr => ?_⟩
  · intro r' hr' p hp
    cases hready : e.ready with
    | false =>
        simp only [hready, if_neg, Bool.false_eq_true, not_false_eq_true] at hr'
        exact (h.remembering r' hr' p hp).carry (hview r' hr')
    | true =>
        simp only [hready, if_true] at hr'
        obtain ⟨r, hr, rfl⟩ := List.mem_map.mp hr'
        have hkept : Remembers { e with scopes } (refreshRoute scopes r) p :=
          Remembers.refreshRoute (fun p hp => h.remembering r hr p hp) (hview r hr) hp
        exact hkept.carry (Or.inl rfl)
  · intro hready r' hr'
    simp only at hready
    simp only [hready, if_true] at hr'
    obtain ⟨r, hr, rfl⟩ := List.mem_map.mp hr'
    have hkept : IsPrepared { e with scopes } (refreshRoute scopes r) :=
      (h.prepared hready r hr).refreshRoute (hview r hr)
    exact hkept.carry rfl
  · obtain ⟨r', hr', hsite⟩ := sites_get? (e := { e with routes := (if e.ready then
      e.routes.map (refreshRoute scopes) else e.routes) }) hsites.symm hr
    exact ⟨r', hr', hsite.symm, hview r (List.mem_of_getElem? hr)⟩

/-- A change to the scopes after which every route sees the same schemas keeps everything, with
any cache whose artifacts are traced. -/
theorem Lived.stays (h : Lived e id C) {scopes : ScopeTree}
    (hlength : e.scopes.scopes.length ≤ scopes.scopes.length)
    (hset : ∀ r ∈ e.routes, scopes.schemaSet r.scope = e.scopes.schemaSet r.scope)
    {c : Cache Serializer} (hc : Traced e id C c) :
    Lived { e with scopes, cache := c } id C where
  placed := placed_of_sites (e := e) rfl hlength h.placed
  remembering r hr p hp := (h.remembering r hr p hp).carry (Or.inl (hset r hr))
  prepared hready r hr := (h.prepared hready r hr).carry (hset r hr)
  traced := hc.carry fun r hr => ⟨r, hr, rfl, Or.inl (hset r (List.mem_of_getElem? hr))⟩

theorem Lived.registers (h : Lived e id C) (hstep : Registers e e') : Lived e' id C := by
  cases hstep with
  | unseen scopes hlength hview =>
      exact h.stays hlength (fun r hr => (hview r.scope (h.placed r hr)).1) h.traced
  | compiler scopes hlength hset =>
      refine h.stays hlength (fun r _ => hset r.scope) ?_
      split
      · exact traced_of_unkept fun _ _ => rfl
      · exact h.traced
  | schema scopes hlength hview =>
      exact h.sees hlength fun r _ => (hview r.scope).imp_left fun hsame => hsame.1
  | route r hready hplaced hfresh =>
      refine ⟨fun r' hr' => ?_, fun r' hr' p hp => ?_, fun hready' => ?_, ?_⟩
      · rcases List.mem_append.mp hr' with hr' | hr'
        · exact h.placed r' hr'
        · rw [List.mem_singleton.mp hr']
          exact hplaced
      · rcases List.mem_append.mp hr' with hr' | hr'
        · exact (h.remembering r' hr' p hp).carry (Or.inl rfl)
        · rw [List.mem_singleton.mp hr', hfresh] at hp
          cases hp
      · rw [hready] at hready'
        cases hready'
      · refine h.traced.carry fun r' hr' => ⟨r', ?_, rfl, Or.inl rfl⟩
        rw [List.getElem?_append_left (List.getElem?_eq_some_iff.mp hr').1]
        exact hr'

/-! ## §2  Making ready -/

/-- Making ready keeps everything, whether it succeeds or stops at a route. -/
theorem Lived.makeReady (h : Lived e id C) (hforce : InForce e id C) :
    Lived e.makeReady.engine id C := by
  obtain ⟨htraced, hroutes, hall⟩ := (framed_traced h.remembering hforce).prepareAll h.traced
  have hsites := sites_prepareAll e e.routes 0 {} { cache := e.cache }
  obtain ⟨ready, hengine, -, hready⟩ := e.engine_makeReady
  rw [hengine]
  refine ⟨placed_of_sites (e := e) hsites (Nat.le_refl _) h.placed, fun r hr p hp => ?_,
    fun hnow r hr => ?_, htraced.carry fun r hr => ?_⟩
  · rcases hroutes r hr with hold | ⟨q, hq, hreflects⟩
    · exact (h.remembering r hold p hp).carry (Or.inl rfl)
    · obtain rfl := Option.some.inj (hq.symm.trans hp)
      exact hreflects.remembers.carry (Or.inl rfl)
  · have hprepared : IsPrepared e r := by
      rcases hready hnow with hbefore | ⟨report, hok⟩
      · -- the routes behind one that failed are as they were
        exact (hroutes r hr).elim (h.prepared hbefore r) fun hnew => hnew
      · exact hall report hok r hr
    exact hprepared.carry rfl
  · obtain ⟨r', hr', hsite⟩ := sites_get? (e := { e with
      routes := (e.prepareAll 0 e.routes {} { cache := e.cache }).2.1 }) hsites.symm hr
    exact ⟨r', hr', hsite.symm, Or.inl rfl⟩

/-! ## §3  Runs -/

/-- An operation keeps everything if the compiler in force is among the compilers. -/
theorem Lived.perform (h : Lived e id C) (hforce : InForce e id C) (operation : Operation) :
    Lived (e.perform operation) id C := by
  have hcall := (framed_traced h.remembering hforce).perform_call h.traced operation
  cases operation with
  | register registration =>
      exact register_keeps (T := (Lived · id C)) h (fun _ => h.registers) registration
  | clearCache =>
      exact h.stays (Nat.le_refl _) (fun _ _ => rfl) (traced_of_unkept fun _ _ => rfl)
  | ready => exact h.makeReady hforce
  | _ =>
      obtain ⟨c, hc, heq⟩ := hcall rfl
      rw [heq]
      exact h.stays (Nat.le_refl _) (fun _ _ => rfl) hc

/-- **No run leaves what holds of an engine**, if the compiler in force is among the compilers at
every moment of the run. -/
theorem lived_run {e : Engine} (h : Lived e id C) (operations : List Operation)
    (hforce : ∀ front rest, operations = front ++ rest → InForce (e.run front) id C) :
    Lived (e.run operations) id C :=
  run_induct (T := (Lived · id C)) h operations fun front operation rest hsplit hlived =>
    hlived.perform (hforce front (operation :: rest) hsplit) operation

theorem lived_reachable (config : EngineConfig) (operations : List Operation) (id : RouteId) :
    Lived ((ofConfig config).run operations) id fun _ => True :=
  lived_run (lived_ofConfig config id _) operations fun _ _ _ _ _ => trivial

end ReplySchema.Engine

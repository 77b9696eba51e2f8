import ReplySchema.Proofs.Engine.Faithful

/-! # What preparation leaves behind

A preparation reads the declaration of a route, takes the schemas that the route sees,
and compiles every slot through the cache.  What it returns reflects the route as it is
(`Reflects`), and the cache stays faithful, whether the preparation succeeds or not.

The slots are compiled in their order.  `Kept` says of those that are done that their
artifacts are there, and this is what a later slot of the same key needs.
-/

set_option autoImplicit false

namespace ReplySchema.Engine

open Serving
open Response (Slot)

/-! ## §1  One artifact -/

/-- A faithful cache in which the artifacts of some slots are there, if it keeps any at all. -/
def Kept (e : Engine) (id : RouteId) (version : Version) (done : List Slot)
    (c : Cache Serializer) : Prop :=
  Faithful e c ∧ (c.enabled = true → ∀ s ∈ done, (c.get? (artifactKey id s) version).isSome = true)

theorem isFirst_or_exists {d : Response.Declaration} {done rest : List Slot} {slot : Slot}
    (hsplit : d.slots = done ++ slot :: rest) (id : RouteId) :
    d.IsFirst slot ∨ ∃ s ∈ done, artifactKey id s = artifactKey id slot := by
  unfold Response.Declaration.IsFirst Response.Declaration.firstUnder?
  rw [hsplit, List.find?_append]
  cases hfind : done.find? (fun s =>
      s.selector.label == slot.selector.label && s.mediaType == slot.mediaType) with
  | none => exact Or.inl (by simp)
  | some s =>
      have hsame := List.find?_some hfind
      simp only [Bool.and_eq_true, beq_iff_eq] at hsame
      refine Or.inr ⟨s, List.mem_of_find?_eq_some hfind, ?_⟩
      rw [artifactKey, artifactKey, hsame.1, hsame.2]

theorem isSome_get?_stored {c : Cache Serializer} {key k : ArtifactKey} {version : Version}
    {a : Serializer} (hc : c.enabled = true)
    (h : key = k ∨ (c.get? k version).isSome = true) :
    ((c.stored key version a).get? k version).isSome = true := by
  rw [Option.isSome_iff_exists]
  by_cases hkey : key = k
  · exact ⟨a, Cache.get?_eq_some.mpr (by rw [Cache.find?_stored, if_pos ⟨hc, hkey⟩])⟩
  · obtain ⟨b, hb⟩ := Option.isSome_iff_exists.mp (h.resolve_left hkey)
    refine ⟨b, Cache.get?_eq_some.mpr ?_⟩
    rw [Cache.find?_stored, if_neg fun hand => hkey hand.2]
    exact Cache.get?_eq_some.mp hb

section

variable {e : Engine} {id : RouteId} {r : Route} {d : Response.Declaration}

/-- Compiling the next slot of a declaration keeps the cache faithful. -/
theorem artifact_meets_kept (hr : e.routes[id.index]? = some r) (hd : r.declared = .ok d)
    {done rest : List Slot} {slot : Slot} (hsplit : d.slots = done ++ slot :: rest) :
    Meets (Kept e id (.ofSet (e.scopes.schemaSet r.scope)) done)
      (e.artifact id r (e.scopes.schemaSet r.scope) (.ofSet (e.scopes.schemaSet r.scope)) slot).run
      fun result c => Faithful e c ∧ ∀ serializer, result = .ok serializer →
        Kept e id (.ofSet (e.scopes.schemaSet r.scope)) (done ++ [slot]) c := by
  rintro s ⟨hfaithful, hdone⟩
  rw [run_artifact]
  cases hserved : s.cache.served? (artifactKey id slot) (.ofSet (e.scopes.schemaSet r.scope)) with
  | some serializer =>
      refine ⟨hfaithful, fun _ _ => ⟨hfaithful, fun hc t ht => ?_⟩⟩
      rcases List.mem_append.mp ht with ht | ht
      · exact hdone hc t ht
      · rw [List.mem_singleton.mp ht, (Cache.served?_eq_some.mp hserved).2]
        rfl
  | none =>
      cases hcompiled : e.compiled r (e.scopes.schemaSet r.scope) slot with
      | error fault => exact ⟨hfaithful, fun _ h => by cases h⟩
      | ok serializer =>
          dsimp only
          have hinsert : Faithful e (s.cache.stored (artifactKey id slot)
              (.ofSet (e.scopes.schemaSet r.scope)) serializer) := by
            rcases isFirst_or_exists hsplit id with hfirst | ⟨t, ht, hkey⟩
            · exact hfaithful.stored hr hd hfirst hcompiled
            · cases hc : s.cache.enabled with
              | false => rwa [Cache.stored_of_disabled hc]
              | true =>
                  -- the artifact of the slot in front would have been found
                  have hsome := hdone hc t ht
                  rw [hkey, ← Cache.served?_of_enabled hc, hserved] at hsome
                  cases hsome
          refine ⟨hinsert, fun _ _ => ⟨hinsert, fun hc t ht => ?_⟩⟩
          rw [Cache.enabled_stored] at hc
          refine isSome_get?_stored hc ?_
          rcases List.mem_append.mp ht with ht | ht
          · exact Or.inr (hdone hc t ht)
          · exact Or.inl (by rw [List.mem_singleton.mp ht])

/-- The artifact of a first slot is what the slot is compiled to. -/
theorem artifact_meets_compiled (hr : e.routes[id.index]? = some r) (hd : r.declared = .ok d)
    {slot : Slot} (hfirst : d.IsFirst slot) :
    Meets (Faithful e)
      (e.artifact id r (e.scopes.schemaSet r.scope) (.ofSet (e.scopes.schemaSet r.scope)) slot).run
      fun result c => Faithful e c ∧ result = e.compiled r (e.scopes.schemaSet r.scope) slot := by
  intro s hfaithful
  rw [run_artifact]
  cases hserved : s.cache.served? (artifactKey id slot) (.ofSet (e.scopes.schemaSet r.scope)) with
  | some serializer =>
      exact ⟨hfaithful, (hfaithful.current id r d slot serializer hr hd hfirst
        (Cache.served?_eq_some.mp hserved).2).symm⟩
  | none =>
      cases hcompiled : e.compiled r (e.scopes.schemaSet r.scope) slot with
      | error fault => exact ⟨hfaithful, rfl⟩
      | ok serializer => exact ⟨hfaithful.stored hr hd hfirst hcompiled, rfl⟩

end

/-! ## §2  One route -/

/-- Whether a preparation is that of the route as it is declared and of what it sees now. -/
structure Reflects (e : Engine) (r : Route) (p : Prepared) : Prop where
  responses : r.declared = .ok p.responses
  schemas : p.schemas = e.scopes.schemaSet r.scope
  version : p.version = .ofSet (e.scopes.schemaSet r.scope)

theorem outfit_eq (e : Engine) (r : Route) : e.outfit r = r.declared >>= fun responses =>
    InputValidators.compile (e.scopes.schemaSet r.scope) r.method r.url r.declaration.input >>=
      fun validators => pure ⟨responses, validators, e.scopes.schemaSet r.scope,
        .ofSet (e.scopes.schemaSet r.scope)⟩ := by
  unfold outfit Route.declared
  cases r.declaration.response <;> rfl

theorem reflects_outfit {e : Engine} {r : Route} {p : Prepared} (h : e.outfit r = .ok p) :
    Reflects e r p := by
  rw [outfit_eq] at h
  obtain ⟨responses, hresponses, h⟩ := Result.bind_eq_ok.mp h
  obtain ⟨validators, -, h⟩ := Result.bind_eq_ok.mp h
  rw [Result.pure_eq_ok] at h
  subst h
  exact ⟨hresponses, rfl, rfl⟩

theorem run_prepare_eq_ok {e : Engine} {id : RouteId} {r : Route} {keeping : Keeping} {p : Prepared}
    {s s' : Serving} : (e.prepare id r keeping).run.run s = (.ok p, s') ↔ e.outfit r = .ok p ∧
      (p.responses.slots.forM (e.prepareSlot id r keeping p)).run.run s = (.ok (), s') := by
  unfold prepare
  cases houtfit : e.outfit r with
  | error fault =>
      constructor
      · nofun
      · rintro ⟨hne, -⟩
        cases hne
  | ok q =>
      dsimp only
      rw [Result.run_bind]
      constructor
      · intro hrun
        rcases hslots : (q.responses.slots.forM (e.prepareSlot id r keeping q)).run.run s with
          ⟨result, s₁⟩
        rw [hslots] at hrun
        cases result with
        | error fault => cases hrun
        | ok done =>
            obtain ⟨hq, rfl⟩ := Prod.mk.inj hrun
            obtain rfl : q = p := Except.ok.inj hq
            exact ⟨rfl, hslots⟩
      · rintro ⟨hq, hslots⟩
        obtain rfl : q = p := Except.ok.inj hq
        rw [hslots]
        rfl

theorem prepareSlots_meets {e : Engine} {id : RouteId} {r : Route} {p : Prepared}
    (hr : e.routes[id.index]? = some r) (hp : Reflects e r p) :
    ∀ {rest done : List Slot}, p.responses.slots = done ++ rest →
      Meets (Kept e id (.ofSet (e.scopes.schemaSet r.scope)) done)
        (rest.forM (e.prepareSlot id r .kept p)).run fun _ c => Faithful e c
  | [], done, _ => meets_pure fun _ hc => hc.1
  | slot :: rest, done, hsplit => by
      have hslot : Meets (Kept e id (.ofSet (e.scopes.schemaSet r.scope)) done)
          (e.prepareSlot id r .kept p slot).run fun result c => Faithful e c ∧
            (result = .ok () →
              Kept e id (.ofSet (e.scopes.schemaSet r.scope)) (done ++ [slot]) c) := by
        unfold prepareSlot
        cases p.schemas.check (.ofInline slot.schema) with
        | error fault => exact meets_pure fun _ hc => ⟨hc.1, fun h => by cases h⟩
        | ok _ =>
            rw [hp.schemas, hp.version]
            refine meets_bindExcept (artifact_meets_kept hr hp.responses hsplit) ?_ ?_
            · exact fun serializer => meets_pure fun _ hc => ⟨hc.1, fun _ => hc.2 serializer rfl⟩
            · exact fun _ _ hc => ⟨hc.1, fun h => by cases h⟩
      refine meets_bindExcept hslot (fun _ => ?_) fun _ _ hc => hc.1
      intro s hs
      exact prepareSlots_meets hr hp (by rw [hsplit]; simp) s (hs.2 rfl)

/-- A preparation keeps the cache faithful, and what it returns reflects the route. -/
theorem prepare_meets {e : Engine} {id : RouteId} {r : Route}
    (hr : e.routes[id.index]? = some r) :
    Meets (Faithful e) (e.prepare id r .kept).run
      fun result c => Faithful e c ∧ ∀ p, result = .ok p → Reflects e r p := by
  unfold prepare
  cases hp : e.outfit r with
  | error fault => exact meets_pure fun _ hc => ⟨hc, fun _ h => by cases h⟩
  | ok p =>
      have hreflects := reflects_outfit hp
      have hslots : Meets (Kept e id (.ofSet (e.scopes.schemaSet r.scope)) [])
          (p.responses.slots.forM (e.prepareSlot id r .kept p)).run fun _ c => Faithful e c :=
        prepareSlots_meets hr hreflects rfl
      refine meets_bindExcept (R := fun _ c => Faithful e c) ?_ ?_ ?_
      · exact fun s hs => hslots s ⟨hs, fun _ _ h => by cases h⟩
      · refine fun _ => meets_pure fun _ hc => ⟨hc, fun q h => ?_⟩
        cases h
        exact hreflects
      · exact fun _ _ hc => ⟨hc, fun _ h => by cases h⟩

/-! ## §3  All routes -/

def IsPrepared (e : Engine) (r : Route) : Prop := ∃ p, r.prepared = some p ∧ Reflects e r p

theorem sites_prepareAll (e : Engine) : ∀ (rest : List Route) (index : Nat) (report : ReadyReport)
    (s : Serving), (e.prepareAll index rest report s).2.1.map Route.site = rest.map Route.site
  | [], _, _, _ => rfl
  | r :: rest, index, report, s => by
      unfold prepareAll
      rcases ((e.prepare ⟨index⟩ r .kept).run).run s with ⟨result, s'⟩
      cases result with
      | error fault => rfl
      | ok p =>
          exact congrArg (r.site :: ·) (sites_prepareAll e rest (index + 1) (report.add p) s')

/-- Making ready keeps what each preparation keeps of the cache; each route is left as it was or is
prepared, and if all goes well each is prepared. -/
theorem prepareAll_keeps {e : Engine} {P : Cache Serializer → Prop}
    (hprepare : ∀ id r, e.routes[id.index]? = some r → Meets P (e.prepare id r .kept).run
      fun result c => P c ∧ ∀ p, result = .ok p → Reflects e r p) :
    ∀ (rest : List Route) (index : Nat) (report : ReadyReport)
      (s : Serving), (∀ i r, rest[i]? = some r → e.routes[index + i]? = some r) →
        P s.cache →
        P (e.prepareAll index rest report s).2.2.cache ∧
          (∀ r ∈ (e.prepareAll index rest report s).2.1, r ∈ rest ∨ IsPrepared e r) ∧
          (∀ done, (e.prepareAll index rest report s).1 = .ok done →
            ∀ r ∈ (e.prepareAll index rest report s).2.1, IsPrepared e r)
  | [], index, report, s, _, hs => ⟨hs, fun _ h => Or.inl h, fun _ _ _ h => by cases h⟩
  | r :: rest, index, report, s, hroutes, hs => by
      have hr : e.routes[(⟨index⟩ : RouteId).index]? = some r := hroutes 0 r rfl
      obtain ⟨hcache, hprepared⟩ := hprepare ⟨index⟩ r hr s hs
      unfold prepareAll
      rcases hrun : ((e.prepare ⟨index⟩ r .kept).run).run s with ⟨result, s'⟩
      rw [hrun] at hcache hprepared
      cases result with
      | error fault => exact ⟨hcache, fun _ h => Or.inl h, fun _ h => by cases h⟩
      | ok p =>
          have hreflects : IsPrepared e { r with prepared := some p } :=
            ⟨p, rfl, (hprepared p rfl).responses, (hprepared p rfl).schemas,
              (hprepared p rfl).version⟩
          obtain ⟨hcache', hroutes', hall⟩ :=
            prepareAll_keeps hprepare rest (index + 1) (report.add p) s'
              (fun i r' h => by rw [Nat.add_assoc, Nat.add_comm 1]; exact hroutes (i + 1) r' h)
              hcache
          refine ⟨hcache', ?_, ?_⟩
          · intro r' hr'
            rcases List.mem_cons.mp hr' with rfl | hr'
            · exact Or.inr hreflects
            · exact (hroutes' r' hr').imp_left fun h => List.mem_cons_of_mem _ h
          · intro done hdone r' hr'
            rcases List.mem_cons.mp hr' with rfl | hr'
            · exact hreflects
            · exact hall done hdone r' hr'

/-- Where making ready succeeds every route was prepared, and the engine is ready with them. -/
theorem exists_of_makeReady_eq_ok {e : Engine} {report : ReadyReport}
    (h : e.makeReady.result = .ok report) : ∃ routes s,
      e.prepareAll 0 e.routes {} { cache := e.cache } = (.ok report, routes, s) ∧
      e.makeReady.engine = { e with routes, cache := s.cache, ready := true } := by
  unfold makeReady at h ⊢
  rcases hrun : e.prepareAll 0 e.routes {} { cache := e.cache } with ⟨result, routes, s⟩
  rw [hrun] at h
  cases result with
  | error fault => cases h
  | ok done =>
      obtain rfl : done = report := Except.ok.inj h
      exact ⟨routes, s, rfl, rfl⟩

/-- Making ready changes the routes, the cache and whether the engine is ready, and nothing else.  A
ready engine stays ready, and no other becomes so unless all goes well. -/
theorem engine_makeReady (e : Engine) : ∃ ready, e.makeReady.engine =
      { e with
        routes := (e.prepareAll 0 e.routes {} { cache := e.cache }).2.1
        cache := (e.prepareAll 0 e.routes {} { cache := e.cache }).2.2.cache
        ready } ∧
    (e.ready = true → ready = true) ∧ (ready = true → e.ready = true ∨
      ∃ report, (e.prepareAll 0 e.routes {} { cache := e.cache }).1 = .ok report) := by
  unfold makeReady
  rcases e.prepareAll 0 e.routes {} { cache := e.cache } with ⟨result, routes, s⟩
  cases result with
  | error fault => exact ⟨e.ready, rfl, id, Or.inl⟩
  | ok report => exact ⟨true, rfl, fun _ => rfl, fun _ => Or.inr ⟨report, rfl⟩⟩

end ReplySchema.Engine

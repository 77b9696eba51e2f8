import ReplySchema.Proofs.Engine.Prepared

/-! # What making ready leaves behind

Making ready compiles every slot of every route and keeps what it compiled, if the cache keeps
anything.  A route is *stocked* if it is prepared as it would be prepared now and the serializers
of all its slots are in the cache.

* §1 follows a preparation and says that it stocks its route, whatever the cache held before.
* §2 says the same of all routes, and that preparing stocked routes once more changes nothing.

Main statements: `equipped_makeReady` and `Equipped.makeReady_eq`.
-/

set_option autoImplicit false

namespace ReplySchema

open Serving
open Response (Slot)

namespace Engine

/-! ## §1  What a preparation leaves in the cache -/

/-- What preparing a route may do to the cache: it keeps more under the keys of the route, and it
leaves all other keys alone. -/
structure Grows (id : RouteId) (version : Version) (c c' : Cache Serializer) : Prop where
  enabled : c'.enabled = c.enabled
  others : ∀ key : ArtifactKey, key.route ≠ id →
    Table.find? key c'.entries = Table.find? key c.entries
  keeps : ∀ key, (c.served? key version).isSome = true → (c'.served? key version).isSome = true

theorem Grows.refl (id : RouteId) (version : Version) (c : Cache Serializer) :
    Grows id version c c :=
  ⟨rfl, fun _ _ => rfl, fun _ h => h⟩

theorem Grows.trans {id : RouteId} {version : Version} {c c' c'' : Cache Serializer}
    (h : Grows id version c c') (h' : Grows id version c' c'') : Grows id version c c'' where
  enabled := h'.enabled.trans h.enabled
  others key hkey := (h'.others key hkey).trans (h.others key hkey)
  keeps key hkey := h'.keeps key (h.keeps key hkey)

theorem grows_stored (id : RouteId) (version : Version) (c : Cache Serializer) (slot : Slot)
    (serializer : Serializer) :
    Grows id version c (c.stored (artifactKey id slot) version serializer) where
  enabled := Cache.enabled_stored _ version serializer c
  others key hkey := by
    rw [Cache.find?_stored, if_neg]
    rintro ⟨-, rfl⟩
    exact hkey rfl
  keeps key hkey := by
    -- an artifact may be replaced by another of the same version
    cases hc : c.enabled with
    | false => rwa [Cache.stored_of_disabled hc]
    | true =>
        rw [Cache.served?_of_enabled hc] at hkey
        rw [Cache.served?_of_enabled ((Cache.enabled_stored _ version serializer c).trans hc)]
        exact isSome_get?_stored hc (Or.inr hkey)

section

variable {e : Engine} {id : RouteId} {r : Route}

/-- The artifact of a slot is in the cache once it was asked for, if the cache keeps anything. -/
theorem artifact_grows (schemas : Schema.Set) (version : Version) (slot : Slot) (s : Serving)
    {result : Except BuildError Serializer} {s' : Serving}
    (hrun : (e.artifact id r schemas version slot).run.run s = (result, s')) :
    Grows id version s.cache s'.cache ∧ (s.cache.enabled = true → result.isOk = true →
      (s'.cache.served? (artifactKey id slot) version).isSome = true) := by
  rw [run_artifact] at hrun
  cases hserved : s.cache.served? (artifactKey id slot) version with
  | some serializer =>
      simp only [hserved] at hrun
      obtain ⟨rfl, rfl⟩ := Prod.mk.inj hrun
      exact ⟨.refl _ _ _, fun _ _ => by rw [hserved]; rfl⟩
  | none =>
      simp only [hserved] at hrun
      obtain ⟨rfl, rfl⟩ := Prod.mk.inj hrun
      cases e.compiled r schemas slot with
      | error fault => exact ⟨.refl _ _ _, fun _ h => by cases h⟩
      | ok serializer =>
          refine ⟨grows_stored id version s.cache slot serializer, fun hc _ => ?_⟩
          rw [Cache.served?_stored_self, if_pos hc]
          rfl

/-- Whether the schema of a slot passes the check and its serializer is in a cache. -/
def HasSlot (c : Cache Serializer) (id : RouteId) (p : Prepared) (slot : Slot) : Prop :=
  p.schemas.check (.ofInline slot.schema) = .ok () ∧
    (c.served? (artifactKey id slot) p.version).isSome = true

theorem run_prepareSlot_of_fault {keeping : Keeping} {p : Prepared} {slot : Slot}
    {fault : SchemaError} (hcheck : p.schemas.check (.ofInline slot.schema) = .error fault)
    (s : Serving) : (e.prepareSlot id r keeping p slot).run.run s =
      (.error (r.error (.schema fault)), s) := by
  unfold prepareSlot
  simp only [hcheck]
  rfl

theorem run_prepareSlot {p : Prepared} {slot : Slot}
    (hcheck : p.schemas.check (.ofInline slot.schema) = .ok ()) (s : Serving) :
    (e.prepareSlot id r .kept p slot).run.run s =
      ((((e.artifact id r p.schemas p.version slot).run.run s).1.map fun _ => ()),
        ((e.artifact id r p.schemas p.version slot).run.run s).2) := by
  unfold prepareSlot
  simp only [hcheck]
  rw [Result.run_bind]
  rcases (e.artifact id r p.schemas p.version slot).run.run s with ⟨result, s'⟩
  cases result <;> rfl

theorem prepareSlot_grows {p : Prepared} {slot : Slot} {s s' : Serving}
    {result : Except BuildError Unit}
    (hrun : (e.prepareSlot id r .kept p slot).run.run s = (result, s')) :
    Grows id p.version s.cache s'.cache ∧
      (s.cache.enabled = true → result = .ok () → HasSlot s'.cache id p slot) := by
  cases hcheck : p.schemas.check (.ofInline slot.schema) with
  | error fault =>
      rw [run_prepareSlot_of_fault hcheck] at hrun
      obtain ⟨rfl, rfl⟩ := Prod.mk.inj hrun
      exact ⟨.refl _ _ _, fun _ h => by cases h⟩
  | ok checked =>
      rw [run_prepareSlot hcheck] at hrun
      rcases hartifact : (e.artifact id r p.schemas p.version slot).run.run s with ⟨made, s₁⟩
      obtain ⟨hgrows, hkept⟩ := artifact_grows p.schemas p.version slot s hartifact
      rw [hartifact, Prod.mk.injEq] at hrun
      obtain ⟨rfl, rfl⟩ := hrun
      refine ⟨hgrows, fun hc hok => ⟨hcheck, hkept hc ?_⟩⟩
      cases made with
      | error fault => cases hok
      | ok serializer => rfl

theorem prepareSlots_grows {p : Prepared} : ∀ {slots : List Slot} {s s' : Serving}
    {result : Except BuildError Unit},
    (slots.forM (e.prepareSlot id r .kept p)).run.run s = (result, s') →
    Grows id p.version s.cache s'.cache ∧
      (s.cache.enabled = true → result = .ok () → ∀ slot ∈ slots, HasSlot s'.cache id p slot)
  | [], s, s', result, hrun => by
      obtain ⟨rfl, rfl⟩ := Prod.mk.inj hrun
      exact ⟨.refl _ _ _, fun _ _ slot h => by cases h⟩
  | slot :: rest, s, s', result, hrun => by
      rcases hslot : (e.prepareSlot id r .kept p slot).run.run s with ⟨first, s₁⟩
      obtain ⟨hgrows, hfirst⟩ := prepareSlot_grows hslot
      rw [run_forM_cons, hslot] at hrun
      cases first with
      | error fault =>
          obtain ⟨rfl, rfl⟩ := Prod.mk.inj hrun
          exact ⟨hgrows, fun _ h => by cases h⟩
      | ok done =>
          obtain ⟨hgrows', hrest⟩ := prepareSlots_grows hrun
          refine ⟨hgrows.trans hgrows', fun hc hok t ht => ?_⟩
          rcases List.mem_cons.mp ht with rfl | ht
          · -- the slots behind leave its artifact in the cache
            obtain ⟨hcheck, hkept⟩ := hfirst hc rfl
            exact ⟨hcheck, hgrows'.keeps _ hkept⟩
          · exact hrest (hgrows.enabled.trans hc) hok t ht

end

/-- Whether a preparation is the one that a route would get now, and all that it needs is in a
cache. -/
structure Stocked (e : Engine) (c : Cache Serializer) (id : RouteId) (r : Route) (p : Prepared) :
    Prop where
  prepared : r.prepared = some p
  outfit : e.outfit r = .ok p
  slots : ∀ slot ∈ p.responses.slots, HasSlot c id p slot

/-- A stocked route stays so as long as its own keys are left alone. -/
theorem Stocked.carry {e e' : Engine} {c c' : Cache Serializer} {id : RouteId} {r : Route}
    {p : Prepared} (h : Stocked e c id r p) (hscopes : e'.scopes = e.scopes)
    (henabled : c'.enabled = c.enabled) (hc : ∀ key : ArtifactKey, key.route = id →
      Table.find? key c'.entries = Table.find? key c.entries) : Stocked e' c' id r p where
  prepared := h.prepared
  outfit := by
    rw [← h.outfit]
    unfold Engine.outfit
    rw [hscopes]
  slots slot hslot := by
    obtain ⟨hcheck, hkept⟩ := h.slots slot hslot
    refine ⟨hcheck, ?_⟩
    unfold Cache.served? Cache.get? at hkept ⊢
    rw [hc (artifactKey id slot) rfl, henabled]
    exact hkept

theorem prepare_stocks {e : Engine} {id : RouteId} {r : Route} {p : Prepared} {s s' : Serving}
    (hrun : (e.prepare id r .kept).run.run s = (.ok p, s')) :
    Grows id p.version s.cache s'.cache ∧ (s.cache.enabled = true →
      Stocked e s'.cache id { r with prepared := some p } p) := by
  obtain ⟨houtfit, hslots⟩ := run_prepare_eq_ok.mp hrun
  obtain ⟨hgrows, hkept⟩ := prepareSlots_grows hslots
  exact ⟨hgrows, fun hc => ⟨rfl, houtfit, hkept hc rfl⟩⟩

/-! ## §2  All routes -/

/-- A report to which the preparations of some routes were added. -/
def countAll (report : ReadyReport) (routes : List Route) : ReadyReport :=
  (routes.filterMap Route.prepared).foldl ReadyReport.add report

/-- Whether routes, the first of which has the given index, are stocked. -/
def AllStocked (e : Engine) (c : Cache Serializer) (index : Nat) (routes : List Route) : Prop :=
  ∀ i r, routes[i]? = some r → ∃ p, Stocked e c ⟨index + i⟩ r p

theorem allStocked_cons {e : Engine} {c : Cache Serializer} {index : Nat} {r : Route}
    {rest : List Route} : AllStocked e c index (r :: rest) ↔
      (∃ p, Stocked e c ⟨index⟩ r p) ∧ AllStocked e c (index + 1) rest := by
  constructor
  · intro h
    refine ⟨h 0 r rfl, fun i r' hr' => ?_⟩
    have hnext := h (i + 1) r' hr'
    rwa [show index + (i + 1) = index + 1 + i by omega] at hnext
  · rintro ⟨hfirst, hrest⟩ i r' hr'
    cases i with
    | zero =>
        obtain rfl : r = r' := Option.some.inj hr'
        exact hfirst
    | succ i =>
        have hnext := hrest i r' hr'
        rwa [show index + 1 + i = index + (i + 1) by omega] at hnext

/-- **Making ready stocks every route** if it succeeds, and reports what it prepared. -/
theorem prepareAll_stocks {e : Engine} : ∀ {rest : List Route} {index : Nat}
    {report done : ReadyReport} {s s' : Serving} {routes : List Route},
    s.cache.enabled = true → e.prepareAll index rest report s = (.ok done, routes, s') →
    s'.cache.enabled = true ∧ (∀ key : ArtifactKey, key.route.index < index →
        Table.find? key s'.cache.entries = Table.find? key s.cache.entries) ∧
      AllStocked e s'.cache index routes ∧ done = countAll report routes
  | [], index, report, done, s, s', routes, hc, hrun => by
      simp only [prepareAll, Prod.mk.injEq, Except.ok.injEq] at hrun
      obtain ⟨rfl, rfl, rfl⟩ := hrun
      exact ⟨hc, fun _ _ => rfl, fun i r hr => by simp at hr, rfl⟩
  | r :: rest, index, report, done, s, s', routes, hc, hrun => by
      unfold prepareAll at hrun
      rcases hprepare : ((e.prepare ⟨index⟩ r .kept).run).run s with ⟨result, s₁⟩
      rw [hprepare] at hrun
      cases result with
      | error fault =>
          simp only [Prod.mk.injEq, reduceCtorEq, false_and] at hrun
      | ok p =>
          rcases hmore : e.prepareAll (index + 1) rest (report.add p) s₁ with ⟨last, routes', s₂⟩
          simp only [hmore, Prod.mk.injEq] at hrun
          obtain ⟨rfl, rfl, rfl⟩ := hrun
          obtain ⟨hgrows, hstocked⟩ := prepare_stocks hprepare
          have hc₁ := hgrows.enabled.trans hc
          obtain ⟨henabled, hothers, hall, hdone⟩ := prepareAll_stocks hc₁ hmore
          refine ⟨henabled, fun key hkey => ?_, allStocked_cons.mpr ⟨⟨p, ?_⟩, hall⟩, hdone⟩
          · have hne : key.route ≠ ⟨index⟩ := by
              intro heq
              rw [heq] at hkey
              exact Nat.lt_irrefl _ hkey
            rw [hothers key (Nat.lt_succ_of_lt hkey), hgrows.others key hne]
          · -- the routes behind have other keys
            refine (hstocked hc).carry rfl (henabled.trans hc₁.symm) fun key hkey => hothers key ?_
            rw [hkey]
            exact Nat.lt_succ_self index

theorem run_forM_unchanged {ε α : Type} {step : α → Serve ε Unit} {s : Serving} :
    ∀ {xs : List α}, (∀ x ∈ xs, (step x).run.run s = (.ok (), s)) →
      (xs.forM step).run.run s = (.ok (), s)
  | [], _ => rfl
  | x :: xs, h => by
      rw [run_forM_cons, h x List.mem_cons_self]
      exact run_forM_unchanged fun y hy => h y (List.mem_cons_of_mem _ hy)

theorem run_artifact_of_isSome {e : Engine} {id : RouteId} {r : Route} {schemas : Schema.Set}
    {version : Version} {slot : Slot} {s : Serving}
    (h : (s.cache.served? (artifactKey id slot) version).isSome = true) :
    ∃ serializer, (e.artifact id r schemas version slot).run.run s = (.ok serializer, s) := by
  obtain ⟨serializer, hserved⟩ := Option.isSome_iff_exists.mp h
  exact ⟨serializer, by rw [run_artifact, hserved]⟩

/-- Preparing a stocked route once more comes to the same preparation and changes nothing. -/
theorem Stocked.run_prepare {e : Engine} {id : RouteId} {r : Route} {p : Prepared} {s : Serving}
    (h : Stocked e s.cache id r p) : (e.prepare id r .kept).run.run s = (.ok p, s) := by
  have hslots : (p.responses.slots.forM (e.prepareSlot id r .kept p)).run.run s = (.ok (), s) := by
    refine run_forM_unchanged fun slot hslot => ?_
    obtain ⟨hcheck, hkept⟩ := h.slots slot hslot
    obtain ⟨serializer, hrun⟩ := run_artifact_of_isSome hkept
    rw [run_prepareSlot hcheck, hrun]
    rfl
  exact run_prepare_eq_ok.mpr ⟨h.outfit, hslots⟩

theorem run_prepareAll_of_stocked {e : Engine} {s : Serving} : ∀ {rest : List Route} {index : Nat}
    (report : ReadyReport), AllStocked e s.cache index rest →
      e.prepareAll index rest report s = (.ok (countAll report rest), rest, s)
  | [], _, _, _ => rfl
  | r :: rest, index, report, h => by
      obtain ⟨⟨p, hp⟩, hrest⟩ := allStocked_cons.mp h
      have hcount : countAll report (r :: rest) = countAll (report.add p) rest := by
        rw [countAll, List.filterMap_cons, hp.prepared]
        rfl
      have hsame : { r with prepared := some p } = r := by rw [← hp.prepared]
      unfold prepareAll
      simp only [hp.run_prepare, run_prepareAll_of_stocked (report.add p) hrest, hsame, hcount]

/-- Whether an engine is ready and has all that its routes need at hand. -/
structure Equipped (e : Engine) : Prop where
  ready : e.ready = true
  stocked : AllStocked e e.cache 0 e.routes

/-- An engine that was just made ready is equipped, whatever it was before. -/
theorem equipped_makeReady {e : Engine} (hcache : e.cache.enabled = true) {report : ReadyReport}
    (hready : e.makeReady.result = .ok report) :
    Equipped e.makeReady.engine ∧ report = countAll {} e.makeReady.engine.routes := by
  obtain ⟨routes, s, hrun, hengine⟩ := exists_of_makeReady_eq_ok hready
  obtain ⟨-, -, hall, hcount⟩ := prepareAll_stocks hcache hrun
  rw [hengine]
  refine ⟨⟨rfl, fun i r hr => ?_⟩, hcount⟩
  obtain ⟨p, hp⟩ := hall i r hr
  exact ⟨p, hp.carry rfl rfl fun _ _ => rfl⟩

theorem Equipped.makeReady_eq {e : Engine} (h : Equipped e) :
    e.makeReady = ⟨.ok (countAll {} e.routes), e, []⟩ := by
  have hrun : e.prepareAll 0 e.routes {} { cache := e.cache } =
      (.ok (countAll {} e.routes), e.routes, { cache := e.cache }) :=
    run_prepareAll_of_stocked {} h.stocked
  unfold makeReady
  rw [hrun]
  dsimp only
  rw [← h.ready]

end Engine

end ReplySchema

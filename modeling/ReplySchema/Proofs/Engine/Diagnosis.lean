import ReplySchema.Proofs.Engine.Operation
import ReplySchema.Proofs.Engine.Stocking
import ReplySchema.Proofs.Engine.Trial
import ReplySchema.Proofs.Serializer.Gate

/-! # What a diagnosis says about making ready

A diagnosis compiles every slot by itself.  Making ready asks the cache first, so that a slot whose
key an earlier slot of the route has is never compiled: it is served what the earlier one was
compiled to.  The two disagree on a route whose slot of that kind has a schema that cannot be
compiled, and on no other.

* §1 says what making ready comes to if nothing is kept yet (`makeReady_result`).
* §2 compares it with what a diagnosis tries (`kept_eq_tried`).
* §3 puts the routes together.

Main statements: `diagnosis_predicts_ready`, and `not_diagnosis_predicts_ready` for the routes
that skip a slot.
-/

set_option autoImplicit false

namespace ReplySchema

open Serving
open Response (Slot)

/-- What tells apart the artifacts of one route. -/
def Response.Slot.key (slot : Slot) : String × Option String :=
  (slot.selector.label, slot.mediaType)

def Response.Slot.Repeats (slot : Slot) (done : List Slot) : Prop := ∃ t ∈ done, t.key = slot.key

instance (slot : Slot) (done : List Slot) : Decidable (slot.Repeats done) :=
  inferInstanceAs (Decidable (∃ t ∈ done, t.key = slot.key))

theorem Cache.get?_stored {α : Type} (key k : ArtifactKey) (version : Version) (a : α)
    (c : Cache α) : (c.stored key version a).get? k version =
      if c.enabled ∧ key = k then some a else c.get? k version := by
  unfold get?
  rw [Cache.find?_stored]
  split
  · simp
  · rfl

namespace Engine

theorem artifactKey_eq_iff {id : RouteId} {slot slot' : Slot} :
    artifactKey id slot = artifactKey id slot' ↔ slot.key = slot'.key := by
  simp only [artifactKey, Response.Slot.key, ArtifactKey.mk.injEq, Prod.mk.injEq, true_and]

/-! ## §1  Making ready from an empty cache -/

/-- What keeping a slot behind others comes to: the check of its references, and then the compiler,
unless the artifact of one of the others is found. -/
def keepSlot (e : Engine) (r : Route) (schemas : Schema.Set) (done : List Slot) (slot : Slot) :
    Except BuildError Unit :=
  match schemas.check (.ofInline slot.schema) with
  | .error fault => .error (r.error (.schema fault))
  | .ok _ =>
      if e.cache.enabled = true ∧ slot.Repeats done then .ok ()
      else (e.compiled r schemas slot).map fun _ => ()

/-- What keeping slots behind others comes to. -/
def keepSlots (e : Engine) (r : Route) (schemas : Schema.Set) :
    List Slot → List Slot → Except BuildError Unit
  | _, [] => .ok ()
  | done, slot :: rest =>
      e.keepSlot r schemas done slot >>= fun _ => keepSlots e r schemas (done ++ [slot]) rest

/-- What keeping a route of which nothing is kept yet comes to. -/
def kept (e : Engine) (r : Route) : Except BuildError Prepared := do
  let p ← e.outfit r
  e.keepSlots r p.schemas [] p.responses.slots
  return p

section

variable {e : Engine} {id : RouteId} {r : Route}

/-- Whether the artifacts of a route that are in a cache are those of some slots. -/
structure HoldsOnly (e : Engine) (id : RouteId) (version : Version) (done : List Slot)
    (c : Cache Serializer) : Prop where
  enabled : c.enabled = e.cache.enabled
  isSome_iff : ∀ slot, (c.get? (artifactKey id slot) version).isSome = true ↔
    e.cache.enabled = true ∧ slot.Repeats done

theorem holdsOnly_nil {version : Version} {c : Cache Serializer}
    (henabled : c.enabled = e.cache.enabled)
    (hnone : ∀ key : ArtifactKey, key.route = id → Table.find? key c.entries = none) :
    HoldsOnly e id version [] c where
  enabled := henabled
  isSome_iff slot := by
    have hget : c.get? (artifactKey id slot) version = none := by
      unfold Cache.get?
      rw [hnone _ rfl]
      rfl
    rw [hget]
    constructor
    · nofun
    · rintro ⟨-, t, ht, -⟩
      cases ht

theorem HoldsOnly.of_repeats {version : Version} {done : List Slot} {c : Cache Serializer}
    (h : HoldsOnly e id version done c) {slot : Slot} (hslot : slot.Repeats done) :
    HoldsOnly e id version (done ++ [slot]) c where
  enabled := h.enabled
  isSome_iff other := by
    rw [h.isSome_iff]
    refine and_congr_right fun _ => ⟨?_, ?_⟩
    · rintro ⟨t, ht, hkey⟩
      exact ⟨t, List.mem_append_left _ ht, hkey⟩
    · rintro ⟨t, ht, hkey⟩
      rcases List.mem_append.mp ht with ht | ht
      · exact ⟨t, ht, hkey⟩
      · obtain ⟨t', ht', hkey'⟩ := hslot
        rw [List.mem_singleton.mp ht] at hkey
        exact ⟨t', ht', hkey'.trans hkey⟩

theorem HoldsOnly.stored {version : Version} {done : List Slot} {c : Cache Serializer}
    (h : HoldsOnly e id version done c) (slot : Slot) (serializer : Serializer) :
    HoldsOnly e id version (done ++ [slot])
      (c.stored (artifactKey id slot) version serializer) where
  enabled := (Cache.enabled_stored _ version serializer c).trans h.enabled
  isSome_iff other := by
    simp only [Cache.get?_stored, h.enabled, artifactKey_eq_iff]
    by_cases hkey : e.cache.enabled = true ∧ slot.key = other.key
    · rw [if_pos hkey]
      refine iff_of_true rfl ⟨hkey.1, slot, ?_, hkey.2⟩
      exact List.mem_append_right _ (List.mem_singleton.mpr rfl)
    · rw [if_neg hkey, h.isSome_iff]
      refine and_congr_right fun henabled => ⟨?_, ?_⟩
      · rintro ⟨t, ht, htkey⟩
        exact ⟨t, List.mem_append_left _ ht, htkey⟩
      · rintro ⟨t, ht, htkey⟩
        rcases List.mem_append.mp ht with ht | ht
        · exact ⟨t, ht, htkey⟩
        · rw [List.mem_singleton.mp ht] at htkey
          exact absurd ⟨henabled, htkey⟩ hkey

theorem run_prepareSlot_kept {p : Prepared} {done : List Slot} {slot : Slot} {s s' : Serving}
    {result : Except BuildError Unit} (h : HoldsOnly e id p.version done s.cache)
    (hrun : (e.prepareSlot id r .kept p slot).run.run s = (result, s')) :
    result = e.keepSlot r p.schemas done slot ∧
      (result = .ok () → HoldsOnly e id p.version (done ++ [slot]) s'.cache) := by
  unfold keepSlot
  cases hcheck : p.schemas.check (.ofInline slot.schema) with
  | error fault =>
      rw [run_prepareSlot_of_fault hcheck] at hrun
      obtain ⟨rfl, rfl⟩ := Prod.mk.inj hrun
      exact ⟨rfl, nofun⟩
  | ok checked =>
      have hsome := h.isSome_iff slot
      rw [run_prepareSlot hcheck, run_artifact] at hrun
      dsimp only
      cases hserved : s.cache.served? (artifactKey id slot) p.version with
      | some serializer =>
          -- what is found can only be the artifact of a slot in front of this one
          have hrepeats : e.cache.enabled = true ∧ slot.Repeats done :=
            hsome.mp (Option.isSome_iff_exists.mpr ⟨_, (Cache.served?_eq_some.mp hserved).2⟩)
          simp only [hserved] at hrun
          obtain ⟨rfl, rfl⟩ := Prod.mk.inj hrun
          rw [if_pos hrepeats]
          exact ⟨rfl, fun _ => h.of_repeats hrepeats.2⟩
      | none =>
          -- nothing is found, so the slot is compiled by itself
          have hnew : ¬ (e.cache.enabled = true ∧ slot.Repeats done) := by
            intro hrepeats
            have hfound := hsome.mpr hrepeats
            rw [← Cache.served?_of_enabled (h.enabled.trans hrepeats.1), hserved] at hfound
            cases hfound
          simp only [hserved] at hrun
          obtain ⟨rfl, rfl⟩ := Prod.mk.inj hrun
          rw [if_neg hnew]
          cases e.compiled r p.schemas slot with
          | error fault => exact ⟨rfl, nofun⟩
          | ok serializer => exact ⟨rfl, fun _ => h.stored slot serializer⟩

theorem run_prepareSlots_kept {p : Prepared} : ∀ {rest done : List Slot} {s : Serving},
    HoldsOnly e id p.version done s.cache →
      ((rest.forM (e.prepareSlot id r .kept p)).run.run s).1 = e.keepSlots r p.schemas done rest
  | [], _, _, _ => rfl
  | slot :: rest, done, s, h => by
      rcases hslot : (e.prepareSlot id r .kept p slot).run.run s with ⟨result, s'⟩
      obtain ⟨hresult, hholds⟩ := run_prepareSlot_kept h hslot
      unfold keepSlots
      rw [run_forM_cons, hslot, ← hresult]
      cases result with
      | error fault => rfl
      | ok done' => exact run_prepareSlots_kept (hholds rfl)

/-- A preparation that finds nothing of its route in the cache comes to what keeping it does. -/
theorem run_prepare_kept {s : Serving} (henabled : s.cache.enabled = e.cache.enabled)
    (hnone : ∀ key : ArtifactKey, key.route = id → Table.find? key s.cache.entries = none) :
    ((e.prepare id r .kept).run.run s).1 = e.kept r := by
  unfold prepare kept
  cases e.outfit r with
  | error fault => rfl
  | ok p =>
      have hholds : HoldsOnly e id p.version [] s.cache := holdsOnly_nil henabled hnone
      have hslots : ((p.responses.slots.forM (e.prepareSlot id r .kept p)).run.run s).1 =
          e.keepSlots r p.schemas [] p.responses.slots := run_prepareSlots_kept hholds
      change ((p.responses.slots.forM (e.prepareSlot id r .kept p) >>= fun _ =>
          pure p).run.run s).1 =
        (e.keepSlots r p.schemas [] p.responses.slots >>= fun _ => pure p)
      rw [Result.run_bind, ← hslots]
      rcases (p.responses.slots.forM (e.prepareSlot id r .kept p)).run.run s with ⟨result, s'⟩
      cases result <;> rfl

theorem run_prepareAll_kept : ∀ (rest : List Route) (index : Nat) (report : ReadyReport)
    {s : Serving}, s.cache.enabled = e.cache.enabled →
      (∀ key : ArtifactKey, index ≤ key.route.index → Table.find? key s.cache.entries = none) →
      (e.prepareAll index rest report s).1 =
        (rest.mapM e.kept).map fun ps => ps.foldl ReadyReport.add report
  | [], _, _, _, _, _ => rfl
  | r :: rest, index, report, s, henabled, hnone => by
      have hprepare : ((e.prepare ⟨index⟩ r .kept).run.run s).1 = e.kept r :=
        run_prepare_kept henabled fun key hkey => hnone key (by rw [hkey])
      unfold prepareAll
      rw [List.mapM_cons, ← hprepare]
      rcases hrun : (e.prepare ⟨index⟩ r .kept).run.run s with ⟨result, s'⟩
      cases result with
      | error fault => rfl
      | ok p =>
          obtain ⟨hgrows, -⟩ := prepare_stocks hrun
          -- what was kept for this route is under keys that the routes behind it do not have
          have hmore := run_prepareAll_kept rest (index + 1) (report.add p)
            (hgrows.enabled.trans henabled) fun key hkey => by
              rw [hgrows.others key fun heq => by rw [heq] at hkey; exact Nat.lt_irrefl _ hkey]
              exact hnone key (Nat.le_of_succ_le hkey)
          dsimp only
          rw [hmore]
          cases rest.mapM e.kept <;> rfl

end

/-- **What making ready comes to** from an empty cache: the first route that cannot be kept ends
it. -/
theorem makeReady_result {e : Engine} (hempty : e.cache.entries = []) :
    e.makeReady.result =
      ((e.routes.mapM e.kept).map fun ps => ps.foldl ReadyReport.add {}).mapError .build := by
  have hall : (e.prepareAll 0 e.routes {} { cache := e.cache }).1 =
      (e.routes.mapM e.kept).map fun ps => ps.foldl ReadyReport.add {} :=
    run_prepareAll_kept e.routes 0 {} rfl fun key _ => by
      rw [hempty]
      rfl
  unfold makeReady
  rw [← hall]
  rcases e.prepareAll 0 e.routes {} { cache := e.cache } with ⟨result, routes, s⟩
  cases result <;> rfl

/-! ## §2  Keeping and trying -/

/-- Whether a route has a slot that cannot be compiled behind one of the same key, and everything
in front of it can. -/
def Skips (e : Engine) (r : Route) : Prop :=
  ∃ p done slot rest fault, e.outfit r = .ok p ∧ p.responses.slots = done ++ slot :: rest ∧
    slot.Repeats done ∧ (∀ t ∈ done, e.trySlot r p.schemas t = .ok ()) ∧
    p.schemas.check (.ofInline slot.schema) = .ok () ∧ e.compiled r p.schemas slot = .error fault

section

variable {e : Engine} {r : Route}

theorem not_skips_of_nodup (h : ∀ d, r.declared = .ok d → (d.slots.map Slot.key).Nodup) :
    ¬ e.Skips r := by
  rintro ⟨p, done, slot, rest, fault, houtfit, hsplit, ⟨t, ht, hkey⟩, -⟩
  have hnodup := h p.responses (reflects_outfit houtfit).responses
  rw [hsplit, List.map_append, List.map_cons] at hnodup
  have hdisjoint := (List.nodup_append.mp hnodup).2.2
  exact hdisjoint t.key (List.mem_map_of_mem ht) slot.key List.mem_cons_self hkey

/-- Keeping slots and trying them comes to the same, if none of them would be skipped that cannot be
compiled. -/
theorem keepSlots_eq_forM {schemas : Schema.Set} : ∀ {rest done : List Slot},
    (∀ front slot back fault, rest = front ++ slot :: back → e.cache.enabled = true →
      slot.Repeats (done ++ front) → (∀ t ∈ front, e.trySlot r schemas t = .ok ()) →
      schemas.check (.ofInline slot.schema) = .ok () → e.compiled r schemas slot ≠ .error fault) →
    e.keepSlots r schemas done rest = rest.forM (e.trySlot r schemas)
  | [], _, _ => rfl
  | slot :: rest, done, h => by
      have hslot : e.keepSlot r schemas done slot = e.trySlot r schemas slot := by
        unfold keepSlot trySlot
        cases hcheck : schemas.check (.ofInline slot.schema) with
        | error fault => rfl
        | ok checked =>
            dsimp only
            split
            · -- the slot is skipped: it makes no difference unless it cannot be compiled
              rename_i hrepeats
              cases hcompiled : e.compiled r schemas slot with
              | ok serializer => rfl
              | error fault =>
                  refine absurd hcompiled ?_
                  refine h [] slot rest fault rfl hrepeats.1 ?_ (fun t ht => by cases ht) hcheck
                  rw [List.append_nil]
                  exact hrepeats.2
            · rfl
      unfold keepSlots
      rw [hslot]
      change _ = e.trySlot r schemas slot >>= fun _ => rest.forM (e.trySlot r schemas)
      cases htry : e.trySlot r schemas slot with
      | error fault => rfl
      | ok tried =>
          refine keepSlots_eq_forM fun front slot' back fault hsplit henabled hrepeats hfront => ?_
          refine h (slot :: front) slot' back fault (by rw [hsplit]; rfl) henabled ?_ ?_
          · rwa [List.append_assoc] at hrepeats
          · intro t ht
            rcases List.mem_cons.mp ht with rfl | ht
            · exact htry
            · exact hfront t ht

/-- **Keeping a route comes to what trying it does**, unless a slot is skipped. -/
theorem kept_eq_tried (h : e.cache.enabled = true → ¬ e.Skips r) : e.kept r = e.tried r := by
  unfold kept tried
  cases houtfit : e.outfit r with
  | error fault => rfl
  | ok p =>
      have hslots : e.keepSlots r p.schemas [] p.responses.slots =
          p.responses.slots.forM (e.trySlot r p.schemas) := by
        refine keepSlots_eq_forM fun front slot back fault hsplit henabled hrepeats hfront hcheck
          hcompiled => ?_
        exact h henabled
          ⟨p, front, slot, back, fault, houtfit, hsplit, hrepeats, hfront, hcheck, hcompiled⟩
      change (e.keepSlots r p.schemas [] p.responses.slots >>= fun _ => pure p) = _
      rw [hslots]
      rfl

/-- A route that can be tried does not skip anything. -/
theorem not_skips_of_tried {p : Prepared} (h : e.tried r = .ok p) : ¬ e.Skips r := by
  rintro ⟨q, done, slot, rest, fault, houtfit, hsplit, -, -, hcheck, hcompiled⟩
  unfold tried at h
  rw [houtfit] at h
  obtain ⟨u, hall, -⟩ := Result.bind_eq_ok.mp
    (show (q.responses.slots.forM (e.trySlot r q.schemas) >>= fun _ => pure q) = .ok p from h)
  have hslot := Result.forM_eq_ok hall slot (by rw [hsplit]; simp)
  unfold trySlot at hslot
  rw [hcheck, hcompiled] at hslot
  cases hslot

theorem kept_of_tried {p : Prepared} (h : e.tried r = .ok p) : e.kept r = .ok p :=
  (kept_eq_tried fun _ => not_skips_of_tried h).trans h

end

/-! ## §3  All routes -/

section

variable {e : Engine}

theorem issue?_eq_none {r : Route} : e.issue? r = none ↔ ∃ p, e.tried r = .ok p := by
  unfold issue?
  cases e.tried r with
  | ok p => exact iff_of_true rfl ⟨p, rfl⟩
  | error fault =>
      constructor
      · nofun
      · rintro ⟨p, hp⟩
        cases hp

theorem diagnose_of_split {front rest : List Route} {r : Route} {fault : BuildError}
    (hsplit : e.routes = front ++ r :: rest) (hfront : ∀ r' ∈ front, ∃ p, e.tried r' = .ok p)
    (hr : e.tried r = .error fault) :
    e.diagnose.1 = issueOf r fault :: rest.filterMap e.issue? := by
  have hnone : front.filterMap e.issue? = [] :=
    List.filterMap_eq_nil_iff.mpr fun r' hr' => issue?_eq_none.mpr (hfront r' hr')
  have hissue : e.issue? r = some (issueOf r fault) := by
    unfold issue?
    rw [hr]
  rw [diagnose_eq, hsplit, List.filterMap_append, hnone, List.filterMap_cons, hissue]
  rfl

theorem diagnose_eq_nil_iff : e.diagnose.1 = [] ↔ ∃ ps, e.routes.mapM e.tried = .ok ps := by
  rw [diagnose_eq, List.filterMap_eq_nil_iff]
  constructor
  · exact fun h => Result.exists_mapM_eq_ok fun r hr => issue?_eq_none.mp (h r hr)
  · rintro ⟨ps, hps⟩ r hr
    exact issue?_eq_none.mpr (Result.exists_of_mapM_eq_ok hps r hr)

/-- A diagnosis begins with the issue of the first route that cannot be tried. -/
theorem exists_of_diagnose_eq_cons {issue : Issue} {more : List Issue}
    (h : e.diagnose.1 = issue :: more) :
    ∃ front r rest fault, e.routes = front ++ r :: rest ∧
      (∀ r' ∈ front, ∃ p, e.tried r' = .ok p) ∧ e.tried r = .error fault ∧
      issue = issueOf r fault := by
  cases htried : e.routes.mapM e.tried with
  | ok ps =>
      rw [diagnose_eq_nil_iff.mpr ⟨ps, htried⟩] at h
      cases h
  | error fault =>
      obtain ⟨front, r, rest, hsplit, hfront, hr⟩ := Result.exists_of_mapM_eq_error htried
      rw [diagnose_of_split hsplit hfront hr] at h
      exact ⟨front, r, rest, fault, hsplit, hfront, hr, (List.cons.inj h).1.symm⟩

end

/-- **A diagnosis predicts what making ready comes to**, if nothing is kept yet.  Where it finds
nothing, making ready succeeds; its first issue is that of the first route that cannot be tried by
itself.  If no route skips a slot, then it finds nothing exactly where making ready succeeds, and
else its first issue has the code and the text of the error. -/
theorem diagnosis_predicts_ready {e : Engine} (hempty : e.cache.entries = []) :
    (e.diagnose.1 = [] → ∃ report, e.makeReady.result = .ok report) ∧
    (∀ issue more, e.diagnose.1 = issue :: more → ∃ front r rest fault,
      e.routes = front ++ r :: rest ∧ (∀ r' ∈ front, ∃ p, e.tried r' = .ok p) ∧
      e.tried r = .error fault ∧ issue = ⟨r.label, fault.code, fault.message⟩) ∧
    ((e.cache.enabled = true → ∀ r ∈ e.routes, ¬ e.Skips r) →
      ((∃ report, e.makeReady.result = .ok report) ↔ e.diagnose.1 = []) ∧
      ∀ error, e.makeReady.result = .error error → ∃ issue more, e.diagnose.1 = issue :: more ∧
        issue.code = error.code ∧ issue.message = error.message) := by
  have hready := makeReady_result hempty
  have hsucceeds : e.diagnose.1 = [] → ∃ report, e.makeReady.result = .ok report := by
    intro hnil
    obtain ⟨ps, hps⟩ := diagnose_eq_nil_iff.mp hnil
    have hall : ∀ r ∈ e.routes, ∃ p, e.kept r = .ok p := by
      intro r hr
      obtain ⟨p, hp⟩ := Result.exists_of_mapM_eq_ok hps r hr
      exact ⟨p, kept_of_tried hp⟩
    obtain ⟨qs, hqs⟩ := Result.exists_mapM_eq_ok hall
    rw [hready, hqs]
    exact ⟨_, rfl⟩
  refine ⟨hsucceeds, fun issue more h => exists_of_diagnose_eq_cons h, fun hskips => ?_⟩
  -- from here on no slot is skipped, so keeping comes to what trying does
  have hkept : e.routes.mapM e.kept = e.routes.mapM e.tried :=
    Result.mapM_congr fun r hr => kept_eq_tried fun henabled => hskips henabled r hr
  refine ⟨⟨fun ⟨report, hreport⟩ => ?_, hsucceeds⟩, fun error herror => ?_⟩
  · cases htried : e.routes.mapM e.tried with
    | ok ps => exact diagnose_eq_nil_iff.mpr ⟨ps, htried⟩
    | error fault =>
        rw [hready, hkept, htried] at hreport
        cases hreport
  · cases htried : e.routes.mapM e.tried with
    | ok ps =>
        rw [hready, hkept, htried] at herror
        cases herror
    | error fault =>
        rw [hready, hkept, htried] at herror
        cases herror
        obtain ⟨front, r, rest, hsplit, hfront, hr⟩ := Result.exists_of_mapM_eq_error htried
        exact ⟨issueOf r fault, _, diagnose_of_split hsplit hfront hr, rfl, rfl⟩

/-- Two routes of which the second refers to a schema that is nowhere. -/
def secondFails : List Registration := [
  .addRoute .root { method := "GET", url := "/a", response := some (.object [
    ("200", .object [("type", .string "string")]), ("2xx", .object [])]) },
  .addRoute .root { method := "GET", url := "/b", response := some (.object [
    ("200", .object [("$ref", .string "urn:none")])]) }]

theorem diagnosis_predicts_ready_secondFails :
    ((ofConfig {}).registerAll secondFails).cache.entries = [] ∧
    (∀ r ∈ ((ofConfig {}).registerAll secondFails).routes,
      ¬ ((ofConfig {}).registerAll secondFails).Skips r) ∧
    ∃ error issue more, ((ofConfig {}).registerAll secondFails).makeReady.result = .error error ∧
      ((ofConfig {}).registerAll secondFails).diagnose.1 = issue :: more ∧
      issue.code = error.code ∧ issue.message = error.message := by
  have hempty : ((ofConfig {}).registerAll secondFails).cache.entries = [] := rfl
  have hkeys : ((ofConfig {}).registerAll secondFails).routes.all (fun r =>
      r.declared.toOption.all fun d => decide (d.slots.map Slot.key).Nodup) = true := by
    decide +kernel
  have hskips : ∀ r ∈ ((ofConfig {}).registerAll secondFails).routes,
      ¬ ((ofConfig {}).registerAll secondFails).Skips r := by
    intro r hr
    refine not_skips_of_nodup fun d hd => ?_
    have hslots := List.all_eq_true.mp hkeys r hr
    rw [hd] at hslots
    exact of_decide_eq_true hslots
  have hfails : ((ofConfig {}).registerAll secondFails).makeReady.result.toOption = none := by
    decide +kernel
  cases hready : ((ofConfig {}).registerAll secondFails).makeReady.result with
  | ok report =>
      rw [hready] at hfails
      cases hfails
  | error error =>
      obtain ⟨issue, more, hdiagnose, hcode, hmessage⟩ :=
        ((diagnosis_predicts_ready hempty).2.2 fun _ => hskips).2 error hready
      exact ⟨hempty, hskips, error, issue, more, rfl, hdiagnose, hcode, hmessage⟩

/-- A route with two keys that are one selector, of which the second has a schema that cannot be
compiled. -/
def repeating : List Registration := [
  .addRoute .root { method := "GET", url := "/", response := some (.object [
    ("2xx", .object [("type", .string "string")]),
    ("2XX", Serializer.Plan.exampleSchema)]) }]

/-- **A route can be made ready of which a diagnosis says that it cannot**: the second of two slots
under one key is not compiled. -/
theorem not_diagnosis_predicts_ready :
    ¬ ∀ (config : EngineConfig) (registrations : List Registration),
      ((∃ report, ((ofConfig config).registerAll registrations).makeReady.result = .ok report) ↔
        ((ofConfig config).registerAll registrations).diagnose.1 = []) := by
  intro hall
  have hready : ((ofConfig {}).registerAll repeating).makeReady.result = .ok ⟨1, 2, 0⟩ :=
    Result.toOption_eq_some.mp (by decide +kernel)
  have hissues : ((ofConfig {}).registerAll repeating).diagnose.1.length = 1 := by
    decide +kernel
  have hnil := (hall {} repeating).mp ⟨_, hready⟩
  rw [hnil] at hissues
  cases hissues

end Engine

end ReplySchema

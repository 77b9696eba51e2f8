import ReplySchema.Proofs.Engine.Prepared

/-! # Where artifacts come from

An artifact carries the version of the schemas that it was compiled against, but no trace
of the compiler that made it.  `Traced` says of the artifacts of one route that each is
what one of some compilers made of a slot of that route, under schemas that the route sees
now or saw when fewer were registered (`Seen`).

No premise on the declaration is needed here, in contrast to `Faithful`: two slots under
one key share an artifact, and which of the two it was compiled from is left open.

Main statement: `prepare_traced`, which follows a preparation.  It also says what an error
of a preparation comes from.
-/

set_option autoImplicit false

namespace ReplySchema

open Serving
open Response (Slot Declaration)

/-! ## §1  Schemas that were seen -/

/-- Whether schemas are those that a scope sees, or have a generation that it left behind. -/
structure Seen (scopes : ScopeTree) (scope : ScopeId) (schemas : Schema.Set) : Prop where
  notYounger : schemas.generation ≤ scopes.generation scope
  current : schemas.generation = scopes.generation scope → schemas = scopes.schemaSet scope

theorem seen_schemaSet (scopes : ScopeTree) (scope : ScopeId) :
    Seen scopes scope (scopes.schemaSet scope) :=
  ⟨(ScopeTree.generation_schemaSet scopes scope).le, fun _ => rfl⟩

/-- What was seen stays so as long as the scope sees the same schemas, or younger ones. -/
theorem Seen.carry {scopes scopes' : ScopeTree} {scope : ScopeId} {schemas : Schema.Set}
    (h : Seen scopes scope schemas)
    (hview : scopes'.schemaSet scope = scopes.schemaSet scope ∨
      scopes.generation scope < scopes'.generation scope) : Seen scopes' scope schemas := by
  rcases hview with hset | hlt
  · have hgeneration : scopes'.generation scope = scopes.generation scope := by
      rw [← ScopeTree.generation_schemaSet, hset, ScopeTree.generation_schemaSet]
    exact ⟨by rw [hgeneration]; exact h.notYounger,
      fun heq => by rw [hset]; exact h.current (heq.trans hgeneration)⟩
  · have hle := h.notYounger
    exact ⟨by omega, fun heq => by omega⟩

/-! ## §2  What compilers make of a slot -/

def Route.compiledBy (r : Route) (compiler : Compiler) (schemas : Schema.Set) (slot : Slot) :
    Except BuildError Serializer :=
  (compiler.compile (Engine.contextOf r schemas slot)).mapError fun reason =>
    r.error (.serialization slot.selector.label slot.mediaType reason)

/-- Whether a result is what one of some compilers makes, under one of some schema sets, of a slot
of a declaration that has the selector and the media type of a given one. -/
def Route.Makes (r : Route) (d : Declaration) (C : Compiler → Prop) (S : Schema.Set → Prop)
    (slot : Slot) (result : Except BuildError Serializer) : Prop :=
  ∃ compiler schemas slot', C compiler ∧ S schemas ∧ slot' ∈ d.slots ∧
    slot'.selector.label = slot.selector.label ∧ slot'.mediaType = slot.mediaType ∧
    result = r.compiledBy compiler schemas slot'

theorem Route.compiledBy_of_site {r r' : Route} (h : r'.site = r.site) :
    r'.compiledBy = r.compiledBy :=
  Route.eq_of_site Route.compiledBy (fun _ => rfl) h

namespace Engine

/-! ## §3  Traced artifacts -/

/-- Whether each artifact of a route is what one of some compilers made of a slot of the route,
under schemas that the route sees or saw. -/
def Traced (e : Engine) (id : RouteId) (C : Compiler → Prop) (c : Cache Serializer) : Prop :=
  ∀ key version serializer, key.route = id →
    Table.find? key c.entries = some (version, serializer) →
    ∃ r d slot compiler schemas, e.routes[id.index]? = some r ∧ r.declared = .ok d ∧
      slot ∈ d.slots ∧ key = artifactKey id slot ∧ C compiler ∧ Seen e.scopes r.scope schemas ∧
      version = .ofSet schemas ∧ r.compiledBy compiler schemas slot = .ok serializer

variable {e : Engine} {id : RouteId} {C : Compiler → Prop}

theorem traced_of_unkept {c : Cache Serializer}
    (h : ∀ key, key.route = id → Table.find? key c.entries = none) : Traced e id C c := by
  intro key version serializer hkey hfind
  rw [h key hkey] at hfind
  cases hfind

/-- Artifacts stay traced as long as their route is declared as before and sees the same schemas,
or younger ones. -/
theorem Traced.carry {e' : Engine} {c : Cache Serializer} (h : Traced e id C c)
    (hroute : ∀ r, e.routes[id.index]? = some r → ∃ r', e'.routes[id.index]? = some r' ∧
      r'.site = r.site ∧ (e'.scopes.schemaSet r.scope = e.scopes.schemaSet r.scope ∨
        e.scopes.generation r.scope < e'.scopes.generation r.scope)) : Traced e' id C c := by
  intro key version serializer hkey hfind
  obtain ⟨r, d, slot, compiler, schemas, hr, hd, hslot, hkey', hC, hseen, hversion, hmade⟩ :=
    h key version serializer hkey hfind
  obtain ⟨r', hr', hsite, hview⟩ := hroute r hr
  have hscope : r'.scope = r.scope := Route.eq_of_site Route.scope (fun _ => rfl) hsite
  refine ⟨r', d, slot, compiler, schemas, hr', ?_, hslot, hkey', hC, ?_, hversion, ?_⟩
  · rw [Route.eq_of_site Route.declared (fun _ => rfl) hsite]
    exact hd
  · rw [hscope]
    exact hseen.carry hview
  · rw [Route.compiledBy_of_site hsite]
    exact hmade

/-- Keeping what the compiler in force makes of a slot keeps the artifacts traced, for this route
if that compiler is one of those, and for the others anyway. -/
theorem Traced.stored {c : Cache Serializer} (h : Traced e id C c) {j : RouteId} {r : Route}
    (hr : e.routes[j.index]? = some r) {d : Declaration} (hd : r.declared = .ok d) {slot : Slot}
    (hslot : slot ∈ d.slots) {schemas : Schema.Set} (hseen : Seen e.scopes r.scope schemas)
    (hforce : j = id → C (e.compilerFor r)) {serializer : Serializer}
    (hmade : e.compiled r schemas slot = .ok serializer) :
    Traced e id C (c.stored (artifactKey j slot) (.ofSet schemas) serializer) := by
  intro key version other hkey hfind
  rw [Cache.find?_stored] at hfind
  split at hfind
  · rename_i hsame
    obtain ⟨-, rfl⟩ := hsame
    obtain ⟨rfl, rfl⟩ := Prod.mk.inj (Option.some.inj hfind)
    have hj : j = id := hkey
    subst hj
    exact ⟨r, d, slot, _, schemas, hr, hd, hslot, rfl, hforce rfl, hseen, rfl, hmade⟩
  · exact h key version other hkey hfind

/-- An artifact is what one of the compilers made, kept or not. -/
theorem artifact_traced {j : RouteId} {r : Route} (hr : e.routes[j.index]? = some r)
    {d : Declaration} (hd : r.declared = .ok d) {slot : Slot} (hslot : slot ∈ d.slots)
    {schemas : Schema.Set} (hseen : Seen e.scopes r.scope schemas)
    (hforce : j = id → C (e.compilerFor r)) :
    Meets (Traced e id C) (e.artifact j r schemas (.ofSet schemas) slot).run
      fun result c => Traced e id C c ∧ (j = id → r.Makes d C
        (fun other => Seen e.scopes r.scope other ∧ other.generation = schemas.generation)
        slot result) := by
  intro s htraced
  rw [run_artifact]
  cases hserved : s.cache.served? (artifactKey j slot) (.ofSet schemas) with
  | some serializer =>
      refine ⟨htraced, fun hj => ?_⟩
      subst hj
      obtain ⟨r', d', slot', compiler, schemas', hr', hd', hslot', hkey, hC, hseen', hversion,
        hmade⟩ := htraced _ _ _ rfl
          (Cache.get?_eq_some.mp (Cache.served?_eq_some.mp hserved).2)
      obtain rfl : r' = r := Option.some.inj (hr'.symm.trans hr)
      obtain rfl : d' = d := Except.ok.inj (hd'.symm.trans hd)
      simp only [artifactKey, ArtifactKey.mk.injEq, true_and] at hkey
      have hgeneration : schemas.generation = schemas'.generation :=
        congrArg Version.generation hversion
      exact ⟨compiler, schemas', slot', hC, ⟨hseen', hgeneration.symm⟩, hslot', hkey.1.symm,
        hkey.2.symm, hmade.symm⟩
  | none =>
      have hmakes : j = id → r.Makes d C
          (fun other => Seen e.scopes r.scope other ∧ other.generation = schemas.generation)
          slot (e.compiled r schemas slot) :=
        fun hj => ⟨_, schemas, slot, hforce hj, ⟨hseen, rfl⟩, hslot, rfl, rfl, rfl⟩
      cases hmade : e.compiled r schemas slot with
      | error fault => exact ⟨htraced, fun hj => hmade ▸ hmakes hj⟩
      | ok serializer =>
          exact ⟨htraced.stored hr hd hslot hseen hforce hmade, fun hj => hmade ▸ hmakes hj⟩

/-! ## §4  Preparations -/

end Engine

theorem Route.Makes.mono {r : Route} {d : Declaration} {C : Compiler → Prop}
    {S S' : Schema.Set → Prop} {slot : Slot} {result : Except BuildError Serializer}
    (h : r.Makes d C S slot result) (hS : ∀ schemas, S schemas → S' schemas) :
    r.Makes d C S' slot result := by
  obtain ⟨compiler, schemas, slot', hC, hschemas, hmade⟩ := h
  exact ⟨compiler, schemas, slot', hC, hS schemas hschemas, hmade⟩

/-- What the errors of a preparation come from: the declaration, the schemas of the input, a
reference, or one of some compilers, all under one of some schema sets. -/
inductive Route.Refuses (r : Route) (C : Compiler → Prop) (S : Schema.Set → Prop) :
    BuildError → Prop where
  | declaration {fault : BuildError} (h : r.declared = .error fault) : Refuses r C S fault
  | input {fault : BuildError} {schemas : Schema.Set} (hS : S schemas)
      (h : InputValidators.compile schemas r.method r.url r.declaration.input = .error fault) :
      Refuses r C S fault
  | reference {fault : SchemaError} {d : Declaration} {slot : Slot} {schemas : Schema.Set}
      (hd : r.declared = .ok d) (hslot : slot ∈ d.slots) (hS : S schemas)
      (h : schemas.check (.ofInline slot.schema) = .error fault) :
      Refuses r C S (r.error (.schema fault))
  | slot {fault : BuildError} {d : Declaration} {slot : Slot} (hd : r.declared = .ok d)
      (hslot : slot ∈ d.slots) (h : r.Makes d C S slot (.error fault)) : Refuses r C S fault

namespace Engine

variable {e : Engine} {id : RouteId} {C : Compiler → Prop}

/-- A route that cannot be fitted out refuses its declaration or the schemas of its input. -/
theorem refuses_outfit {r : Route} {fault : BuildError} (h : e.outfit r = .error fault) :
    r.Refuses C (· = e.scopes.schemaSet r.scope) fault := by
  rw [outfit_eq] at h
  cases hd : r.declared with
  | error fault' =>
      rw [hd] at h
      cases h
      exact .declaration hd
  | ok responses =>
      rw [hd] at h
      cases hv : InputValidators.compile (e.scopes.schemaSet r.scope) r.method r.url
          r.declaration.input with
      | error fault' =>
          simp only [bind, Except.bind, hv] at h
          cases h
          exact .input rfl hv
      | ok validators =>
          simp only [bind, Except.bind, hv] at h
          cases h

theorem prepareSlots_traced {j : RouteId} {r : Route} {p : Prepared}
    (hr : e.routes[j.index]? = some r) (hp : Reflects e r p)
    (hforce : j = id → C (e.compilerFor r)) :
    ∀ slots : List Slot, (∀ slot ∈ slots, slot ∈ p.responses.slots) →
      Meets (Traced e id C) (slots.forM (e.prepareSlot j r .kept p)).run
        fun result c => Traced e id C c ∧ (j = id → ∀ fault, result = .error fault →
          r.Refuses C (· = e.scopes.schemaSet r.scope) fault)
  | [], _ => meets_pure fun _ hc => ⟨hc, fun _ _ h => by cases h⟩
  | slot :: rest, hmem => by
      have hslot : Meets (Traced e id C) (e.prepareSlot j r .kept p slot).run
          fun result c => Traced e id C c ∧ (j = id → ∀ fault, result = .error fault →
            r.Refuses C (· = e.scopes.schemaSet r.scope) fault) := by
        unfold prepareSlot
        cases hcheck : p.schemas.check (.ofInline slot.schema) with
        | error fault =>
            refine meets_pure fun _ hc => ⟨hc, fun _ _ h => ?_⟩
            cases h
            exact .reference hp.responses (hmem slot List.mem_cons_self) hp.schemas hcheck
        | ok _ =>
            rw [hp.schemas, hp.version]
            refine meets_bindExcept (artifact_traced hr hp.responses
              (hmem slot List.mem_cons_self) (seen_schemaSet _ _) hforce) ?_ ?_
            · exact fun _ => meets_pure fun _ hc => ⟨hc.1, fun _ _ h => by cases h⟩
            · refine fun fault c hc => ⟨hc.1, fun hj fault' h => ?_⟩
              cases h
              refine .slot hp.responses (hmem slot List.mem_cons_self)
                ((hc.2 hj).mono fun other hother => hother.1.current ?_)
              rw [hother.2, ScopeTree.generation_schemaSet]
      refine meets_bindExcept hslot (fun _ => ?_) fun fault _ hc => hc
      intro s hs
      exact prepareSlots_traced hr hp hforce rest
        (fun slot' h => hmem slot' (List.mem_cons_of_mem _ h)) s hs.1

/-- **A preparation keeps the artifacts traced**; what it returns reflects the route, and its errors
come from the schemas that the route sees and from the compilers. -/
theorem prepare_traced {j : RouteId} {r : Route} (hr : e.routes[j.index]? = some r)
    (hforce : j = id → C (e.compilerFor r)) :
    Meets (Traced e id C) (e.prepare j r .kept).run
      fun result c => Traced e id C c ∧ (∀ p, result = .ok p → Reflects e r p) ∧
        (j = id → ∀ fault, result = .error fault →
          r.Refuses C (· = e.scopes.schemaSet r.scope) fault) := by
  unfold prepare
  cases houtfit : e.outfit r with
  | error fault =>
      refine meets_pure fun _ hc => ⟨hc, nofun, fun _ _ h => ?_⟩
      cases h
      exact refuses_outfit houtfit
  | ok p =>
      have hreflects := reflects_outfit houtfit
      refine meets_bindExcept (prepareSlots_traced hr hreflects hforce p.responses.slots
        fun _ h => h) (fun _ => ?_) fun fault _ hc => ⟨hc.1, nofun, fun hj fault' h => ?_⟩
      · refine meets_pure fun _ hc => ⟨hc.1, fun q h => ?_, fun _ _ h => by cases h⟩
        cases h
        exact hreflects
      · cases h
        exact hc.2 hj fault rfl

end Engine

end ReplySchema

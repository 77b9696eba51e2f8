import ReplySchema.Proofs.Cache
import ReplySchema.Proofs.Engine.Serving
import ReplySchema.Proofs.Response.FirstSlot
import ReplySchema.Proofs.Scope.Inheritance

/-! # Caches that hold what would be compiled

An artifact carries the version of the schemas that it was compiled against, but not the
compiler nor the schema of its slot.  So that a kept artifact may stand for a new
compilation, three things must hold together, and `Faithful` puts them into one property
of the cache:

* no entry of a route is younger than the schemas that the route sees now, so that a
  version that grows is a version that no entry has;
* an entry of the present version is what the compiler in force makes of the *first* slot
  under its key.

The second slot under a key is never looked up (`Declaration.resolve?_isFirst`), but it is
compiled when the route is prepared.  It does no harm because the first slot was prepared
before it and its artifact is found instead; `Kept` carries that through the preparation.
-/

set_option autoImplicit false

namespace ReplySchema

/-! ## §1  Sites and declarations -/

/-- The route without what was prepared for it: what it was declared with and where. -/
def Route.site (r : Route) : Route := { r with prepared := none }

theorem Route.eq_of_site {β : Type} (f : Route → β) (hf : ∀ r, f r.site = f r) {r r' : Route}
    (h : r'.site = r.site) : f r' = f r := by
  rw [← hf r', h, hf r]

def Route.declared (r : Route) : Except BuildError Response.Declaration :=
  match r.declaration.response with
  | some declaration =>
      (Response.Declaration.ofJson declaration).mapError (BuildError.ofFault r.method r.url)
  | none => .ok {}

namespace Engine

open Serving

/-! ## §2  Compiling and keeping -/

/-- What the compiler in force makes of a slot under given schemas. -/
def compiled (e : Engine) (r : Route) (schemas : Schema.Set) (slot : Response.Slot) :
    Except BuildError Serializer :=
  ((e.compilerFor r).compile (contextOf r schemas slot)).mapError fun reason =>
    r.error (.serialization slot.selector.label slot.mediaType reason)

theorem run_compileSlot (e : Engine) (r : Route) (schemas : Schema.Set) (slot : Response.Slot)
    (s : Serving) :
    (e.compileSlot r schemas slot).run.run s =
      (e.compiled r schemas slot,
        { s with
          events := s.events ++ [.compiled (e.compilerFor r) (contextOf r schemas slot)] }) := by
  unfold compileSlot compiled
  cases h : (e.compilerFor r).compile (contextOf r schemas slot) with
  | ok serializer =>
      simp only [h]
      rfl
  | error reason =>
      simp only [h]
      rfl

/-- An artifact is the kept one, or it is compiled and kept unless that fails. -/
theorem run_artifact (e : Engine) (id : RouteId) (r : Route) (schemas : Schema.Set)
    (version : Version) (slot : Response.Slot) (s : Serving) :
    (e.artifact id r schemas version slot).run.run s =
      match s.cache.served? (artifactKey id slot) version with
      | some serializer => (.ok serializer, s)
      | none =>
          (e.compiled r schemas slot,
            { cache := match e.compiled r schemas slot with
                | .ok serializer => s.cache.stored (artifactKey id slot) version serializer
                | .error _ => s.cache
              events := s.events ++
                [.compiled (e.compilerFor r) (contextOf r schemas slot)] }) := by
  unfold artifact Cache.getOrCompile Cache.served? Cache.stored
  rw [Result.run_bind, run_getCache]
  dsimp only
  cases hc : s.cache.enabled with
  | false =>
      change (e.compileSlot r schemas slot).run.run s = _
      rw [run_compileSlot]
      cases e.compiled r schemas slot <;> rfl
  | true =>
      cases hget : s.cache.get? (artifactKey id slot) version with
      | some serializer => rfl
      | none =>
          change (e.compileSlot r schemas slot >>= _ : Serve BuildError Serializer).run.run s = _
          rw [Result.run_bind, run_compileSlot]
          cases e.compiled r schemas slot with
          | error fault => rfl
          | ok serializer =>
              -- compiling leaves the cache alone, so the second look finds nothing
              dsimp only
              rw [run_modifyGetCache]
              simp only [Cache.keep, hget]
              rfl

/-! ## §3  Faithful caches -/

/-- What a cache may hold for an engine to use. -/
structure Faithful (e : Engine) (c : Cache Serializer) : Prop where
  /-- No entry is younger than the schemas of its route. -/
  notYounger : ∀ key version serializer,
    Table.find? key c.entries = some (version, serializer) →
    ∀ r, e.routes[key.route.index]? = some r → version.generation ≤ e.scopes.generation r.scope
  /-- An entry of the present version is what its first slot is compiled to. -/
  current : ∀ id r d slot serializer, e.routes[id.index]? = some r → r.declared = .ok d →
    d.IsFirst slot →
    c.get? (artifactKey id slot) (.ofSet (e.scopes.schemaSet r.scope)) = some serializer →
    e.compiled r (e.scopes.schemaSet r.scope) slot = .ok serializer

theorem faithful_empty (e : Engine) {c : Cache Serializer} (h : c.entries = []) :
    Faithful e c where
  notYounger key version serializer hfind := by simp [h] at hfind
  current id r d slot serializer _ _ _ hget := by
    rw [Cache.get?_eq_some, h] at hget
    cases hget

/-- Keeping what a first slot is compiled to, or anything under a key that no first slot of a
declared route has, leaves a cache faithful. -/
theorem Faithful.stored {e : Engine} {c : Cache Serializer} (h : Faithful e c) {id : RouteId}
    {r : Route} (hr : e.routes[id.index]? = some r) {d : Response.Declaration}
    (hd : r.declared = .ok d) {slot : Response.Slot} (hfirst : d.IsFirst slot)
    {serializer : Serializer}
    (hs : e.compiled r (e.scopes.schemaSet r.scope) slot = .ok serializer) :
    Faithful e (c.stored (artifactKey id slot) (.ofSet (e.scopes.schemaSet r.scope)) serializer)
    where
  notYounger key version other hfind r' hr' := by
    rw [Cache.find?_stored] at hfind
    split at hfind
    · rename_i hkey
      obtain ⟨-, rfl⟩ := hkey
      obtain ⟨rfl, rfl⟩ := Prod.mk.inj (Option.some.inj hfind)
      have hsame : r' = r := Option.some.inj (hr'.symm.trans hr)
      rw [hsame, Version.ofSet, ScopeTree.generation_schemaSet]
    · exact h.notYounger key version other hfind r' hr'
  current id' r' d' slot' other hr' hd' hfirst' hget := by
    rw [Cache.get?_eq_some, Cache.find?_stored] at hget
    split at hget
    · rename_i hkey
      obtain ⟨-, hkey⟩ := hkey
      simp only [artifactKey, ArtifactKey.mk.injEq] at hkey
      obtain ⟨rfl, hlabel, hmedia⟩ := hkey
      have hsame : r' = r := Option.some.inj (hr'.symm.trans hr)
      subst hsame
      have hdeclared : d' = d := Except.ok.inj (hd'.symm.trans hd)
      subst hdeclared
      have hslot : slot' = slot := by
        unfold Response.Declaration.IsFirst at hfirst hfirst'
        rw [← hlabel, ← hmedia, hfirst] at hfirst'
        exact (Option.some.inj hfirst').symm
      subst hslot
      rw [(Prod.mk.inj (Option.some.inj hget)).2] at hs
      exact hs
    · exact h.current id' r' d' slot' other hr' hd' hfirst' (Cache.get?_eq_some.mpr hget)

/-! ## §4  What leaves a cache faithful from outside -/

/-- Whether two engines show a route the same schemas and compiler. -/
def SameView (e e' : Engine) (scope : ScopeId) : Prop :=
  e'.scopes.schemaSet scope = e.scopes.schemaSet scope ∧
    e'.scopes.compiler? scope = e.scopes.compiler? scope

theorem sites_get? {e e' : Engine} (h : e'.routes.map Route.site = e.routes.map Route.site)
    {i : Nat} {r' : Route} (hr' : e'.routes[i]? = some r') :
    ∃ r, e.routes[i]? = some r ∧ r'.site = r.site := by
  have hi := congrArg (fun rs : List Route => rs[i]?) h
  simp only [List.getElem?_map, hr', Option.map_some] at hi
  obtain ⟨r, hr, hsite⟩ := Option.map_eq_some_iff.mp hi.symm
  exact ⟨r, hr, hsite.symm⟩

/-- A cache stays faithful as long as the routes are declared as before and each of them has the
view that it had, or a younger one. -/
theorem Faithful.carry {e e' : Engine} {c : Cache Serializer} (h : Faithful e c)
    (hsites : e'.routes.map Route.site = e.routes.map Route.site)
    (hconfig : e'.config = e.config)
    (hview : ∀ r ∈ e.routes, SameView e e' r.scope ∨
      e.scopes.generation r.scope < e'.scopes.generation r.scope) : Faithful e' c where
  notYounger key version serializer hfind r' hr' := by
    obtain ⟨r, hr, hsite⟩ := sites_get? hsites hr'
    have hscope : r'.scope = r.scope := Route.eq_of_site Route.scope (fun _ => rfl) hsite
    have hle := h.notYounger key version serializer hfind r hr
    rw [hscope]
    rcases hview r (List.mem_of_getElem? hr) with ⟨hset, -⟩ | hlt
    · rw [← ScopeTree.generation_schemaSet, hset, ScopeTree.generation_schemaSet]
      exact hle
    · omega
  current id r' d slot serializer hr' hd hfirst hget := by
    obtain ⟨r, hr, hsite⟩ := sites_get? hsites hr'
    have hscope : r'.scope = r.scope := Route.eq_of_site Route.scope (fun _ => rfl) hsite
    have hdeclared : r.declared = .ok d := by
      rw [← hd, Route.eq_of_site Route.declared (fun _ => rfl) hsite]
    rw [hscope] at hget ⊢
    rcases hview r (List.mem_of_getElem? hr) with ⟨hset, hcompiler⟩ | hlt
    · rw [hset] at hget ⊢
      have hold := h.current id r d slot serializer hr hdeclared hfirst hget
      have hcompilerFor : e'.compilerFor r' = e.compilerFor r := by
        rw [Route.eq_of_site e'.compilerFor (fun _ => rfl) hsite, compilerFor, compilerFor,
          hcompiler, hconfig]
      have hcontext : contextOf r' (e.scopes.schemaSet r.scope) slot =
          contextOf r (e.scopes.schemaSet r.scope) slot :=
        Route.eq_of_site (contextOf · (e.scopes.schemaSet r.scope) slot) (fun _ => rfl) hsite
      have herror : r'.error = r.error := Route.eq_of_site Route.error (fun _ => rfl) hsite
      rw [← hold, compiled, compiled, hcompilerFor, hcontext, herror]
    · rw [Cache.get?_eq_some] at hget
      have hle := h.notYounger _ _ serializer hget r hr
      simp only [Version.ofSet, ScopeTree.generation_schemaSet] at hle
      omega

end Engine

end ReplySchema

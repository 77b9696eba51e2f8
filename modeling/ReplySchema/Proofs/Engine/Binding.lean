import ReplySchema.Proofs.Engine.Lived
import ReplySchema.Proofs.Scope.Inheritance

/-! # When a binding takes effect

An artifact has no trace of its compiler, so a new compiler is used only if what the old
one made is dropped.  Binding a compiler to a scope empties the cache of an engine that is
ready.  Before that it does not, although a call that comes early compiles and keeps.

* `binding_takes_effect`: a binding takes effect if the engine is ready, or if nothing is
  kept for the route; and if this goes for every binding of a run, then every call uses
  the compiler that is in force.
* `not_binding_takes_effect`: without this premise it does not.
-/

set_option autoImplicit false

namespace ReplySchema.Engine

open ScopeTree (Evolves)

/-! ## §1  How engines evolve -/

def Rebinds (operations : List Operation) (scope : ScopeId) : Prop :=
  ∃ compiler, Operation.register (.setCompiler scope compiler) ∈ operations

/-- Whether one engine comes after another: scopes and routes stay, and only some scopes may have
another compiler. -/
structure Continues (rebound : ScopeId → Prop) (e e' : Engine) : Prop where
  config : e'.config = e.config
  scopes : Evolves rebound e.scopes e'.scopes
  routes : ∀ (i : Nat) (r : Route), e.routes[i]? = some r →
    ∃ r', e'.routes[i]? = some r' ∧ r'.site = r.site

theorem Continues.refl (rebound : ScopeId → Prop) (e : Engine) : Continues rebound e e :=
  ⟨rfl, .refl _ _, fun _ r hr => ⟨r, hr, rfl⟩⟩

theorem Continues.trans {rebound : ScopeId → Prop} {e e' e'' : Engine}
    (h : Continues rebound e e') (h' : Continues rebound e' e'') : Continues rebound e e'' := by
  refine ⟨h'.config.trans h.config, h.scopes.trans h'.scopes, fun i r hr => ?_⟩
  obtain ⟨r', hr', hsite⟩ := h.routes i r hr
  obtain ⟨r'', hr'', hsite'⟩ := h'.routes i r' hr'
  exact ⟨r'', hr'', hsite'.trans hsite⟩

theorem Continues.mono {rebound rebound' : ScopeId → Prop} {e e' : Engine}
    (h : Continues rebound e e') (hle : ∀ j, rebound j → rebound' j) : Continues rebound' e e' :=
  ⟨h.config, h.scopes.mono hle, h.routes⟩

theorem continues_of_sites {rebound : ScopeId → Prop} {e e' : Engine}
    (hconfig : e'.config = e.config) (hscopes : Evolves rebound e.scopes e'.scopes)
    (hsites : e'.routes.map Route.site = e.routes.map Route.site) : Continues rebound e e' := by
  refine ⟨hconfig, hscopes, fun i r hr => ?_⟩
  obtain ⟨r', hr', hsite⟩ := sites_get? hsites.symm hr
  exact ⟨r', hr', hsite.symm⟩

theorem continues_update {rebound : ScopeId → Prop} {e : Engine} {id : ScopeId}
    {change : Scope → Scope} {scopes : ScopeTree} (h : e.scopes.update id change = .ok scopes)
    (hparent : ∀ s, (change s).parent = s.parent)
    (hcompiler : ∀ s, (change s).compiler = s.compiler) :
    Continues rebound e { e with scopes } :=
  continues_of_sites rfl (ScopeTree.evolves_update h hparent fun s => Or.inl (hcompiler s)) rfl

theorem continues_register? {e e' : Engine} {registration : Registration}
    (h : e.register? registration = .ok e') : Continues (Rebinds [.register registration]) e e' := by
  cases accepts_of_register? h with
  | childScope hchild => exact continues_of_sites rfl (ScopeTree.evolves_child hchild) rfl
  | @registerSchema scope root scopes hscopes =>
      obtain ⟨store, hu⟩ := ScopeTree.registerSchema_eq_ok hscopes
      exact continues_of_sites rfl
        (ScopeTree.evolves_update hu (fun _ => rfl) fun _ => Or.inl rfl)
        (sites_refreshed e.ready scopes e.routes)
  | @setCompiler scope compiler scopes hscopes =>
      exact continues_of_sites rfl (ScopeTree.evolves_update hscopes (fun _ => rfl)
        fun _ => Or.inr ⟨⟨compiler, List.mem_singleton_self _⟩, rfl⟩) rfl
  | setReplySerializer hscopes => exact continues_update hscopes (fun _ => rfl) fun _ => rfl
  | setErrorHandler hscopes => exact continues_update hscopes (fun _ => rfl) fun _ => rfl
  | addObserver hscopes => exact continues_update hscopes (fun _ => rfl) fun _ => rfl
  | addRoute =>
      refine ⟨rfl, .refl _ _, fun i r hr => ⟨r, ?_, rfl⟩⟩
      rw [List.getElem?_append_left (List.getElem?_eq_some_iff.mp hr).1]
      exact hr
  | diagnose => exact .refl _ _

theorem continues_makeReady (rebound : ScopeId → Prop) (e : Engine) :
    Continues rebound e e.makeReady.engine := by
  have hsites := sites_prepareAll e e.routes 0 {} { cache := e.cache }
  obtain ⟨ready, hengine, -⟩ := e.engine_makeReady
  rw [hengine]
  exact continues_of_sites rfl (.refl _ _) hsites

theorem continues_perform (e : Engine) (operation : Operation) :
    Continues (Rebinds [operation]) e (e.perform operation) := by
  cases operation with
  | register registration =>
      change Continues _ e (e.register registration)
      rcases e.register_eq registration with heq | hok
      · rw [heq]
        exact .refl _ _
      · exact continues_register? hok
  | ready => exact continues_makeReady _ e
  | clearCache => exact continues_of_sites rfl (.refl _ _) rfl
  | serialize id status contentType value => exact continues_of_sites rfl (.refl _ _) rfl
  | send id reply => exact continues_of_sites rfl (.refl _ _) rfl
  | validate id request => exact continues_of_sites rfl (.refl _ _) rfl
  | dispatch id request handler => exact continues_of_sites rfl (.refl _ _) rfl

theorem continues_run (e : Engine) : ∀ operations : List Operation,
    Continues (Rebinds operations) e (e.run operations)
  | [] => .refl _ _
  | operation :: rest => by
      refine ((continues_perform e operation).mono ?_).trans
        ((continues_run (e.perform operation) rest).mono ?_)
      · rintro j ⟨compiler, hmem⟩
        exact ⟨compiler, List.mem_singleton.mp hmem ▸ List.mem_cons_self⟩
      · rintro j ⟨compiler, hmem⟩
        exact ⟨compiler, List.mem_cons_of_mem _ hmem⟩

/-! ## §2  The compiler in force -/

theorem compilerFor_of_boundAt? {e : Engine} {r : Route} {scope : ScopeId} {c : Compiler}
    (hown : r.declaration.compiler = none) (hnearest : e.scopes.boundAt? r.scope = some scope)
    (hc : e.scopes.ownCompiler? scope = some c) : e.compilerFor r = c := by
  rw [compilerFor, hown, ScopeTree.compiler?_eq_boundAt?, hnearest, Option.bind_some, hc]
  rfl

/-- The compiler that is in force in the end because of a binding was in force before, once the
binding was there. -/
theorem Continues.compilerFor_of_boundAt? {rebound : ScopeId → Prop} {e e' : Engine}
    (h : Continues rebound e e') {id : RouteId} {r r' : Route}
    (hr : e.routes[id.index]? = some r) (hr' : e'.routes[id.index]? = some r')
    (hplaced : r.scope.index < e.scopes.scopes.length) (hown : r'.declaration.compiler = none)
    {scope : ScopeId} (hnearest : e'.scopes.boundAt? r'.scope = some scope) {c : Compiler}
    (hc : e.scopes.ownCompiler? scope = some c) : e.compilerFor r = c := by
  obtain ⟨r'', hr'', hsite⟩ := h.routes id.index r hr
  obtain rfl : r'' = r' := Option.some.inj (hr''.symm.trans hr')
  have hscope : r''.scope = r.scope := Route.eq_of_site Route.scope (fun _ => rfl) hsite
  have hdeclaration : r''.declaration = r.declaration :=
    Route.eq_of_site Route.declaration (fun _ => rfl) hsite
  rw [hdeclaration] at hown
  rw [hscope] at hnearest
  refine Engine.compilerFor_of_boundAt? hown ?_ hc
  exact ScopeTree.boundAt?_of_evolves h.scopes (by rw [hc]; rfl) r.scope
    (List.getElem?_eq_getElem hplaced) hnearest

theorem Continues.compilerFor {rebound : ScopeId → Prop} {e e' : Engine}
    (h : Continues rebound e e') (hrebound : ∀ j, ¬ rebound j) {r r' : Route}
    (hplaced : r.scope.index < e.scopes.scopes.length) (hsite : r'.site = r.site) :
    e'.compilerFor r' = e.compilerFor r := by
  rw [Route.eq_of_site e'.compilerFor (fun _ => rfl) hsite, Engine.compilerFor,
    Engine.compilerFor, h.config, h.scopes.compiler? hrebound hplaced]

/-! ## §3  After one binding -/

/-- Whether nothing that was compiled for a route is kept. -/
def Unkept (e : Engine) (id : RouteId) : Prop :=
  ∀ key : ArtifactKey, key.route = id → Table.find? key e.cache.entries = none

theorem setCompiler_eq_ok {e e' : Engine} {scope : ScopeId} {c : Compiler}
    (h : e.setCompiler scope c = .ok e') :
    ∃ scopes, e.scopes.update scope (fun s => { s with compiler := some c }) = .ok scopes ∧
      e' = { e with scopes, cache := if e.ready then e.cache.clear else e.cache } := by
  obtain ⟨scopes, hscopes, h⟩ := Result.bind_eq_ok.mp h
  rw [Result.pure_eq_ok] at h
  exact ⟨scopes, hscopes, h.symm⟩

theorem unkept_setCompiler {e e' : Engine} {scope : ScopeId} {c : Compiler} {id : RouteId}
    (h : e.setCompiler scope c = .ok e') (hkept : e.ready = true ∨ Unkept e id) :
    Unkept e' id := by
  obtain ⟨scopes, -, rfl⟩ := setCompiler_eq_ok h
  intro key hkey
  dsimp only
  split
  · rfl
  · rename_i hready
    exact hkept.resolve_left hready key hkey

theorem ownCompiler?_setCompiler {e e' : Engine} {scope : ScopeId} {c : Compiler}
    (h : e.setCompiler scope c = .ok e') : e'.scopes.ownCompiler? scope = some c := by
  obtain ⟨scopes, hscopes, rfl⟩ := setCompiler_eq_ok h
  obtain ⟨s, hs, -⟩ := ScopeTree.update_eq_ok.mp hscopes
  rw [ScopeTree.ownCompiler?, ScopeTree.get?_update hscopes, if_pos rfl, hs]
  rfl

theorem unkept_of_traced {e : Engine} {id : RouteId} {C : Compiler → Prop}
    (h : Traced e id C e.cache)
    (hnone : e.routes[id.index]? = none ∨ ∀ c, ¬ C c) : Unkept e id := by
  intro key hkey
  cases hfind : Table.find? key e.cache.entries with
  | none => rfl
  | some entry =>
      obtain ⟨r, _, _, c, _, hr, -, -, -, hc, -⟩ := h key entry.1 entry.2 hkey hfind
      rcases hnone with hnone | hnone
      · rw [hr] at hnone
        cases hnone
      · exact absurd hc (hnone c)

theorem Lived.unkept {e : Engine} {id : RouteId} {C C' : Compiler → Prop} (h : Lived e id C)
    (hkept : Unkept e id) : Lived e id C' :=
  ⟨h.placed, h.remembering, h.prepared, traced_of_unkept hkept⟩

theorem serves_of_setCompiler {e e₁ : Engine} {id : RouteId} {C : Compiler → Prop}
    (h : Lived e id C) {scope : ScopeId} {c : Compiler} (hbind : e.setCompiler scope c = .ok e₁)
    (hkept : e.ready = true ∨ Unkept e id) {after : List Operation}
    (hlast : ¬ Rebinds after scope) {r : Route}
    (hr : (e₁.run after).routes[id.index]? = some r) (hown : r.declaration.compiler = none)
    (hnearest : (e₁.run after).scopes.boundAt? r.scope = some scope) :
    Serves (e₁.run after) id r (· = c) ((e₁.run after).Uses r) := by
  have hregister : e.register? (.setCompiler scope c) = .ok e₁ := hbind
  have hbound := h.registers (registers_register? hregister)
  have hlived : ∀ C', Lived e₁ id C' := fun C' => hbound.unkept (unkept_setCompiler hbind hkept)
  have hforce : ∀ front rest, after = front ++ rest → InForce (e₁.run front) id (· = c) := by
    intro front rest hsplit r' hr'
    have hcontinues : Continues (Rebinds rest) (e₁.run front) (e₁.run after) := by
      rw [hsplit, run_append]
      exact continues_run (e₁.run front) rest
    have hplaced := (lived_run (hlived fun _ => True) front
      fun _ _ _ _ _ => trivial).placed r' (List.mem_of_getElem? hr')
    refine hcontinues.compilerFor_of_boundAt? hr' hr hplaced hown hnearest ?_
    -- the scope was bound and is not bound again
    obtain ⟨s, hs, hc⟩ := Option.bind_eq_some_iff.mp (ownCompiler?_setCompiler hbind)
    have hstays := (continues_run e₁ front).scopes.ownCompiler? hs ?_
    · rw [hstays]
      exact ownCompiler?_setCompiler hbind
    · rintro ⟨k, hmem⟩
      exact hlast ⟨k, hsplit ▸ List.mem_append_left _ hmem⟩
  have hend := lived_run (hlived (· = c)) after hforce
  exact serves hend.remembering hend.traced (hforce after [] (List.append_nil _).symm) hr

/-! ## §4  After many bindings -/

/-- Whether each binding of a run finds the engine ready or nothing kept for a route, or leaves the
compiler that is in force for the route. -/
def BindsInTime (e : Engine) (id : RouteId) (operations : List Operation) : Prop :=
  ∀ front rest scope c e', operations = front ++ .register (.setCompiler scope c) :: rest →
    (e.run front).setCompiler scope c = .ok e' →
      (e.run front).ready = true ∨ Unkept (e.run front) id ∨
        ∀ r, (e.run front).routes[id.index]? = some r →
          e'.compilerFor r = (e.run front).compilerFor r

def IsInForce (e : Engine) (id : RouteId) (c : Compiler) : Prop :=
  ∀ r, e.routes[id.index]? = some r → c = e.compilerFor r

theorem inForce_isInForce (e : Engine) (id : RouteId) : InForce e id (IsInForce e id) := by
  intro r hr r' hr'
  rw [Option.some.inj (hr.symm.trans hr')]

theorem Lived.isInForce {e e' : Engine} {id : RouteId} (h : Lived e' id (IsInForce e id))
    (hcontinues : ∀ r', e'.routes[id.index]? = some r' →
      ∃ r, e.routes[id.index]? = some r ∧ e'.compilerFor r' = e.compilerFor r) :
    Lived e' id (IsInForce e' id) := by
  refine ⟨h.placed, h.remembering, h.prepared, fun key version serializer hkey hfind => ?_⟩
  obtain ⟨r, d, slot, c, schemas, hr, hd, hslot, hkey', hc, hmade⟩ :=
    h.traced key version serializer hkey hfind
  refine ⟨r, d, slot, c, schemas, hr, hd, hslot, hkey', fun r' hr' => ?_, hmade⟩
  obtain ⟨r₀, hr₀, hcompiler⟩ := hcontinues r' hr'
  rw [hcompiler]
  exact hc r₀ hr₀

/-- An operation that is no binding, or a binding in time, leaves only artifacts of the compiler in
force. -/
theorem Lived.performInTime {e : Engine} {id : RouteId} (h : Lived e id (IsInForce e id))
    {operation : Operation} {rest : List Operation}
    (hintime : BindsInTime e id (operation :: rest)) :
    Lived (e.perform operation) id (IsInForce (e.perform operation) id) := by
  have hafter := h.perform (inForce_isInForce e id) operation
  have hcontinues := continues_perform e operation
  cases hr : e.routes[id.index]? with
  | none =>
      -- there is no route yet, so nothing is compiled for it
      have hnothing : Lived e id fun _ => False := h.unkept (unkept_of_traced h.traced (Or.inl hr))
      have hforce : InForce e id fun _ => False := fun r hr' => by
        rw [hr] at hr'
        cases hr'
      have hstill := hnothing.perform hforce operation
      exact hstill.unkept (unkept_of_traced hstill.traced (Or.inr fun _ hfalse => hfalse))
  | some r =>
      have hplaced := h.placed r (List.mem_of_getElem? hr)
      have hstays : (∀ r', (e.perform operation).routes[id.index]? = some r' →
          r'.site = r.site → (e.perform operation).compilerFor r' = e.compilerFor r) →
          Lived (e.perform operation) id (IsInForce (e.perform operation) id) := by
        intro hcompiler
        refine hafter.isInForce fun r' hr' => ⟨r, hr, ?_⟩
        obtain ⟨r'', hr'', hsite⟩ := hcontinues.routes id.index r hr
        obtain rfl := Option.some.inj (hr''.symm.trans hr')
        exact hcompiler r'' hr' hsite
      by_cases hbinds : ∃ scope c e', operation = .register (.setCompiler scope c) ∧
          e.setCompiler scope c = .ok e'
      · obtain ⟨scope, c, e', rfl, hbind⟩ := hbinds
        have he' : e.perform (.register (.setCompiler scope c)) = e' := by
          change (e.setCompiler scope c).toOption.getD e = e'
          rw [hbind]
          rfl
        rw [he'] at hafter hstays ⊢
        rcases hintime [] rest scope c e' rfl hbind with hready | hkept | hsame
        · exact hafter.unkept (unkept_setCompiler hbind (Or.inl hready))
        · exact hafter.unkept (unkept_setCompiler hbind (Or.inr hkept))
        · refine hstays fun r' hr' hsite => ?_
          rw [Route.eq_of_site e'.compilerFor (fun _ => rfl) hsite]
          exact hsame r hr
      · refine hstays fun r' hr' hsite => ?_
        by_cases hrebinds : ∃ j, Rebinds [operation] j
        · -- a binding that is refused leaves the engine as it is
          obtain ⟨scope, c, hmem⟩ := hrebinds
          obtain rfl := List.mem_singleton.mp hmem
          rcases e.register_eq (.setCompiler scope c) with heq | hok
          · have hperform : e.perform (.register (.setCompiler scope c)) = e := heq
            rw [hperform, Route.eq_of_site e.compilerFor (fun _ => rfl) hsite]
          · exact absurd ⟨scope, c, _, rfl, hok⟩ hbinds
        · exact hcontinues.compilerFor (fun j hj => hrebinds ⟨j, hj⟩) hplaced hsite

theorem BindsInTime.tail {e : Engine} {id : RouteId} {operation : Operation}
    {rest : List Operation} (h : BindsInTime e id (operation :: rest)) :
    BindsInTime (e.perform operation) id rest :=
  fun front back scope c e' hsplit =>
    h (operation :: front) back scope c e' (by rw [hsplit]; rfl)

theorem Lived.runInTime {id : RouteId} : ∀ {e : Engine} (operations : List Operation),
    Lived e id (IsInForce e id) → BindsInTime e id operations →
      Lived (e.run operations) id (IsInForce (e.run operations) id)
  | _, [], h, _ => h
  | _, _ :: rest, h, hintime => Lived.runInTime rest (h.performInTime hintime) hintime.tail

/-- **A binding takes effect**, if it is made when the engine is ready or when nothing is kept for
the route: every call on a route without a compiler of its own uses what that compiler makes, as
long as the binding is the nearest one and is not replaced.  And where all bindings of a run are
made in time, no call uses what any but the compiler in force makes. -/
theorem binding_takes_effect (config : EngineConfig) :
    (∀ before scope c e₁ after id r,
      ((ofConfig config).run before).setCompiler scope c = .ok e₁ →
      (((ofConfig config).run before).ready = true ∨ Unkept ((ofConfig config).run before) id) →
      ¬ Rebinds after scope →
      (e₁.run after).routes[id.index]? = some r → r.declaration.compiler = none →
      (e₁.run after).scopes.boundAt? r.scope = some scope →
      Serves (e₁.run after) id r (· = c) ((e₁.run after).Uses r)) ∧
    (∀ operations id r, BindsInTime (ofConfig config) id operations →
      ((ofConfig config).run operations).routes[id.index]? = some r →
      Serves ((ofConfig config).run operations) id r
        (· = ((ofConfig config).run operations).compilerFor r)
        (((ofConfig config).run operations).Uses r)) := by
  refine ⟨fun before scope c e₁ after id r hbind hkept hlast hr hown hnearest => ?_,
    fun operations id r hintime hr => ?_⟩
  · exact serves_of_setCompiler (lived_reachable config before id) hbind hkept hlast hr hown
      hnearest
  · have hlived := Lived.runInTime operations (lived_ofConfig config id _) hintime
    refine serves hlived.remembering ?_ (fun r' hr' => by rw [Option.some.inj (hr'.symm.trans hr)]) hr
    intro key version serializer hkey hfind
    obtain ⟨r', d, slot, c, schemas, hr', hd, hslot, hkey', hc, hmade⟩ :=
      hlived.traced key version serializer hkey hfind
    exact ⟨r', d, slot, c, schemas, hr', hd, hslot, hkey', hc r hr, hmade⟩

def constant : Compiler := .custom none fun _ => .ok fun _ => .ok (.text "bound")

def textReplies : Json := .object [("200", .object [("type", .string "string")])]

def textRoute : Operation :=
  .register (.addRoute .root { method := "get", url := "/a", response := some textReplies })

def serializeFive : Operation := .serialize ⟨0⟩ 200 none (.nat 5)

theorem setCompiler_eq_register {e : Engine} {scope : ScopeId} {c : Compiler}
    (h : (e.setCompiler scope c).toOption.isSome = true) :
    e.setCompiler scope c = .ok (e.register (.setCompiler scope c)) := by
  rcases e.register_eq (.setCompiler scope c) with heq | hok
  · cases hbind : e.setCompiler scope c with
    | error fault =>
        rw [hbind] at h
        cases h
    | ok e' =>
        have hregister : e.register (.setCompiler scope c) = e' := by
          change (e.setCompiler scope c).toOption.getD e = e'
          rw [hbind]
          rfl
        rw [hregister]
  · exact hok

theorem exists_route {e : Engine}
    (h : (e.routes[0]?).map (fun r => (r.declaration.compiler.isNone, e.scopes.boundAt? r.scope)) =
      some (true, some .root)) :
    ∃ r, e.routes[0]? = some r ∧ r.declaration.compiler = none ∧
      e.scopes.boundAt? r.scope = some .root := by
  obtain ⟨r, hr, hfacts⟩ := Option.map_eq_some_iff.mp h
  obtain ⟨hown, hnearest⟩ := Prod.mk.inj hfacts
  exact ⟨r, hr, Option.isNone_iff_eq_none.mp hown, hnearest⟩

def readied : Engine := (ofConfig {}).run [textRoute, serializeFive, .ready]

def bindConstant : Registration := .setCompiler .root constant

theorem binding_takes_effect_readied :
    (∃ r, ((readied.register bindConstant).run [serializeFive]).routes[0]? = some r ∧
      Serves ((readied.register bindConstant).run [serializeFive]) ⟨0⟩ r (· = constant)
        (((readied.register bindConstant).run [serializeFive]).Uses r)) ∧
    ∃ r, (readied.run [.register bindConstant, serializeFive]).routes[0]? = some r ∧
      Serves (readied.run [.register bindConstant, serializeFive]) ⟨0⟩ r
        (· = (readied.run [.register bindConstant, serializeFive]).compilerFor r)
        ((readied.run [.register bindConstant, serializeFive]).Uses r) := by
  have hready : readied.ready = true := by decide +kernel
  have hbind : readied.setCompiler .root constant = .ok (readied.register bindConstant) :=
    setCompiler_eq_register (by decide +kernel)
  obtain ⟨r, hr, hown, hnearest⟩ :=
    exists_route (e := (readied.register bindConstant).run [serializeFive]) (by decide +kernel)
  refine ⟨⟨r, hr, (binding_takes_effect {}).1 _ _ _ _ _ ⟨0⟩ r hbind (Or.inl hready) ?_ hr hown
    hnearest⟩, r, hr, (binding_takes_effect {}).2
      [textRoute, serializeFive, .ready, .register bindConstant, serializeFive] ⟨0⟩ r ?_ hr⟩
  · rintro ⟨c, hmem⟩
    cases List.mem_singleton.mp hmem
  · intro front rest scope c e' hsplit _
    rcases front with _ | ⟨_, _ | ⟨_, _ | ⟨_, _ | ⟨_, _ | ⟨_, front⟩⟩⟩⟩⟩
    · cases hsplit
    · cases hsplit
    · cases hsplit
    · -- the one binding comes after the call of ready
      cases hsplit
      exact Or.inl hready
    · cases hsplit
    · simp at hsplit

/-- An engine with an early call that was not made ready. -/
def unreadied : Engine := (ofConfig {}).run [textRoute, serializeFive]

/-- **A binding that finds the engine not ready does not take effect** where an early call has
compiled: the text of the built-in compiler is still sent. -/
theorem not_binding_takes_effect :
    ¬ ∀ (config : EngineConfig) (before : List Operation) (scope : ScopeId) (c : Compiler)
      (e₁ : Engine) (after : List Operation) (id : RouteId) (r : Route),
      ((ofConfig config).run before).setCompiler scope c = .ok e₁ → ¬ Rebinds after scope →
      (e₁.run after).routes[id.index]? = some r → r.declaration.compiler = none →
      (e₁.run after).scopes.boundAt? r.scope = some scope →
      Serves (e₁.run after) id r (· = c) ((e₁.run after).Uses r) := by
  intro hall
  have hbind : unreadied.setCompiler .root constant = .ok (unreadied.register bindConstant) :=
    setCompiler_eq_register (by decide +kernel)
  obtain ⟨r, hr, hown, hnearest⟩ :=
    exists_route (e := (unreadied.register bindConstant).run []) (by decide +kernel)
  have hserves := hall {} [textRoute, serializeFive] .root constant _ [] ⟨0⟩ r hbind
    (by rintro ⟨c, hmem⟩; cases hmem) hr hown hnearest
  -- what is sent is neither the text of the bound compiler nor that of no schema
  have htext : (((unreadied.register bindConstant).run []).serialize ⟨0⟩ 200 none
      (.nat 5)).result.toOption.map Payload.toText = some "\"5\"" := by
    decide +kernel
  rcases hserves.text_cases htext with hgeneric |
    ⟨d, slot, compiler, schemas, serializer, payload, -, -, rfl, -, hmade, hpayload, hbound⟩
  · revert hgeneric
    decide +kernel
  · cases hmade
    cases hpayload
    revert hbound
    decide

end ReplySchema.Engine

import ReplySchema.Proofs.Engine.Lived
import ReplySchema.Proofs.Scope.Address

/-! # The addresses of routes

A route stands below the prefixes of its scope and of the scopes above it, and its address is its
path behind all of them.  Where scopes are opened one below the other, the address depends on the
join of their paths alone (`urlBelow_eq`), so a scope of slashes on the way makes no difference.

Every address starts with a slash, since every prefix but the outermost does and the outermost is
empty (`Slashed`).  No operation on an engine changes that (`slashed_run`).
-/

set_option autoImplicit false

namespace ReplySchema.Engine

open Address (IsRooted join)

/-! ## §1  Routes below nested scopes -/

/-- The engine after scopes were opened one below the other, and the innermost of them. -/
def nestScopes (e : Engine) (parent : ScopeId) : List String → Except EngineError (Engine × ScopeId)
  | [] => .ok (e, parent)
  | path :: rest => do
      let (e', id) ← e.childScope parent path
      e'.nestScopes id rest

def urlBelow (e : Engine) (parent : ScopeId) (paths : List String) (declaration : RouteDeclaration) :
    Except EngineError String := do
  let (e', scope) ← e.nestScopes parent paths
  let (e'', id) ← e'.addRoute scope declaration
  return (← e''.route id).url

/-- What the address of a route is in a scope, or why it gets none. -/
def urlAt (e : Engine) (declaration : RouteDeclaration) (address : String) :
    Except EngineError String :=
  if e.ready then
    .error (.routeAfterReady (Text.upper (Text.trim declaration.method))
      (join address declaration.url))
  else .ok (join address declaration.url)

theorem urlBelow_nil (e : Engine) (scope : ScopeId) (declaration : RouteDeclaration) :
    e.urlBelow scope [] declaration =
      (e.scopes.get scope).bind fun above => e.urlAt declaration above.address := by
  unfold urlBelow nestScopes addRoute urlAt
  cases habove : e.scopes.get scope with
  | error fault =>
      simp only [bind, Except.bind, habove]
  | ok above =>
      by_cases hready : e.ready = true
      · simp [bind, Except.bind, habove, hready, throw, throwThe, MonadExceptOf.throw]
      · simp [bind, Except.bind, pure, Except.pure, habove, hready, route]

/-- **The address of a route is its path behind the paths of its scopes.** -/
theorem urlBelow_eq (e : Engine) (parent : ScopeId) (paths : List String)
    (declaration : RouteDeclaration) :
    e.urlBelow parent paths declaration = (e.scopes.get parent).bind fun above =>
      e.urlAt declaration (paths.foldl join above.address) := by
  induction paths generalizing e parent with
  | nil => exact urlBelow_nil e parent declaration
  | cons path rest ih =>
      have hstep : e.urlBelow parent (path :: rest) declaration =
          (e.childScope parent path).bind fun opened =>
            opened.1.urlBelow opened.2 rest declaration := by
        unfold urlBelow
        rw [nestScopes]
        cases e.childScope parent path <;> rfl
      rw [hstep]
      cases habove : e.scopes.get parent with
      | error fault =>
          unfold childScope ScopeTree.child
          rw [habove]
          rfl
      | ok above =>
          have hopened : e.childScope parent path = .ok
              ({ e with scopes := { scopes := e.scopes.scopes ++
                [{ parent := some parent, address := join above.address path }] } },
                ⟨e.scopes.scopes.length⟩) := by
            unfold childScope ScopeTree.child
            rw [habove]
            rfl
          rw [hopened]
          simp only [Except.bind, ih]
          simp [ScopeTree.get, ScopeTree.get?, urlAt]

/-! ## §2  What no operation changes -/

/-- Whether every scope has a rooted prefix, and every route an address that starts with a slash. -/
structure Slashed (e : Engine) : Prop where
  scope : ∀ id s, e.scopes.get? id = some s → IsRooted s.address
  route : ∀ r ∈ e.routes, r.url.toList.head? = some '/'

theorem slashed_ofConfig (config : EngineConfig) : (ofConfig config).Slashed where
  scope := by
    rintro ⟨_ | i⟩ s hs
    · cases hs
      exact Or.inl rfl
    · cases hs
  route r hr := by cases hr

variable {e e' : Engine}

/-- **A route below a scope of the engine gets an address that starts with a slash**, and the
refusal of a late route names such an address. -/
theorem Slashed.exists_urlBelow (h : e.Slashed) {parent : ScopeId} {above : Scope}
    (habove : e.scopes.get? parent = some above) (paths : List String)
    (declaration : RouteDeclaration) :
    ∃ url : String, url.toList.head? = some '/' ∧ e.urlBelow parent paths declaration =
      if e.ready then .error (.routeAfterReady (Text.upper (Text.trim declaration.method)) url)
      else .ok url := by
  refine ⟨join (paths.foldl join above.address) declaration.url, ?_, ?_⟩
  · exact Address.head?_join (Address.isRooted_foldl_join (h.scope parent above habove) paths) _
  · rw [urlBelow_eq, ScopeTree.get_eq_ok.mpr habove]
    rfl

theorem Slashed.routes_of_sites (h : e.Slashed) {routes : List Route}
    (hsites : routes.map Route.site = e.routes.map Route.site) :
    ∀ r ∈ routes, r.url.toList.head? = some '/' := by
  intro r' hr'
  have hsites' : ({ e with routes } : Engine).routes.map Route.site = e.routes.map Route.site :=
    hsites
  obtain ⟨r, hr, hsite⟩ := exists_of_sites hsites' hr'
  rw [Route.eq_of_site Route.url (fun _ => rfl) hsite]
  exact h.route r hr

theorem Slashed.update (h : e.Slashed) {scopes : ScopeTree} {id : ScopeId} {change : Scope → Scope}
    (hscopes : e.scopes.update id change = .ok scopes)
    (hsame : ∀ s, (change s).address = s.address) {routes : List Route}
    (hsites : routes.map Route.site = e.routes.map Route.site) {cache : Cache Serializer} :
    Slashed { e with scopes, routes, cache } where
  scope j s hs := by
    rw [ScopeTree.get?_update hscopes] at hs
    split at hs
    · obtain ⟨s', hs', rfl⟩ := Option.map_eq_some_iff.mp hs
      rw [hsame]
      exact h.scope j s' hs'
    · exact h.scope j s hs
  route := h.routes_of_sites hsites

/-- A registration that is not refused leaves an engine slashed. -/
theorem Slashed.register? (h : e.Slashed) {r : Registration} (hr : e.register? r = .ok e') :
    e'.Slashed := by
  cases accepts_of_register? hr with
  -- the new scope is the only one with a new prefix
  | @childScope parent id path scopes hchild =>
      obtain ⟨above, habove, hchild⟩ := Result.bind_eq_ok.mp hchild
      rw [Result.pure_eq_ok, Prod.mk.injEq] at hchild
      obtain ⟨rfl, -⟩ := hchild
      refine ⟨fun j s hs => ?_, h.route⟩
      unfold ScopeTree.get? at hs
      rcases List.mem_append.mp (List.mem_of_getElem? hs) with hold | hnew
      · obtain ⟨i, hi⟩ := List.mem_iff_getElem?.mp hold
        exact h.scope ⟨i⟩ s hi
      · rw [List.mem_singleton.mp hnew]
        exact Or.inr (Address.head?_join
          (h.scope parent above (ScopeTree.get_eq_ok.mp habove)) path)
  -- the other changes to a scope keep its prefix; a refreshed route stays at its place
  | @registerSchema scope root scopes hscopes =>
      obtain ⟨store, hu⟩ := ScopeTree.registerSchema_eq_ok hscopes
      exact h.update hu (fun _ => rfl) (sites_refreshed e.ready scopes e.routes)
  | setCompiler hscopes => exact h.update hscopes (fun _ => rfl) rfl
  | setReplySerializer hscopes => exact h.update hscopes (fun _ => rfl) rfl
  | setErrorHandler hscopes => exact h.update hscopes (fun _ => rfl) rfl
  | addObserver hscopes => exact h.update hscopes (fun _ => rfl) rfl
  | @addRoute scope above declaration habove =>
      refine ⟨h.scope, fun r hr => ?_⟩
      rcases List.mem_append.mp hr with hold | hnew
      · exact h.route r hold
      · rw [List.mem_singleton.mp hnew]
        exact Address.head?_join
          (h.scope scope above (ScopeTree.get_eq_ok.mp habove)) declaration.url
  | diagnose => exact h

theorem Slashed.perform (h : e.Slashed) (operation : Operation) :
    (e.perform operation).Slashed := by
  cases operation with
  | register r =>
      change (e.register r).Slashed
      rcases e.register_eq r with heq | hok
      · rwa [heq]
      · exact h.register? hok
  | ready =>
      obtain ⟨ready, hengine, -⟩ := e.engine_makeReady
      have hsites := sites_prepareAll e e.routes 0 {} { cache := e.cache }
      change e.makeReady.engine.Slashed
      rw [hengine]
      exact ⟨h.scope, Slashed.routes_of_sites h hsites⟩
  | _ => exact ⟨h.scope, h.route⟩

/-- **No run leaves a prefix or an address without its slash.** -/
theorem slashed_run (config : EngineConfig) (operations : List Operation) :
    ((ofConfig config).run operations).Slashed :=
  run_induct (slashed_ofConfig config) operations fun _ operation _ _ h => h.perform operation

/-! ## §3  Addresses compose -/

/-- **The addresses of routes compose.**  Joining is associative where no blanks stand in between.
A scope of slashes, or of nothing, anywhere on the way to a route does not change what the route
is answered.  And whatever was done with an engine, its routes have addresses that start with a
slash, and so has each route that is declared below one of its scopes. -/
theorem addresses_compose (config : EngineConfig) (operations : List Operation) :
    (∀ front path below : String, (∀ c ∈ path.toList, Text.isBlank c = false) →
      join (join front path) below = join front (join path below)) ∧
    (∀ (e : Engine) (parent : ScopeId) (outer : List String) (scope : String) (inner : List String)
      (declaration : RouteDeclaration), (∀ c ∈ (Text.trim scope).toList, c = '/') →
      e.urlBelow parent (outer ++ scope :: inner) declaration =
        e.urlBelow parent (outer ++ inner) declaration) ∧
    let e := (ofConfig config).run operations
    (∀ r ∈ e.routes, r.url.toList.head? = some '/') ∧
    ∀ parent above, e.scopes.get? parent = some above →
      ∀ (paths : List String) (declaration : RouteDeclaration),
        ∃ url : String, url.toList.head? = some '/' ∧ e.urlBelow parent paths declaration =
          if e.ready then
            .error (.routeAfterReady (Text.upper (Text.trim declaration.method)) url)
          else .ok url := by
  have hslashed := slashed_run config operations
  refine ⟨fun front path below hpath => Address.join_join front hpath below, ?_, hslashed.route,
    fun parent above habove paths declaration => hslashed.exists_urlBelow habove paths declaration⟩
  intro e parent outer scope inner declaration hscope
  have hurl : ∀ address : String, join ((outer ++ scope :: inner).foldl join address)
      declaration.url = join ((outer ++ inner).foldl join address) declaration.url := by
    intro address
    rw [List.foldl_append, List.foldl_append, List.foldl_cons]
    exact Address.join_foldl_slashes hscope _ inner _
  simp only [urlBelow_eq, urlAt, hurl]

def slashedScopes : List Operation :=
  [.register (.childScope .root "api//"), .register (.childScope ⟨1⟩ " / "),
    .register (.addRoute ⟨2⟩ { method := "get", url := "items" })]

/-- The addresses of an engine with scopes of slashes, where the hypotheses hold. -/
theorem addresses_compose_slashedScopes :
    (∀ c ∈ "api//".toList, Text.isBlank c = false) ∧
    (∀ c ∈ (Text.trim " / ").toList, c = '/') ∧
    join (join "" "api//") "/items" = join "" (join "api//" "/items") ∧
    ((ofConfig {}).run slashedScopes).urlBelow ⟨1⟩ ["v1", "", "v2"] { method := "get", url := "/" } =
      .ok "/api/v1/v2" ∧
    (((ofConfig {}).run slashedScopes).routes.map Route.url) = ["/api/items"] ∧
    ∃ url : String, url.toList.head? = some '/' ∧
      ((ofConfig {}).run slashedScopes).urlBelow ⟨2⟩ [] { method := "get", url := "" } =
        .ok url := by
  have hpath : ∀ c ∈ "api//".toList, Text.isBlank c = false := by
    have hall : ("api//".toList.all fun c => Text.isBlank c == false) = true := by decide +kernel
    exact fun c hc => beq_iff_eq.mp (List.all_eq_true.mp hall c hc)
  have hslashed : ∀ scope ∈ [" / ", ""], ∀ c ∈ (Text.trim scope).toList, c = '/' := by
    have hall : ([" / ", ""].all fun scope => (Text.trim scope).toList.all (· == '/')) = true := by
      decide +kernel
    exact fun scope hscope c hc =>
      beq_iff_eq.mp (List.all_eq_true.mp (List.all_eq_true.mp hall scope hscope) c hc)
  have hscope := hslashed " / " (by simp)
  have hempty := hslashed "" (by simp)
  obtain ⟨hjoin, hslashes, -, hurl⟩ := addresses_compose {} slashedScopes
  refine ⟨hpath, hscope, hjoin "" "api//" "/items" hpath, ?_, by decide +kernel, ?_⟩
  · exact (hslashes _ ⟨1⟩ ["v1"] "" ["v2"] _ hempty).trans rfl
  · obtain ⟨above, habove⟩ : ∃ s, ((ofConfig {}).run slashedScopes).scopes.get? ⟨2⟩ = some s :=
      ⟨_, rfl⟩
    exact hurl ⟨2⟩ above habove [] { method := "get", url := "" }

end ReplySchema.Engine

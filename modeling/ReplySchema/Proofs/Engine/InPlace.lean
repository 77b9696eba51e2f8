import ReplySchema.Proofs.Engine.History
import ReplySchema.Proofs.Engine.Lived
import ReplySchema.Proofs.Engine.Versions

/-! # Registrations in place

`Engine.register?` makes a new engine, so a refusal has nothing to undo.  Here are the same
registrations as programs that change one engine step by step: they look scopes up one at a time,
and they write what they have before they look further.  A failure ends such a program and undoes
nothing.

On an engine whose scopes are rooted and whose routes stand in scopes (`Sound`) every lookup behind
the first write succeeds.  So there a program that fails has written nothing, and a program that
does not comes to the engine of `register?` (`exec_registering`).
-/

set_option autoImplicit false

namespace ReplySchema

-- Sums are those of the core library, whatever else is imported.
attribute [local instance (high)] Zero.ofOfNat0

/-- What an operation on an engine comes to. -/
inductive Outcome where
  | done
  | scope (id : ScopeId)
  | route (id : RouteId)
  | issues (issues : List Engine.Issue)
  | ready (report : Engine.ReadyReport)
  | payload (payload : Payload)
  | sent (response : SentResponse)
  | validated (error : Option HandlerError)

namespace InPlace

/-! ## §1  Programs -/

/-- A program that changes an engine in its place.  A failure undoes nothing. -/
abbrev Program (α : Type) := ExceptT EngineError (StateM Engine) α

/-- The result of a program and what it leaves of the engine. -/
def exec {α : Type} (program : Program α) (e : Engine) : Except EngineError α × Engine :=
  program.run.run e

def look {α : Type} (f : Engine → Except EngineError α) : Program α :=
  ExceptT.mk fun e => (f e, e)

def write (f : Engine → Engine) : Program Unit := ExceptT.mk fun e => (.ok (), f e)

/-- What a program should come to: the new engine, or none and the old one is left. -/
def settle {α : Type} (e : Engine) : Except EngineError (α × Engine) → Except EngineError α × Engine
  | .ok (a, e') => (.ok a, e')
  | .error fault => (.error fault, e)

section

variable {α β : Type} {e e' : Engine} {p : Program α} {f : α → Program β} {a : α}
  {fault : EngineError}

@[simp] theorem exec_pure : exec (pure a) e = (.ok a, e) := rfl

@[simp] theorem exec_look (f : Engine → Except EngineError α) : exec (look f) e = (f e, e) := rfl

@[simp] theorem exec_write (f : Engine → Engine) : exec (write f) e = (.ok (), f e) := rfl

theorem exec_bind : exec (p >>= f) e =
    match exec p e with
    | (.ok a, e') => exec (f a) e'
    | (.error fault, e') => (.error fault, e') := by
  show (p.run >>= ExceptT.bindCont f : StateM Engine _) e = _
  simp only [exec, bind, StateT.bind, StateT.run, ExceptT.run]
  cases p e with
  | mk result e' => cases result <;> rfl

theorem exec_bind_of_ok (h : exec p e = (.ok a, e')) : exec (p >>= f) e = exec (f a) e' := by
  rw [exec_bind, h]

theorem exec_bind_of_error (h : exec p e = (.error fault, e')) :
    exec (p >>= f) e = (.error fault, e') := by
  rw [exec_bind, h]

theorem exec_map (g : α → β) : exec (g <$> p) e = ((exec p e).1.map g, (exec p e).2) := by
  show exec (p >>= fun a => pure (g a)) e = _
  rw [exec_bind]
  cases exec p e with
  | mk result e' => cases result <;> rfl

theorem settle_map (g : α → β) (result : Except EngineError (α × Engine)) :
    ((settle e result).1.map g, (settle e result).2) =
      settle e (result.map fun made => (g made.1, made.2)) := by
  cases result <;> rfl

end

/-! ## §2  Steps -/

def node (id : ScopeId) : Program Scope := look (·.scopes.get id)

def change (id : ScopeId) (f : Scope → Scope) : Program Unit := do
  let s ← node id
  write fun e => { e with scopes := { scopes := e.scopes.scopes.set id.index (f s) } }

end InPlace

def ScopeTree.climb (tree : ScopeTree) (id : ScopeId) : Except EngineError (List Scope) := do
  let s ← tree.get id
  match s.parent with
  | none => return [s]
  | some parent =>
      if parent.index < id.index then return s :: (← tree.climb parent)
      else throw (.unknownScope parent)
termination_by id.index

namespace InPlace

def visible (id : ScopeId) : Program Schema.Set := do
  let way ← look (·.scopes.climb id)
  return .ofStores (way.reverse.map Scope.schemas) (way.map Scope.generation).sum

/-- Reads a shared document. -/
def document (root : Json) : Program Schema.Document :=
  look fun _ => (Schema.Document.ofShared? root).mapError .schema

/-- Registers a shared schema on a scope: first it must not be visible, then it must not be in the
store, and then the store and the count are changed, one after the other. -/
def addSchema (scope : ScopeId) (root : Json) : Program Unit := do
  let visible ← visible scope
  let candidate ← document root
  match candidate.id.filter visible.contains with
  | some existing => throw (.schema (.alreadyPresent existing))
  | none =>
      let s ← node scope
      let document ← document root
      if s.schemas.documents.any fun other => other.id == some (document.id.getD "") then
        throw (.schema (.alreadyPresent (document.id.getD "")))
      else
        change scope fun s => { s with schemas.documents := s.schemas.documents ++ [document] }
        change scope fun s => { s with generation := s.generation + 1 }

/-- Lets one prepared route see the schemas that are visible now, if there are others. -/
def refreshAt (index : Nat) : Program Unit := do
  match (← look fun e => .ok e.routes[index]?) with
  | none => return
  | some r =>
      match r.prepared with
      | none => return
      | some p =>
          let way ← look (·.scopes.climb r.scope)
          if (way.map Scope.generation).sum = p.schemas.generation then return
          else
            let schemas ← visible r.scope
            let prepared := { p with schemas, version := .ofSet schemas }
            write fun e => { e with routes := e.routes.set index { r with prepared := some prepared } }

/-- Lets prepared routes see the schemas that are visible now, one after the other. -/
def refreshAll : List Nat → Program Unit
  | [] => return
  | index :: rest => do
      refreshAt index
      refreshAll rest

/-! ## §3  Registrations -/

/-- Adds a scope below another, and looks it up to tell of it. -/
def childScope (parent : ScopeId) (path : String) : Program ScopeId := do
  let above ← node parent
  let id ← look fun e => .ok (⟨e.scopes.scopes.length⟩ : ScopeId)
  let scope : Scope := { parent := some parent, address := Address.join above.address path }
  write fun e => { e with scopes := { scopes := e.scopes.scopes ++ [scope] } }
  let _ ← node id
  return id

/-- Registers a shared schema, and lets the routes of a ready engine see it. -/
def registerSchema (scope : ScopeId) (root : Json) : Program Unit := do
  addSchema scope root
  if (← look fun e => .ok e.ready) = true then
    refreshAll (List.range (← look fun e => .ok e.routes.length))
  else return

/-- Binds a compiler to a scope, and drops what a ready engine has compiled. -/
def setCompiler (scope : ScopeId) (compiler : Compiler) : Program Unit := do
  change scope fun s => { s with compiler := some compiler }
  if (← look fun e => .ok e.ready) = true then write Engine.clearCache
  else return

def addRoute (scope : ScopeId) (declaration : RouteDeclaration) : Program RouteId := do
  let above ← node scope
  let method := Text.upper (Text.trim declaration.method)
  let url := Address.join above.address declaration.url
  if (← look fun e => .ok e.ready) = true then throw (.routeAfterReady method url)
  else
    let id ← look fun e => .ok (⟨e.routes.length⟩ : RouteId)
    let route : Route := { scope, method, url, declaration }
    write fun e => { e with routes := e.routes ++ [route] }
    return id

def registering : Registration → Program Outcome
  | .childScope parent path => .scope <$> childScope parent path
  | .registerSchema scope root => (fun _ => .done) <$> registerSchema scope root
  | .setCompiler scope compiler => (fun _ => .done) <$> setCompiler scope compiler
  | .setReplySerializer scope serializer =>
      (fun _ => .done) <$> change scope fun s => { s with replySerializer := some serializer }
  | .setErrorHandler scope handler =>
      (fun _ => .done) <$> change scope fun s => { s with errorHandler := some handler }
  | .addObserver scope observer =>
      (fun _ => .done) <$> change scope fun s => { s with observers := s.observers ++ [observer] }
  | .addRoute scope declaration => .route <$> addRoute scope declaration
  | .diagnose => look fun e => .ok (.issues e.diagnose.1)

end InPlace

/-! ## §4  Sound engines -/

/-- Whether the scopes of an engine are rooted, and its routes stand in scopes. -/
structure Engine.Sound (e : Engine) : Prop where
  rooted : e.scopes.IsRooted
  placed : ∀ r ∈ e.routes, ∃ s, e.scopes.get? r.scope = some s

namespace Engine

/-- A call that comes to an engine and to nothing else. -/
def finished (result : Except EngineError Engine) : Except EngineError (Outcome × Engine) :=
  result.map fun e => (.done, e)

/-- What a registration comes to, and the engine after it, if it is not refused. -/
def settled (e : Engine) : Registration → Except EngineError (Outcome × Engine)
  | .childScope parent path => (e.childScope parent path).map fun made => (.scope made.2, made.1)
  | .registerSchema scope root => finished (e.registerSchema scope root)
  | .setCompiler scope compiler => finished (e.setCompiler scope compiler)
  | .setReplySerializer scope serializer => finished (e.setReplySerializer scope serializer)
  | .setErrorHandler scope handler => finished (e.setErrorHandler scope handler)
  | .addObserver scope observer => finished (e.addObserver scope observer)
  | .addRoute scope declaration =>
      (e.addRoute scope declaration).map fun made => (.route made.2, made.1)
  | .diagnose => .ok (.issues e.diagnose.1, e)

theorem finished_map (result : Except EngineError Engine) :
    (finished result).map Prod.snd = result := by
  cases result <;> rfl

theorem settled_map (e : Engine) (r : Registration) :
    (e.settled r).map Prod.snd = e.register? r := by
  cases r with
  | childScope parent path =>
      rw [settled, register?]
      cases e.childScope parent path <;> rfl
  | registerSchema scope root => exact finished_map _
  | setCompiler scope compiler => exact finished_map _
  | setReplySerializer scope serializer => exact finished_map _
  | setErrorHandler scope handler => exact finished_map _
  | addObserver scope observer => exact finished_map _
  | addRoute scope declaration =>
      rw [settled, register?]
      cases e.addRoute scope declaration <;> rfl
  | diagnose => rfl

end Engine

namespace ScopeTree

variable {tree tree' : ScopeTree} {id : ScopeId} {s : Scope}

theorem climb_of_none (h : tree.get? id = none) : tree.climb id = .error (.unknownScope id) := by
  rw [climb, get, h]
  rfl

/-- **In a rooted tree no way up is broken.** -/
theorem IsRooted.climb_eq (h : tree.IsRooted) (id : ScopeId) {s : Scope}
    (hs : tree.get? id = some s) : tree.climb id = .ok (tree.chain id) := by
  rw [climb, chain_of_some hs, get_eq_ok.mpr hs]
  refine Result.bind_eq_ok.mpr ⟨s, rfl, ?_⟩
  cases hp : s.parent with
  | none => rfl
  | some parent =>
      have hid : id ≠ .root := by
        rintro rfl
        obtain ⟨r, hr, hnone⟩ := h.root
        obtain rfl := Option.some.inj (hr.symm.trans hs)
        rw [hnone] at hp
        cases hp
      obtain ⟨parent', hp', hlt⟩ := h.parent id s hs hid
      obtain rfl := Option.some.inj (hp.symm.trans hp')
      obtain ⟨above, habove⟩ : ∃ above, tree.get? parent = some above :=
        exists_get?_iff.mpr (Nat.lt_trans hlt (exists_get?_iff.mp ⟨s, hs⟩))
      simp only [if_pos hlt, h.climb_eq parent habove]
      rfl
termination_by id.index

theorem update_of_some (hs : tree.get? id = some s) (change : Scope → Scope) :
    tree.update id change = .ok { scopes := tree.scopes.set id.index (change s) } :=
  update_eq_ok.mpr ⟨s, hs, rfl⟩

/-- What a registration of a document comes to on a scope that is there: the document must be new
to what is visible, and to the store. -/
theorem registerSchema_of_document {root : Json} {d : Schema.Document} {x : String}
    (hs : tree.get? id = some s) (hd : Schema.Document.ofShared? root = .ok d)
    (hx : d.id = some x) : tree.registerSchema id root =
      if (tree.schemaSet id).contains x then .error (.schema (.alreadyPresent x))
      else if s.schemas.documents.any fun other => other.id == some x then
        .error (.schema (.alreadyPresent x))
      else .ok { scopes := tree.scopes.set id.index { s with
        schemas := { documents := s.schemas.documents ++ [d] }, generation := s.generation + 1 } } := by
  unfold registerSchema Schema.Store.register
  rw [get_eq_ok.mpr hs, hd]
  simp only [bind, Except.bind, Except.mapError, hx, Option.filter_some]
  by_cases hvisible : (tree.schemaSet id).contains x = true
  · rw [if_pos hvisible, if_pos hvisible]
    rfl
  · rw [if_neg hvisible, if_neg hvisible]
    by_cases hstored : (s.schemas.documents.any fun other => other.id == some x) = true
    · rw [if_pos hstored, if_pos hstored]
    · rw [if_neg hstored, if_neg hstored]
      exact update_of_some hs _

end ScopeTree

namespace InPlace

variable {e : Engine} {id scope : ScopeId} {s : Scope}

/-! ### Lookups -/

theorem exec_node : exec (node id) e = (e.scopes.get id, e) := rfl

theorem exec_visible (h : e.scopes.IsRooted) (hs : e.scopes.get? id = some s) :
    exec (visible id) e = (.ok (e.scopes.schemaSet id), e) := by
  unfold visible
  rw [exec_bind, exec_look, h.climb_eq id hs]
  rfl

theorem exec_change (f : Scope → Scope) : exec (change id f) e =
    settle e ((e.scopes.update id f).map fun scopes => ((), { e with scopes })) := by
  unfold change ScopeTree.update
  rw [exec_bind, exec_node]
  cases e.scopes.get id <;> rfl

/-! ### Schemas -/

theorem exec_document (root : Json) : exec (document root) e =
    ((Schema.Document.ofShared? root).mapError .schema, e) := rfl

theorem exec_change_change (hs : e.scopes.get? id = some s) (first second : Scope → Scope) :
    exec (do change id first; change id second) e =
      (.ok (), { e with
        scopes := { scopes := e.scopes.scopes.set id.index (second (first s)) } }) := by
  have hfirst := ScopeTree.update_of_some hs first
  have hsecond := ScopeTree.get?_update hfirst id
  rw [if_pos rfl, hs] at hsecond
  rw [exec_bind, exec_change, hfirst]
  show exec (change id second) _ = _
  rw [exec_change, ScopeTree.update_of_some hsecond]
  simp only [settle, Except.map, List.set_set]

/-- **A schema is added, or nothing is changed.** -/
theorem exec_addSchema (h : e.scopes.IsRooted) (scope : ScopeId) (root : Json) :
    exec (addSchema scope root) e =
      settle e ((e.scopes.registerSchema scope root).map fun scopes => ((), { e with scopes })) := by
  unfold addSchema
  cases hs : e.scopes.get? scope with
  | none =>
      have hvisible : exec (visible scope) e = (.error (.unknownScope scope), e) := by
        unfold visible
        rw [exec_bind, exec_look, ScopeTree.climb_of_none hs]
      rw [exec_bind_of_error hvisible, ScopeTree.registerSchema, ScopeTree.get, hs]
      rfl
  | some s =>
      rw [exec_bind_of_ok (exec_visible h hs)]
      cases hdocument : Schema.Document.ofShared? root with
      | error fault =>
          rw [exec_bind, exec_document, ScopeTree.registerSchema, ScopeTree.get_eq_ok.mpr hs,
            hdocument]
          rfl
      | ok d =>
          have hread : exec (document root) e = (.ok d, e) := by rw [exec_document, hdocument]; rfl
          obtain ⟨x, hx⟩ := Schema.Document.id_of_ofShared? hdocument
          rw [exec_bind_of_ok hread, ScopeTree.registerSchema_of_document hs hdocument hx, hx,
            Option.filter_some]
          by_cases hvisible : (e.scopes.schemaSet scope).contains x = true
          · rw [if_pos hvisible, if_pos hvisible]
            rfl
          · rw [if_neg hvisible, if_neg hvisible]
            have hnode : exec (node scope) e = (.ok s, e) := by
              rw [exec_node, ScopeTree.get_eq_ok.mpr hs]
            dsimp only
            rw [exec_bind_of_ok hnode, exec_bind_of_ok hread, hx, Option.getD_some]
            split
            · rfl
            · exact exec_change_change hs _ _

/-! ### Routes -/

/-- Changes at places that are all different change each of them once. -/
theorem getElem?_foldl_modify {α : Type} (f : α → α) :
    ∀ (indices : List Nat) (xs : List α) (j : Nat), indices.Nodup →
      (indices.foldl (fun xs i => xs.modify i f) xs)[j]? =
        if j ∈ indices then xs[j]?.map f else xs[j]?
  | [], xs, j, _ => rfl
  | i :: rest, xs, j, h => by
      obtain ⟨hi, hrest⟩ := List.nodup_cons.mp h
      rw [List.foldl_cons, getElem?_foldl_modify f rest _ j hrest, List.getElem?_modify]
      by_cases hij : i = j
      · subst hij
        simp [hi]
      · simp [hij, Ne.symm hij]

theorem foldl_modify_range {α : Type} (f : α → α) (xs : List α) :
    (List.range xs.length).foldl (fun xs i => xs.modify i f) xs = xs.map f := by
  refine List.ext_getElem? fun j => ?_
  rw [getElem?_foldl_modify f _ _ j List.nodup_range, List.getElem?_map]
  split
  · rfl
  · next hj =>
      have hnone : xs[j]? = none :=
        List.getElem?_eq_none (Nat.le_of_not_lt fun hlt => hj (List.mem_range.mpr hlt))
      rw [hnone, Option.map_none]

def refreshed (e : Engine) (index : Nat) : Engine :=
  { e with routes := e.routes.modify index (Engine.refreshRoute e.scopes) }

theorem sound_refreshed (h : e.Sound) (index : Nat) : (refreshed e index).Sound := by
  refine ⟨h.rooted, fun r hr => ?_⟩
  obtain ⟨j, hj⟩ := List.mem_iff_getElem?.mp hr
  rw [refreshed, List.getElem?_modify] at hj
  obtain ⟨old, hold, rfl⟩ := Option.map_eq_some_iff.mp hj
  have hplaced := h.placed old (List.mem_of_getElem? hold)
  split
  · rw [Route.eq_of_site Route.scope (fun _ => rfl) (Engine.site_refreshRoute e.scopes old)]
    exact hplaced
  · exact hplaced

/-- **A route is refreshed in its place**: its scope is there, and all scopes above. -/
theorem exec_refreshAt (h : e.Sound) (index : Nat) :
    exec (refreshAt index) e = (.ok (), refreshed e index) := by
  unfold refreshAt refreshed
  rw [exec_bind, exec_look, List.modify_eq_set_getElem?]
  cases hr : e.routes[index]? with
  | none => rfl
  | some r =>
      obtain ⟨s, hs⟩ := h.placed r (List.mem_of_getElem? hr)
      have hkept : e.routes.set index r = e.routes := by
        obtain ⟨hlt, rfl⟩ := List.getElem?_eq_some_iff.mp hr
        exact List.set_getElem_self hlt
      simp only [Option.map_eq_map, Option.map_some, Option.getD_some]
      unfold Engine.refreshRoute
      cases hp : r.prepared with
      | none => simp only [hkept, exec_pure]
      | some p =>
          have hsum : ((e.scopes.chain r.scope).map Scope.generation).sum =
              e.scopes.generation r.scope := rfl
          dsimp only
          rw [exec_bind, exec_look, h.rooted.climb_eq r.scope hs]
          simp only [hsum]
          by_cases hgeneration : e.scopes.generation r.scope = p.schemas.generation
          · simp only [if_pos hgeneration, hkept, exec_pure]
          · rw [if_neg hgeneration, if_neg hgeneration, exec_bind_of_ok (exec_visible h.rooted hs)]
            rfl

/-- **All routes are refreshed**, one after the other. -/
theorem exec_refreshAll : ∀ (indices : List Nat) {e : Engine}, e.Sound →
    exec (refreshAll indices) e = (.ok (), { e with
      routes := indices.foldl (fun rs i => rs.modify i (Engine.refreshRoute e.scopes)) e.routes })
  | [], _, _ => rfl
  | index :: rest, e, h => by
      unfold refreshAll
      rw [exec_bind_of_ok (exec_refreshAt h index), exec_refreshAll rest (sound_refreshed h index)]
      rfl

/-! ### Registrations -/

theorem exec_childScope (parent : ScopeId) (path : String) : exec (childScope parent path) e =
    settle e ((e.childScope parent path).map fun made => (made.2, made.1)) := by
  unfold childScope Engine.childScope ScopeTree.child
  rw [exec_bind, exec_node]
  cases e.scopes.get parent with
  | error fault => rfl
  | ok above =>
      -- the new scope is there when it is looked up
      have hmade : ∀ scope : Scope,
          ({ scopes := e.scopes.scopes ++ [scope] } : ScopeTree).get ⟨e.scopes.scopes.length⟩ =
            .ok scope :=
        fun scope => ScopeTree.get_eq_ok.mpr List.getElem?_concat_length
      dsimp only
      rw [exec_bind, exec_look]
      dsimp only
      rw [exec_bind, exec_write]
      dsimp only
      rw [exec_bind, exec_node, hmade]
      rfl

/-- A registration of a schema leaves an engine sound, and so its routes can be refreshed. -/
theorem sound_registerSchema (h : e.Sound) {scopes : ScopeTree} {root : Json}
    (hscopes : e.scopes.registerSchema scope root = .ok scopes) :
    ({ e with scopes } : Engine).Sound := by
  have hstep := ScopeTree.registerSchema_changes hscopes
  refine ⟨h.rooted.alters hstep, fun r hr => ?_⟩
  obtain ⟨s, hs⟩ := h.placed r hr
  exact ⟨_, hstep.get?_of_some hs⟩

/-- **A schema is registered and seen by the routes, or nothing is changed.** -/
theorem exec_registerSchema (h : e.Sound) (scope : ScopeId) (root : Json) :
    exec (registerSchema scope root) e =
      settle e ((e.registerSchema scope root).map fun e' => ((), e')) := by
  unfold registerSchema Engine.registerSchema
  rw [exec_bind, exec_addSchema h.rooted]
  cases hscopes : e.scopes.registerSchema scope root with
  | error fault => rfl
  | ok scopes =>
      have hsound := sound_registerSchema h hscopes
      dsimp only [settle, Except.map]
      rw [exec_bind, exec_look]
      by_cases hready : e.ready = true
      · have hlength : exec (look fun e => .ok e.routes.length) { e with scopes } =
            (.ok e.routes.length, { e with scopes }) := rfl
        dsimp only
        rw [if_pos hready, exec_bind_of_ok hlength, exec_refreshAll _ hsound, foldl_modify_range]
        simp only [bind, Except.bind, pure, Except.pure, if_pos hready]
      · dsimp only
        simp only [bind, Except.bind, pure, Except.pure, if_neg hready]
        rfl

theorem exec_setCompiler (scope : ScopeId) (compiler : Compiler) :
    exec (setCompiler scope compiler) e =
      settle e ((e.setCompiler scope compiler).map fun e' => ((), e')) := by
  unfold setCompiler Engine.setCompiler
  rw [exec_bind, exec_change]
  cases e.scopes.update scope _ with
  | error fault => rfl
  | ok scopes =>
      simp only [settle, Except.map]
      rw [exec_bind, exec_look]
      dsimp only
      cases hready : e.ready with
      | false => rfl
      | true => rfl

theorem exec_addRoute (scope : ScopeId) (declaration : RouteDeclaration) :
    exec (addRoute scope declaration) e =
      settle e ((e.addRoute scope declaration).map fun made => (made.2, made.1)) := by
  unfold addRoute Engine.addRoute
  rw [exec_bind, exec_node]
  cases e.scopes.get scope with
  | error fault => rfl
  | ok above =>
      dsimp only
      rw [exec_bind, exec_look]
      dsimp only
      by_cases hready : e.ready = true
      · rw [if_pos hready]
        simp only [bind, Except.bind, if_pos hready]
        rfl
      · rw [if_neg hready]
        simp only [bind, Except.bind, if_neg hready]
        rfl

/-- **A registration in place comes to what it should**: to the new engine, or to an error, and
then nothing is changed. -/
theorem exec_registering (h : e.Sound) (r : Registration) :
    exec (registering r) e = settle e (e.settled r) := by
  have hdone : ∀ {p : Program Unit} {result : Except EngineError Engine},
      exec p e = settle e (result.map fun e' => ((), e')) →
        exec ((fun _ => Outcome.done) <$> p) e = settle e (Engine.finished result) := by
    intro p result hp
    rw [exec_map, hp, settle_map, Engine.finished]
    cases result <;> rfl
  have hchange : ∀ {scope : ScopeId} {f : Scope → Scope}, exec (change scope f) e =
      settle e ((do let scopes ← e.scopes.update scope f; return { e with scopes }).map
        fun e' => ((), e')) := by
    intro scope f
    rw [exec_change]
    cases e.scopes.update scope f <;> rfl
  cases r with
  | childScope parent path =>
      show exec (Outcome.scope <$> childScope parent path) e = _
      rw [exec_map, exec_childScope, settle_map, Engine.settled]
      cases e.childScope parent path <;> rfl
  | registerSchema scope root => exact hdone (exec_registerSchema h scope root)
  | setCompiler scope compiler => exact hdone (exec_setCompiler scope compiler)
  | setReplySerializer scope serializer => exact hdone hchange
  | setErrorHandler scope handler => exact hdone hchange
  | addObserver scope observer => exact hdone hchange
  | addRoute scope declaration =>
      show exec (Outcome.route <$> addRoute scope declaration) e = _
      rw [exec_map, exec_addRoute, settle_map, Engine.settled]
      cases e.addRoute scope declaration <;> rfl
  | diagnose => rfl

end InPlace

end ReplySchema

import ReplySchema.Proofs.Engine.Prepared

/-! # Operations on an engine

An operation is a call on an engine; a run is a list of operations, one after another.  A
refused registration leaves the engine as it is, and so does a diagnosis.

There are many kinds of registration.  `Accepts` says of each what it comes to, and most
invariants of engines need to know less: there are only four things that a registration may do to
an engine (`Registers`).
-/

set_option autoImplicit false

namespace ReplySchema

/-- A call that registers something, or that looks at what was registered. -/
inductive Registration where
  | childScope (parent : ScopeId) (path : String)
  | registerSchema (scope : ScopeId) (root : Json)
  | setCompiler (scope : ScopeId) (compiler : Compiler)
  | setReplySerializer (scope : ScopeId) (serializer : ReplySerializer)
  | setErrorHandler (scope : ScopeId) (handler : ErrorHandler)
  | addObserver (scope : ScopeId) (observer : Observer)
  | addRoute (scope : ScopeId) (declaration : RouteDeclaration)
  | diagnose

/-- A call on an engine. -/
inductive Operation where
  | register (registration : Registration)
  | clearCache
  | ready
  | serialize (id : RouteId) (status : Nat) (contentType : Option String) (value : Json)
  | send (id : RouteId) (reply : Reply)
  | validate (id : RouteId) (request : Request)
  | dispatch (id : RouteId) (request : Request) (handler : Request → Reply)

namespace Engine

open Serving

def register? (e : Engine) : Registration → Except EngineError Engine
  | .childScope parent path => (e.childScope parent path).map Prod.fst
  | .registerSchema scope root => e.registerSchema scope root
  | .setCompiler scope compiler => e.setCompiler scope compiler
  | .setReplySerializer scope serializer => e.setReplySerializer scope serializer
  | .setErrorHandler scope handler => e.setErrorHandler scope handler
  | .addObserver scope observer => e.addObserver scope observer
  | .addRoute scope declaration => (e.addRoute scope declaration).map Prod.fst
  | .diagnose => .ok e

/-- The engine after a registration; a refusal leaves nothing behind. -/
def register (e : Engine) (registration : Registration) : Engine :=
  (e.register? registration).toOption.getD e

def perform (e : Engine) : Operation → Engine
  | .register registration => e.register registration
  | .clearCache => e.clearCache
  | .ready => e.makeReady.engine
  | .serialize id status contentType value => (e.serialize id status contentType value).engine
  | .send id reply => (e.send id reply).engine
  | .validate id request => (e.validate id request).engine
  | .dispatch id request handler => (e.dispatch id request handler).engine

/-- The engine after registrations. -/
def registerAll (e : Engine) (registrations : List Registration) : Engine :=
  registrations.foldl register e

def run (e : Engine) (operations : List Operation) : Engine := operations.foldl perform e

theorem run_append (e : Engine) (front rest : List Operation) :
    e.run (front ++ rest) = (e.run front).run rest :=
  List.foldl_append

theorem register_eq (e : Engine) (registration : Registration) :
    e.register registration = e ∨ e.register? registration = .ok (e.register registration) := by
  unfold register
  cases h : e.register? registration with
  | error fault => exact Or.inl rfl
  | ok e' => exact Or.inr rfl

/-- **The induction on runs**: what holds of an engine holds after a run, if every operation of the
run keeps it. -/
theorem run_induct {T : Engine → Prop} {e : Engine} (h : T e) : ∀ operations : List Operation,
    (∀ front operation rest, operations = front ++ operation :: rest →
      T (e.run front) → T ((e.run front).perform operation)) → T (e.run operations)
  | [], _ => h
  | operation :: rest, hstep =>
      run_induct (hstep [] operation rest rfl h) rest fun front next back hsplit hfront =>
        hstep (operation :: front) next back (by rw [hsplit]; rfl) hfront

/-! ## §1  What a registration does -/

/-- The engine after a registration that is not refused, with what was passed on the way. -/
inductive Accepts (e : Engine) : Registration → Engine → Prop where
  | childScope {parent id : ScopeId} {path : String} {scopes : ScopeTree}
      (h : e.scopes.child parent path = .ok (scopes, id)) :
      Accepts e (.childScope parent path) { e with scopes }
  | registerSchema {scope : ScopeId} {root : Json} {scopes : ScopeTree}
      (h : e.scopes.registerSchema scope root = .ok scopes) :
      Accepts e (.registerSchema scope root) { e with
        scopes
        routes := if e.ready then e.routes.map (refreshRoute scopes) else e.routes }
  | setCompiler {scope : ScopeId} {compiler : Compiler} {scopes : ScopeTree}
      (h : e.scopes.update scope (fun s => { s with compiler := some compiler }) = .ok scopes) :
      Accepts e (.setCompiler scope compiler)
        { e with scopes, cache := if e.ready then e.cache.clear else e.cache }
  | setReplySerializer {scope : ScopeId} {serializer : ReplySerializer} {scopes : ScopeTree}
      (h : e.scopes.update scope (fun s => { s with replySerializer := some serializer }) =
        .ok scopes) :
      Accepts e (.setReplySerializer scope serializer) { e with scopes }
  | setErrorHandler {scope : ScopeId} {handler : ErrorHandler} {scopes : ScopeTree}
      (h : e.scopes.update scope (fun s => { s with errorHandler := some handler }) = .ok scopes) :
      Accepts e (.setErrorHandler scope handler) { e with scopes }
  | addObserver {scope : ScopeId} {observer : Observer} {scopes : ScopeTree}
      (h : e.scopes.update scope (fun s => { s with observers := s.observers ++ [observer] }) =
        .ok scopes) :
      Accepts e (.addObserver scope observer) { e with scopes }
  | addRoute {scope : ScopeId} {above : Scope} {declaration : RouteDeclaration}
      (h : e.scopes.get scope = .ok above) (hready : e.ready = false) :
      Accepts e (.addRoute scope declaration) { e with
        routes := e.routes ++ [{
          scope
          method := Text.upper (Text.trim declaration.method)
          url := Address.join above.address declaration.url
          declaration }] }
  | diagnose : Accepts e .diagnose e

theorem accepts_of_register? {e e' : Engine} {registration : Registration}
    (h : e.register? registration = .ok e') : e.Accepts registration e' := by
  have hupdate : ∀ {id : ScopeId} {change : Scope → Scope} {after : ScopeTree → Engine},
      (do let scopes ← e.scopes.update id change; return after scopes) = Except.ok e' →
      ∃ scopes, e.scopes.update id change = .ok scopes ∧ e' = after scopes := by
    intro id change after h
    obtain ⟨scopes, hscopes, h⟩ := Result.bind_eq_ok.mp h
    exact ⟨scopes, hscopes, (Result.pure_eq_ok.mp h).symm⟩
  cases registration with
  | childScope parent path =>
      obtain ⟨⟨e'', id⟩, hmade, rfl⟩ := Result.map_eq_ok.mp h
      obtain ⟨⟨scopes, id'⟩, hchild, hmade⟩ := Result.bind_eq_ok.mp hmade
      rw [Result.pure_eq_ok, Prod.mk.injEq] at hmade
      obtain ⟨rfl, -⟩ := hmade
      exact .childScope hchild
  | registerSchema scope root =>
      obtain ⟨scopes, hscopes, h⟩ := Result.bind_eq_ok.mp h
      rw [Result.pure_eq_ok] at h
      exact h ▸ .registerSchema hscopes
  | setCompiler scope compiler =>
      obtain ⟨scopes, hscopes, rfl⟩ := hupdate h
      exact .setCompiler hscopes
  | setReplySerializer scope serializer =>
      obtain ⟨scopes, hscopes, rfl⟩ := hupdate h
      exact .setReplySerializer hscopes
  | setErrorHandler scope handler =>
      obtain ⟨scopes, hscopes, rfl⟩ := hupdate h
      exact .setErrorHandler hscopes
  | addObserver scope observer =>
      obtain ⟨scopes, hscopes, rfl⟩ := hupdate h
      exact .addObserver hscopes
  | addRoute scope declaration =>
      obtain ⟨⟨e'', id⟩, hmade, rfl⟩ := Result.map_eq_ok.mp h
      obtain ⟨above, habove, hmade⟩ := Result.bind_eq_ok.mp hmade
      by_cases hready : e.ready = true
      · rw [if_pos hready] at hmade
        exact absurd hmade Result.throw_ne_ok
      · rw [if_neg hready, Result.pure_eq_ok, Prod.mk.injEq] at hmade
        obtain ⟨rfl, -⟩ := hmade
        exact .addRoute habove (Bool.eq_false_iff.mpr hready)
  | diagnose =>
      cases h
      exact .diagnose

/-- What a registration may do to an engine: it changes the scopes in a way that each older scope
hardly notices, and it leaves the routes where they are or adds one. -/
inductive Registers (e : Engine) : Engine → Prop where
  /-- The scopes in use see the same schemas and compiler. -/
  | unseen (scopes : ScopeTree) (hlength : e.scopes.scopes.length ≤ scopes.scopes.length)
      (hview : ∀ id : ScopeId, id.index < e.scopes.scopes.length →
        SameView e { e with scopes } id) :
      Registers e { e with scopes }
  /-- The compiler of a scope is another, and what was compiled is dropped. -/
  | compiler (scopes : ScopeTree) (hlength : e.scopes.scopes.length ≤ scopes.scopes.length)
      (hset : ∀ id, scopes.schemaSet id = e.scopes.schemaSet id) :
      Registers e { e with scopes, cache := if e.ready then e.cache.clear else e.cache }
  /-- The schemas of some scopes are others, and their generations are greater. -/
  | schema (scopes : ScopeTree) (hlength : e.scopes.scopes.length ≤ scopes.scopes.length)
      (hview : ∀ id, SameView e { e with scopes } id ∨
        e.scopes.generation id < scopes.generation id) :
      Registers e { e with
        scopes
        routes := if e.ready then e.routes.map (refreshRoute scopes) else e.routes }
  /-- A route is added, which is possible only before the engine is ready; it is not prepared. -/
  | route (r : Route) (hready : e.ready = false)
      (hplaced : r.scope.index < e.scopes.scopes.length) (hfresh : r.prepared = none) :
      Registers e { e with routes := e.routes ++ [r] }

/-- A change to a scope that leaves its parent, its schemas and its compiler alone is seen by no
scope. -/
theorem sameView_update {e : Engine} {scopes : ScopeTree} {id : ScopeId} {change : Scope → Scope}
    (h : e.scopes.update id change = .ok scopes)
    (hsame : ∀ s, ((change s).parent, (change s).schemas, (change s).generation,
      (change s).compiler) = (s.parent, s.schemas, s.generation, s.compiler)) (j : ScopeId) :
    SameView e { e with scopes } j := by
  simp only [Prod.mk.injEq] at hsame
  have hparent := fun s => (hsame s).1
  refine ⟨ScopeTree.schemaSet_congr (ScopeTree.map_chain_update _ h hparent (fun s => ?_) j),
    ScopeTree.compiler?_congr (ScopeTree.map_chain_update _ h hparent (fun s => ?_) j)⟩
  · rw [(hsame s).2.1, (hsame s).2.2.1]
  · exact (hsame s).2.2.2

/-- **What a registration does**, if it is not refused. -/
theorem registers_register? {e e' : Engine} {registration : Registration}
    (h : e.register? registration = .ok e') : Registers e e' := by
  have hunseen : ∀ {id : ScopeId} {change : Scope → Scope} {scopes : ScopeTree},
      e.scopes.update id change = .ok scopes →
      (∀ s, ((change s).parent, (change s).schemas, (change s).generation,
        (change s).compiler) = (s.parent, s.schemas, s.generation, s.compiler)) →
      Registers e { e with scopes } := fun hscopes hsame =>
    .unseen _ (ScopeTree.length_update hscopes).ge fun j _ => sameView_update hscopes hsame j
  cases accepts_of_register? h with
  | @childScope parent id path scopes hchild =>
      refine .unseen scopes ?_ fun j hj => ?_
      · obtain ⟨scope, rfl⟩ := ScopeTree.child_eq_ok hchild
        simp
      · have hchain := ScopeTree.chain_child hchild hj
        exact ⟨ScopeTree.schemaSet_congr (by rw [hchain]),
          ScopeTree.compiler?_congr (by rw [hchain])⟩
  | @registerSchema scope root scopes hscopes =>
      refine .schema scopes (ScopeTree.length_registerSchema hscopes).ge fun j => ?_
      exact (ScopeTree.schemaSet_registerSchema hscopes j).imp_left fun hset =>
        ⟨hset, ScopeTree.compiler?_registerSchema hscopes j⟩
  | @setCompiler scope compiler scopes hscopes =>
      refine .compiler scopes (ScopeTree.length_update hscopes).ge fun j => ?_
      exact ScopeTree.schemaSet_congr
        (ScopeTree.map_chain_update _ hscopes (fun _ => rfl) (fun _ => rfl) j)
  | setReplySerializer hscopes => exact hunseen hscopes fun _ => rfl
  | setErrorHandler hscopes => exact hunseen hscopes fun _ => rfl
  | addObserver hscopes => exact hunseen hscopes fun _ => rfl
  | addRoute habove hready =>
      refine .route _ hready ?_ rfl
      exact (List.getElem?_eq_some_iff.mp (ScopeTree.get_eq_ok.mp habove)).1
  | diagnose => exact .unseen e.scopes (Nat.le_refl _) fun _ _ => ⟨rfl, rfl⟩

theorem register_keeps {T : Engine → Prop} {e : Engine} (h : T e)
    (hstep : ∀ e', Registers e e' → T e') (registration : Registration) :
    T (e.register registration) := by
  rcases e.register_eq registration with heq | hok
  · rwa [heq]
  · exact hstep _ (registers_register? hok)

end Engine

end ReplySchema

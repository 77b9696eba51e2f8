import ReplySchema.Proofs.Engine.Snapshots
import ReplySchema.Proofs.Schema.Bundling

/-! # What requests are validated by

When a route is prepared its input schemas are bundled and compiled, and what comes out is kept
with the preparation.  A schema that is registered on a ready engine reaches the snapshot of the
route, and its serializers from there, but not its validators.

* `validates_as_prepared`: a ready engine goes on to validate by the schemas that were visible when
  it was made ready, while its replies follow the present ones.  The two agree as long as no
  registration changes what a reference of an input schema means.
* `not_validates_as_visible`: else they need not agree.
-/

set_option autoImplicit false

namespace ReplySchema

open Serving

theorem InputValidators.compile_congr {set set' : Schema.Set} {method url : String}
    {schemas : InputSchemas} (h : ∀ part schema, schemas.get? part = some schema →
      set.MeansTheSame set' (.ofInline schema) schema) :
    compile set' method url schemas = compile set method url schemas := by
  unfold compile
  refine congrArg RequestPart.all.filterMapM (funext fun part => ?_)
  cases hschema : schemas.get? part with
  | none => rfl
  | some schema =>
      have hbundle : set'.bundle (.ofInline schema) = set.bundle (.ofInline schema) :=
        Schema.Set.bundle_congr (h part schema hschema)
      have hmade : ofSchema set' part schema = ofSchema set part schema := by
        unfold ofSchema
        rw [hbundle]
      dsimp only
      rw [hmade]

def Operation.isReady : Operation → Bool
  | ready => true
  | _ => false

namespace Engine

/-! ## §1  The validators of a preparation -/

variable {e e' : Engine} {scopes : ScopeTree}

theorem validators_of_outfit {r : Route} {p : Prepared} (h : e.outfit r = .ok p) :
    InputValidators.compile (e.scopes.schemaSet r.scope) r.method r.url r.declaration.input =
      .ok p.validators := by
  rw [outfit_eq] at h
  obtain ⟨responses, -, h⟩ := Result.bind_eq_ok.mp h
  obtain ⟨validators, hvalidators, h⟩ := Result.bind_eq_ok.mp h
  rw [Result.pure_eq_ok] at h
  subst h
  exact hvalidators

theorem outfit_prepareAll : ∀ {rest : List Route} {index : Nat} {report done : ReadyReport}
    {s : Serving}, (e.prepareAll index rest report s).1 = .ok done →
      ∀ r ∈ (e.prepareAll index rest report s).2.1, ∃ p, r.prepared = some p ∧ e.outfit r = .ok p
  | [], _, _, _, _, _, r, hr => by cases hr
  | r :: rest, index, report, done, s, h, r', hr' => by
      unfold prepareAll at h hr'
      rcases hrun : (e.prepare ⟨index⟩ r .kept).run.run s with ⟨result, s'⟩
      rw [hrun] at h hr'
      cases result with
      | error fault => cases h
      | ok p =>
          obtain ⟨houtfit, -⟩ := run_prepare_eq_ok.mp hrun
          rcases List.mem_cons.mp hr' with rfl | hr'
          · exact ⟨p, rfl, houtfit⟩
          · exact outfit_prepareAll h r' hr'

/-! ## §2  The validators of a ready engine -/

/-- Whether an engine is ready and validates every route by what its input schemas compile to under
some scopes. -/
structure ValidatesUnder (scopes : ScopeTree) (e : Engine) : Prop where
  ready : e.ready = true
  validators : ∀ r ∈ e.routes, ∃ p, r.prepared = some p ∧
    InputValidators.compile (scopes.schemaSet r.scope) r.method r.url r.declaration.input =
      .ok p.validators

/-- An engine that was just made ready validates by the schemas that are visible. -/
theorem validatesUnder_makeReady {report : ReadyReport} (h : e.makeReady.result = .ok report) :
    ValidatesUnder e.scopes e.makeReady.engine := by
  obtain ⟨routes, s, hrun, hengine⟩ := exists_of_makeReady_eq_ok h
  have hall := @outfit_prepareAll e e.routes 0 {} report { cache := e.cache }
  rw [hrun] at hall
  rw [hengine]
  refine ⟨rfl, fun r hr => ?_⟩
  obtain ⟨p, hp, houtfit⟩ := hall rfl r hr
  exact ⟨p, hp, validators_of_outfit houtfit⟩

theorem exists_prepared_refreshRoute {r : Route} {p : Prepared} (hp : r.prepared = some p)
    (scopes : ScopeTree) :
    ∃ p', (refreshRoute scopes r).prepared = some p' ∧ p'.validators = p.validators := by
  unfold refreshRoute
  simp only [hp]
  split
  · exact ⟨p, hp, rfl⟩
  · exact ⟨_, rfl, rfl⟩

theorem ValidatesUnder.registers (h : ValidatesUnder scopes e) (hstep : Registers e e') :
    ValidatesUnder scopes e' := by
  cases hstep with
  | unseen scopes' hlength hview => exact ⟨h.ready, h.validators⟩
  | compiler scopes' hlength hset => exact ⟨h.ready, h.validators⟩
  | schema scopes' hlength hview =>
      refine ⟨h.ready, fun r' hr' => ?_⟩
      rw [if_pos h.ready] at hr'
      obtain ⟨r, hr, rfl⟩ := List.mem_map.mp hr'
      obtain ⟨p, hp, hvalidators⟩ := h.validators r hr
      -- the snapshot may be renewed here, the validators are not
      obtain ⟨p', hp', hsame⟩ := exists_prepared_refreshRoute hp scopes'
      refine ⟨p', hp', ?_⟩
      rw [hsame, ← hvalidators]
      exact Route.eq_of_site (fun r => InputValidators.compile (scopes.schemaSet r.scope) r.method
        r.url r.declaration.input) (fun _ => rfl) (site_refreshRoute scopes' r)
  | route r hready hplaced hfresh =>
      -- a ready engine refuses routes
      rw [h.ready] at hready
      cases hready

theorem ValidatesUnder.perform (h : ValidatesUnder scopes e) {operation : Operation}
    (hready : operation.isReady = false) : ValidatesUnder scopes (e.perform operation) := by
  cases operation with
  | register registration => exact register_keeps h (fun _ => h.registers) registration
  | ready => cases hready
  | _ => exact ⟨h.ready, h.validators⟩

theorem ValidatesUnder.run {e : Engine} (h : ValidatesUnder scopes e) {operations : List Operation}
    (hready : ∀ operation ∈ operations, operation.isReady = false) :
    ValidatesUnder scopes (e.run operations) := by
  refine run_induct h operations fun front operation rest hsplit hfront => ?_
  exact hfront.perform (hready operation (by rw [hsplit]; simp))

theorem validate_of_prepared {id : RouteId} {r : Route} {p : Prepared}
    (hr : e.routes[id.index]? = some r) (hp : r.prepared = some p) (request : Request) :
    e.validate id request = ⟨.ok (p.validators.check request), e, []⟩ := by
  have hroute : e.route id = .ok r := by rw [route, hr]
  have hpreparation : e.preparation id r = pure p := by rw [preparation, hp]
  have hstep : e.validateStep id request = pure (p.validators.check request) := by
    unfold validateStep
    rw [hroute]
    change (e.preparation id r >>= fun p => pure (p.validators.check request)) = _
    rw [hpreparation]
    rfl
  unfold validate
  rw [hstep]
  rfl

/-- **A ready engine validates by the schemas that were visible when it was made ready**, whatever
is registered and called until it is made ready once more, while its replies follow the schemas that
are visible now.  If no registration has changed what a reference of an input schema means, then it
validates by the schemas that are visible now. -/
theorem validates_as_prepared {config : EngineConfig} {before : List Operation}
    {report : ReadyReport} (hready : ((ofConfig config).run before).makeReady.result = .ok report)
    {after : List Operation} (hafter : ∀ operation ∈ after, operation.isReady = false)
    {id : RouteId} {r : Route}
    (hr : (((ofConfig config).run before).makeReady.engine.run after).routes[id.index]? = some r) :
    ∃ validators,
      InputValidators.compile (((ofConfig config).run before).scopes.schemaSet r.scope) r.method
        r.url r.declaration.input = .ok validators ∧
      (∀ request, ((((ofConfig config).run before).makeReady.engine.run after).validate id
        request).result = .ok (validators.check request)) ∧
      (((ofConfig config).run before).makeReady.engine.run after).IsCurrent r ∧
      ((∀ part schema, r.declaration.input.get? part = some schema →
          (((ofConfig config).run before).scopes.schemaSet r.scope).MeansTheSame
            ((((ofConfig config).run before).makeReady.engine.run after).scopes.schemaSet r.scope)
            (.ofInline schema) schema) →
        InputValidators.compile
            ((((ofConfig config).run before).makeReady.engine.run after).scopes.schemaSet r.scope)
            r.method r.url r.declaration.input = .ok validators) := by
  have hmem := List.mem_of_getElem? hr
  have hvalidates := (validatesUnder_makeReady hready).run hafter
  have hlived := lived_reachable config (before ++ .ready :: after) id
  have hrun : (ofConfig config).run (before ++ .ready :: after) =
      ((ofConfig config).run before).makeReady.engine.run after :=
    run_append (ofConfig config) before (.ready :: after)
  rw [hrun] at hlived
  obtain ⟨p, hp, hvalidators⟩ := hvalidates.validators r hmem
  refine ⟨p.validators, hvalidators, fun request => ?_,
    hlived.isCurrent_of_ready hvalidates.ready hmem, fun hsame => ?_⟩
  · rw [validate_of_prepared hr hp request]
  · rw [InputValidators.compile_congr hsame, hvalidators]

def bodyOf (url : String) (schema : Json) : Operation :=
  .register (.addRoute .root { method := "POST", url, input := { body := some schema } })

/-- Two routes, of which the first refers to an embedded schema. -/
def twoBodies : List Operation := [
  .register (.registerSchema .root outerDocument),
  bodyOf "/a" (.object [("$ref", .string "urn:inner")]),
  bodyOf "/b" (.object [("type", .string "integer")])]

theorem ready_twoBodies : ((ofConfig {}).run twoBodies).makeReady.result = .ok ⟨2, 0, 2⟩ :=
  Result.toOption_eq_some.mp (by decide +kernel)

/-- A document of the embedded schema's identifier is registered, and the second route goes on to
validate by the schemas that are visible. -/
theorem validates_as_prepared_twoBodies :
    ((ofConfig {}).run twoBodies).makeReady.result = .ok ⟨2, 0, 2⟩ ∧
    ∃ r validators,
      (((ofConfig {}).run twoBodies).makeReady.engine.run
        [.register (.registerSchema .root innerDocument)]).routes[1]? = some r ∧
      InputValidators.compile ((((ofConfig {}).run twoBodies).makeReady.engine.run
          [.register (.registerSchema .root innerDocument)]).scopes.schemaSet r.scope) r.method
        r.url r.declaration.input = .ok validators ∧
      ∀ request, ((((ofConfig {}).run twoBodies).makeReady.engine.run
          [.register (.registerSchema .root innerDocument)]).validate ⟨1⟩ request).result =
        .ok (validators.check request) := by
  obtain ⟨r, hr⟩ := Option.isSome_iff_exists.mp
    (show ((((ofConfig {}).run twoBodies).makeReady.engine.run
      [.register (.registerSchema .root innerDocument)]).routes[1]?).isSome = true by
        decide +kernel)
  have halone : ((((ofConfig {}).run twoBodies).makeReady.engine.run
      [.register (.registerSchema .root innerDocument)]).routes[1]?).all (fun r =>
        RequestPart.all.all fun part => (r.declaration.input.get? part).all fun schema =>
          (Schema.schemasIn schema).all fun w => (Schema.reference? w).isNone) = true := by
    decide +kernel
  have hafter : ∀ operation ∈ [Operation.register (.registerSchema .root innerDocument)],
      operation.isReady = false := by
    intro operation hoperation
    rw [List.mem_singleton.mp hoperation]
    rfl
  obtain ⟨validators, -, hvalidate, -, hsame⟩ :=
    @validates_as_prepared {} twoBodies _ ready_twoBodies _ hafter ⟨1⟩ r hr
  refine ⟨ready_twoBodies, r, validators, hr, hsame fun part schema hschema => ?_, hvalidate⟩
  refine Schema.Set.meansTheSame_of_standsAlone fun w hw => ?_
  rw [hr] at halone
  simp only [Option.all_some, List.all_eq_true] at halone
  have hpart := halone part (by cases part <;> decide)
  rw [hschema] at hpart
  simp only [Option.all_some, List.all_eq_true] at hpart
  exact Option.isNone_iff_eq_none.mp (hpart w hw)

/-- **A ready engine can validate by a schema that is no longer visible**: a reference meant an
embedded schema, and the document that is registered then takes its place. -/
theorem not_validates_as_visible :
    ¬ ∀ (config : EngineConfig) (before : List Operation) (report : ReadyReport),
      ((ofConfig config).run before).makeReady.result = .ok report →
      ∀ scope root e',
        ((ofConfig config).run before).makeReady.engine.registerSchema scope root = .ok e' →
        ∀ (id : RouteId) (r : Route) (validators : InputValidators) (request : Request),
          e'.routes[id.index]? = some r →
          InputValidators.compile (e'.scopes.schemaSet r.scope) r.method r.url
            r.declaration.input = .ok validators →
          (e'.validate id request).result = .ok (validators.check request) := by
  intro hall
  obtain ⟨e', he'⟩ := Option.isSome_iff_exists.mp
    (show (((ofConfig {}).run twoBodies).makeReady.engine.registerSchema .root
      innerDocument).toOption.isSome = true by decide +kernel)
  have hrun : ((ofConfig {}).run twoBodies).makeReady.engine.run
      [.register (.registerSchema .root innerDocument)] = e' := by
    change (((ofConfig {}).run twoBodies).makeReady.engine.registerSchema .root
      innerDocument).toOption.getD _ = e'
    rw [he']
    rfl
  -- the number fits the schema that is visible, and it is refused all the same
  have hfits : (e'.routes[0]?).all (fun r => (InputValidators.compile
      (e'.scopes.schemaSet r.scope) r.method r.url r.declaration.input).toOption.any
        fun validators => (validators.check { body := some (.nat 5) }).isNone) = true := by
    rw [← hrun]
    decide +kernel
  have hrefused : (e'.validate ⟨0⟩ { body := some (.nat 5) }).result.toOption.map
      Option.isSome = some true := by
    rw [← hrun]
    decide +kernel
  obtain ⟨r, hr⟩ := Option.isSome_iff_exists.mp
    (show (e'.routes[0]?).isSome = true by rw [← hrun]; decide +kernel)
  rw [hr, Option.all_some, Option.any_eq_true] at hfits
  obtain ⟨validators, hcompile, hnone⟩ := hfits
  have hvalidate := hall {} twoBodies _ ready_twoBodies .root innerDocument e'
    (Result.toOption_eq_some.mp he') ⟨0⟩ r validators { body := some (.nat 5) } hr
    (Result.toOption_eq_some.mp hcompile)
  rw [hvalidate] at hrefused
  change some (validators.check { body := some (.nat 5) }).isSome = some true at hrefused
  rw [Option.isNone_iff_eq_none.mp hnone] at hrefused
  cases hrefused

end Engine

end ReplySchema

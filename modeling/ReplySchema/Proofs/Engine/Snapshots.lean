import Mathlib.Data.List.Infix
import ReplySchema.Proofs.Engine.Lived
import ReplySchema.Proofs.Scope.Line

/-! # When a snapshot is stale

A prepared route keeps the schemas that it saw.  A registration refreshes what is kept, but
only on an engine that is ready.  A call of ready that fails leaves the routes in front of
the failing one prepared and the engine not ready, so their schemas can grow old.

* `serves_snapshot`: a call uses the schemas that its route sees if and only if the
  generation of the snapshot is the present one.  It is so on an engine that is ready, and
  in a life without a failing call of ready.
* `not_serves_snapshot`: else it need not be so.
-/

set_option autoImplicit false

namespace ReplySchema.Engine

open Serving
open Schema (Document)

/-! ## §1  Current snapshots -/

/-- Whether a call on a route uses the schemas that the route sees. -/
def IsCurrent (e : Engine) (r : Route) : Prop := e.snapshot r = e.scopes.schemaSet r.scope

theorem isCurrent_of_unprepared {e : Engine} {r : Route} (h : r.prepared = none) :
    e.IsCurrent r := by
  rw [IsCurrent, snapshot, h]

variable {e : Engine} {id : RouteId} {C : Compiler → Prop}

theorem Lived.seen_snapshot (h : Lived e id C) {r : Route} (hr : r ∈ e.routes) :
    Seen e.scopes r.scope (e.snapshot r) := by
  unfold snapshot
  cases hp : r.prepared with
  | none => exact seen_schemaSet _ _
  | some p => exact (h.remembering r hr p hp).seen

theorem Lived.isCurrent_iff (h : Lived e id C) {r : Route} (hr : r ∈ e.routes) :
    e.IsCurrent r ↔ (e.snapshot r).generation = e.scopes.generation r.scope := by
  constructor
  · intro hcurrent
    rw [hcurrent, ScopeTree.generation_schemaSet]
  · exact (h.seen_snapshot hr).current

theorem Lived.isCurrent_of_ready (h : Lived e id C) (hready : e.ready = true) {r : Route}
    (hr : r ∈ e.routes) : e.IsCurrent r := by
  obtain ⟨p, hp, hreflects⟩ := h.prepared hready r hr
  rw [IsCurrent, snapshot, hp]
  exact hreflects.schemas

/-! ## §2  Lives without a failing call of ready -/

/-- Whether no route of an engine that is not ready is prepared. -/
def Unprepared (e : Engine) : Prop :=
  e.ready = false → ∀ r ∈ e.routes, r.prepared = none

/-- Whether every call of ready in a run succeeds. -/
def NeverFails (e : Engine) (operations : List Operation) : Prop :=
  ∀ front rest, operations = front ++ .ready :: rest →
    ∃ report, (e.run front).makeReady.result = .ok report

theorem Unprepared.registers {e' : Engine} (h : Unprepared e) (hstep : Registers e e') :
    Unprepared e' := by
  cases hstep with
  | unseen scopes hlength hview => exact h
  | compiler scopes hlength hset => exact h
  | schema scopes hlength hview =>
      intro hready r hr
      have hready' : e.ready = false := hready
      simp only [hready'] at hr
      exact h hready' r hr
  | route r hready hplaced hfresh =>
      intro _ r' hr'
      rcases List.mem_append.mp hr' with hr' | hr'
      · exact h hready r' hr'
      · rw [List.mem_singleton.mp hr']
        exact hfresh

theorem Unprepared.perform (h : Unprepared e) (operation : Operation)
    (hready : operation = .ready → ∃ report, e.makeReady.result = .ok report) :
    Unprepared (e.perform operation) := by
  cases operation with
  | register registration => exact register_keeps h (fun _ => h.registers) registration
  | ready =>
      obtain ⟨report, hreport⟩ := hready rfl
      change Unprepared e.makeReady.engine
      obtain ⟨routes, s, -, hengine⟩ := exists_of_makeReady_eq_ok hreport
      rw [hengine]
      exact nofun
  | clearCache => exact h
  | serialize id status contentType value => exact h
  | send id reply => exact h
  | validate id request => exact h
  | dispatch id request handler => exact h

theorem unprepared_run {e : Engine} (operations : List Operation) (h : Unprepared e)
    (hnever : NeverFails e operations) : Unprepared (e.run operations) := by
  refine run_induct h operations fun front operation rest hsplit hfront => ?_
  refine hfront.perform operation ?_
  rintro rfl
  exact hnever front rest hsplit

theorem isCurrent_of_neverFails {config : EngineConfig} {operations : List Operation}
    (hnever : NeverFails (ofConfig config) operations) {r : Route}
    (hr : r ∈ ((ofConfig config).run operations).routes) :
    ((ofConfig config).run operations).IsCurrent r := by
  have hunprepared := unprepared_run operations (e := ofConfig config)
    (fun _ r hr => by cases hr) hnever
  cases hready : ((ofConfig config).run operations).ready with
  | true => exact (lived_reachable config operations ⟨0⟩).isCurrent_of_ready hready hr
  | false => exact isCurrent_of_unprepared (hunprepared hready r hr)

/-! ## §3  What is served -/

/-- Whether a compiler was in force for a route at some moment of a run. -/
def WasInForce (e : Engine) (operations : List Operation) (id : RouteId) (c : Compiler) : Prop :=
  ∃ front rest r, operations = front ++ rest ∧ (e.run front).routes[id.index]? = some r ∧
    (e.run front).compilerFor r = c

theorem lived_wasInForce (config : EngineConfig) (operations : List Operation) (id : RouteId) :
    Lived ((ofConfig config).run operations) id (WasInForce (ofConfig config) operations id) :=
  lived_run (lived_ofConfig config id _) operations
    fun front rest hsplit r hr => ⟨front, rest, r, hsplit, hr, rfl⟩

/-- **What a call uses is current if and only if its generation is**: then each call on a route
uses the schemas that the route sees and no others, else older ones.  It is current on an engine
that is ready, on a route that is not prepared, and in every life without a failing call of ready.
A schema that is registered is among those that the routes below its scope see. -/
theorem serves_snapshot (config : EngineConfig) (operations : List Operation) (id : RouteId)
    (r : Route) (hr : ((ofConfig config).run operations).routes[id.index]? = some r) :
    (((ofConfig config).run operations).IsCurrent r ↔
      (((ofConfig config).run operations).snapshot r).generation =
        ((ofConfig config).run operations).scopes.generation r.scope) ∧
    (((ofConfig config).run operations).IsCurrent r →
      Serves ((ofConfig config).run operations) id r (WasInForce (ofConfig config) operations id)
        (· = ((ofConfig config).run operations).scopes.schemaSet r.scope)) ∧
    (¬ ((ofConfig config).run operations).IsCurrent r →
      Serves ((ofConfig config).run operations) id r (WasInForce (ofConfig config) operations id)
        fun schemas => schemas.generation <
          ((ofConfig config).run operations).scopes.generation r.scope) ∧
    (((ofConfig config).run operations).ready = true ∨ r.prepared = none ∨
        NeverFails (ofConfig config) operations →
      ((ofConfig config).run operations).IsCurrent r) ∧
    ∀ scope root e', ((ofConfig config).run operations).registerSchema scope root = .ok e' →
      ((ofConfig config).run operations).scopes.IsAbove scope r.scope →
      ∃ document name, Document.ofShared? root = .ok document ∧ document.id = some name ∧
        (Table.find? name (e'.scopes.schemaSet r.scope).documents).isSome = true ∧
        (Table.find? name
            (((ofConfig config).run operations).scopes.schemaSet r.scope).documents = none →
          ∃ source, Table.find? name (e'.scopes.schemaSet r.scope).documents = some source ∧
            source.document = document) := by
  have hmem := List.mem_of_getElem? hr
  have hlived := lived_wasInForce config operations id
  have hserves := serves hlived.remembering hlived.traced
    (fun r hr => ⟨operations, [], r, (List.append_nil _).symm, hr, rfl⟩) hr
  have hiff := hlived.isCurrent_iff hmem
  refine ⟨hiff, fun hcurrent => ?_, fun hstale => ?_, ?_, ?_⟩
  · exact hserves.mono fun schemas huses => huses.1.current (huses.2.trans (hiff.mp hcurrent))
  · refine hserves.mono fun schemas huses => ?_
    have hne : schemas.generation ≠ _ := fun heq => hstale (hiff.mpr (huses.2.symm.trans heq))
    have hle := huses.1.notYounger
    omega
  · rintro (hready | hfresh | hnever)
    · exact hlived.isCurrent_of_ready hready hmem
    · exact isCurrent_of_unprepared hfresh
    · exact isCurrent_of_neverFails hnever hmem
  · intro scope root e' hregister habove
    obtain ⟨scopes, hscopes, hregister⟩ := Result.bind_eq_ok.mp hregister
    rw [Result.pure_eq_ok] at hregister
    subst hregister
    exact ScopeTree.visible_of_registerSchema hscopes habove

def outerDocument : Json :=
  .object [("$id", .string "urn:outer"), ("definitions", .object [
    ("in", .object [("$id", .string "urn:inner"), ("type", .string "string")])])]

def innerDocument : Json :=
  .object [("$id", .string "urn:inner"), ("type", .string "integer")]

def repliesOf (reference : String) : Json :=
  .object [("200", .object [("$ref", .string reference)])]

def routeTo (url reference : String) : Operation :=
  .register (.addRoute .root { method := "GET", url, response := some (repliesOf reference) })

/-- A route that refers to an embedded schema, and a document of the same identifier that is
registered once the engine is ready. -/
def succeeding : List Operation := [
  .register (.registerSchema .root outerDocument),
  routeTo "/a" "urn:inner",
  .ready,
  .register (.registerSchema .root innerDocument)]

theorem serves_snapshot_succeeding :
    ∃ r, ((ofConfig {}).run succeeding).routes[0]? = some r ∧
      ((ofConfig {}).run succeeding).IsCurrent r ∧
      Serves ((ofConfig {}).run succeeding) ⟨0⟩ r (WasInForce (ofConfig {}) succeeding ⟨0⟩)
        (· = ((ofConfig {}).run succeeding).scopes.schemaSet r.scope) := by
  obtain ⟨r, hr⟩ := Option.isSome_iff_exists.mp
    (show (((ofConfig {}).run succeeding).routes[0]?).isSome = true by decide +kernel)
  have hready : ((ofConfig {}).run succeeding).ready = true := by decide +kernel
  obtain ⟨-, hserves, -, hcurrent, -⟩ := serves_snapshot {} succeeding ⟨0⟩ r hr
  exact ⟨r, hr, hcurrent (Or.inl hready), hserves (hcurrent (Or.inl hready))⟩

/-! ## §4  A failing call of ready -/

/-- The same life with a second route, for which the call of ready fails. -/
def failing : List Operation := [
  .register (.registerSchema .root outerDocument),
  routeTo "/a" "urn:inner",
  routeTo "/b" "urn:none",
  .ready,
  .register (.registerSchema .root innerDocument)]

/-- Whether a compiler is the built-in one that cuts fractions off. -/
def isBuiltIn : Compiler → Bool
  | .builtIn .trunc => true
  | _ => false

theorem wasInForce_failing {c : Compiler} (h : WasInForce (ofConfig {}) failing ⟨0⟩ c) :
    c = .builtIn .trunc := by
  have hall : ∀ front ∈ failing.inits, (((ofConfig {}).run front).routes[0]?).all
      (fun r => isBuiltIn (((ofConfig {}).run front).compilerFor r)) = true := by
    rw [← List.all_eq_true]
    decide +kernel
  obtain ⟨front, rest, r, hsplit, hr, rfl⟩ := h
  have hfront := hall front ((List.mem_inits _ _).mpr ⟨rest, hsplit.symm⟩)
  rw [hr] at hfront
  change isBuiltIn _ = true at hfront
  unfold isBuiltIn at hfront
  split at hfront
  · assumption
  · cases hfront

/-- **After a failing call of ready a snapshot can be stale**: the route in front of the failing one
is prepared, and a schema that is registered then is not seen by its calls. -/
theorem not_serves_snapshot :
    ¬ ∀ (config : EngineConfig) (operations : List Operation) (id : RouteId) (r : Route),
      ((ofConfig config).run operations).routes[id.index]? = some r →
      Serves ((ofConfig config).run operations) id r (WasInForce (ofConfig config) operations id)
        (· = ((ofConfig config).run operations).scopes.schemaSet r.scope) := by
  intro hall
  obtain ⟨r, hr⟩ := Option.isSome_iff_exists.mp
    (show (((ofConfig {}).run failing).routes[0]?).isSome = true by decide +kernel)
  -- what is sent is of the schema that was seen first, and not of the one that is seen now
  have htext : (((ofConfig {}).run failing).serialize ⟨0⟩ 200 none
      (.nat 5)).result.toOption.map Payload.toText = some "\"5\"" := by
    decide +kernel
  have hnow : (((ofConfig {}).run failing).routes[0]?).all (fun r =>
      (r.declared.toOption).all fun d => d.slots.all fun slot =>
        ((r.compiledBy (.builtIn .trunc) (((ofConfig {}).run failing).scopes.schemaSet r.scope)
          slot).toOption.bind fun serializer =>
            (serializer (.nat 5)).toOption.map Payload.toText) == some "5") = true := by
    decide +kernel
  rcases (hall {} failing ⟨0⟩ r hr).text_cases htext with hgeneric |
    ⟨d, slot, compiler, schemas, serializer, payload, hd, hslot, hcompiler, rfl, hmade, hpayload,
      hold⟩
  · revert hgeneric
    decide +kernel
  · obtain rfl := wasInForce_failing hcompiler
    rw [hr] at hnow
    simp only [Option.all_some, hd, Except.toOption, List.all_eq_true, beq_iff_eq] at hnow
    have hfive := hnow slot hslot
    rw [hmade] at hfive
    change (serializer (.nat 5)).toOption.map Payload.toText = some "5" at hfive
    rw [hpayload] at hfive
    have hsame : some payload.toText = some "5" := hfive
    rw [hold] at hsame
    revert hsame
    decide

end ReplySchema.Engine

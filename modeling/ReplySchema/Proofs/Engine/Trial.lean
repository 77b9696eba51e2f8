import ReplySchema.Proofs.Engine.Faithful
import ReplySchema.Proofs.Reply.Response

/-! # What a diagnosis tries

A diagnosis prepares every route and keeps nothing.  What it finds therefore depends on no state:
it is a function of the engine (`tried`), and of the state it changes the events alone.

* §1 has the rules for steps that come to one value from every state and leave the cache alone.
* §2 follows the preparation of a route whose serializers are discarded.
* §3 is about all routes.

Main statements: `diagnose_eq` and `cache_diagnosis`.
-/

set_option autoImplicit false

namespace ReplySchema

open Serving
open Response (Slot)

/-! ## §1  Steps that leave the cache alone -/

namespace Serving

variable {α β ε : Type}

/-- Whether a step comes to a value, whatever the state, and leaves the cache alone. -/
def Settles (step : StateM Serving α) (a : α) : Prop :=
  ∀ s, ∃ events, step.run s = (a, { s with events })

theorem settles_pure (a : α) : Settles (pure a) a := fun s => ⟨s.events, rfl⟩

theorem settles_bind {x : StateM Serving α} {f : α → StateM Serving β} {a : α} {b : β}
    (hx : Settles x a) (hf : Settles (f a) b) : Settles (x >>= f) b := by
  intro s
  obtain ⟨events, hrun⟩ := hx s
  obtain ⟨events', hrun'⟩ := hf { s with events }
  exact ⟨events', (Pipeline.run_then hrun).trans hrun'⟩

theorem settles_bindExcept {x : Serve ε α} {f : α → Serve ε β} {result : Except ε α}
    {g : α → Except ε β} (hx : Settles x.run result)
    (hf : ∀ a, result = .ok a → Settles (f a).run (g a)) :
    Settles (x >>= f).run (result >>= g) := by
  change Settles (x.run >>= ExceptT.bindCont f) (result >>= g)
  refine settles_bind hx ?_
  cases result with
  | error fault => exact settles_pure _
  | ok a => exact hf a rfl

theorem settles_forM {step : α → Serve ε Unit} {g : α → Except ε Unit}
    (h : ∀ x, Settles (step x).run (g x)) :
    ∀ xs : List α, Settles (xs.forM step).run (xs.forM g)
  | [] => settles_pure _
  | x :: xs => settles_bindExcept (h x) fun _ _ => settles_forM h xs

theorem settles_mapM {step : α → StateM Serving β} {g : α → β}
    (h : ∀ x, Settles (step x) (g x)) : ∀ xs : List α, Settles (xs.mapM step) (xs.map g)
  | [] => by
      rw [List.mapM_nil]
      exact settles_pure _
  | x :: xs => by
      rw [List.mapM_cons]
      refine settles_bind (h x) ?_
      refine settles_bind (settles_mapM h xs) ?_
      exact settles_pure _

end Serving

namespace Engine

/-! ## §2  One route -/

/-- What trying a slot under given schemas comes to: the check of its references, and then the
compiler. -/
def trySlot (e : Engine) (r : Route) (schemas : Schema.Set) (slot : Slot) :
    Except BuildError Unit :=
  match schemas.check (.ofInline slot.schema) with
  | .error fault => .error (r.error (.schema fault))
  | .ok _ => (e.compiled r schemas slot).map fun _ => ()

/-- What trying a route comes to: its outfit, if every slot can be compiled by itself. -/
def tried (e : Engine) (r : Route) : Except BuildError Prepared := do
  let p ← e.outfit r
  p.responses.slots.forM (e.trySlot r p.schemas)
  return p

variable (e : Engine) (id : RouteId) (r : Route)

theorem compileSlot_settles (schemas : Schema.Set) (slot : Slot) :
    Settles (e.compileSlot r schemas slot).run (e.compiled r schemas slot) :=
  fun s => ⟨_, run_compileSlot e r schemas slot s⟩

theorem prepareSlot_settles (p : Prepared) (slot : Slot) :
    Settles (e.prepareSlot id r .discarded p slot).run (e.trySlot r p.schemas slot) := by
  unfold prepareSlot trySlot
  cases p.schemas.check (.ofInline slot.schema) with
  | error fault => exact settles_pure _
  | ok checked =>
      -- a slot that is tried is compiled for its fault alone
      have hdiscard : (e.compiled r p.schemas slot).map (fun _ => ()) =
          e.compiled r p.schemas slot >>= fun _ => .ok () := by
        cases e.compiled r p.schemas slot <;> rfl
      dsimp only
      rw [hdiscard]
      exact settles_bindExcept (compileSlot_settles e r p.schemas slot) fun _ _ => settles_pure _

/-- A preparation that keeps nothing comes to what is tried. -/
theorem prepare_settles : Settles (e.prepare id r .discarded).run (e.tried r) := by
  unfold prepare tried
  cases e.outfit r with
  | error fault => exact settles_pure _
  | ok p =>
      refine settles_bindExcept (settles_forM (prepareSlot_settles e id r p) _) ?_
      exact fun _ _ => settles_pure _

/-! ## §3  All routes -/

/-- How a diagnosis tells of what is wrong with a route. -/
def issueOf (r : Route) (fault : BuildError) : Issue := ⟨r.label, fault.code, fault.message⟩

/-- What a diagnosis finds wrong with a route. -/
def issue? : Option Issue :=
  match e.tried r with
  | .ok _ => none
  | .error fault => some (issueOf r fault)

theorem diagnoseRoute_settles (index : Nat) :
    Settles (e.diagnoseRoute index r) (e.issue? r) := by
  refine settles_bind (prepare_settles e ⟨index⟩ r) ?_
  unfold issue?
  cases e.tried r with
  | ok p => exact settles_pure _
  | error fault => exact settles_pure _

def diagnosis : List (Option Issue) × Serving :=
  (e.routes.zipIdx.mapM fun p => e.diagnoseRoute p.2 p.1).run { cache := e.cache }

theorem diagnosis_eq :
    ∃ events, e.diagnosis = (e.routes.map e.issue?, { cache := e.cache, events }) := by
  obtain ⟨events, hrun⟩ := settles_mapM (fun p : Route × Nat => diagnoseRoute_settles e p.1 p.2)
    e.routes.zipIdx { cache := e.cache }
  have hroutes : e.routes.zipIdx.map (fun p => e.issue? p.1) = e.routes.map e.issue? := by
    have hmap := List.map_map (l := e.routes.zipIdx) (f := Prod.fst) (g := e.issue?)
    rw [List.zipIdx_map_fst] at hmap
    exact hmap.symm
  exact ⟨events, hrun.trans (by rw [hroutes])⟩

/-- **A diagnosis finds what trying each route by itself comes to.** -/
theorem diagnose_eq : e.diagnose.1 = e.routes.filterMap e.issue? := by
  obtain ⟨events, hrun⟩ := e.diagnosis_eq
  change e.diagnosis.1.filterMap id = e.routes.filterMap e.issue?
  rw [hrun, List.filterMap_map]
  rfl

theorem cache_diagnosis : e.diagnosis.2.cache = e.cache := by
  obtain ⟨events, hrun⟩ := e.diagnosis_eq
  rw [hrun]

end Engine

end ReplySchema

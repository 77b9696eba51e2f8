import ReplySchema.Engine.Service
import ReplySchema.Proofs.Result

/-! # Steps of serving and the cache

Serving changes nothing but the cache, and it does so through compiled artifacts only.
`Meets P step Q` says that a step begun with a cache of property `P` ends with a result
and a cache that satisfy `Q`.  There is one rule for each way in which steps are put
together, so that a statement about a call follows the text of the call.
-/

set_option autoImplicit false

namespace ReplySchema

namespace Serving

variable {α β : Type}

/-- Whether a step that begins with a cache of property `P` ends with `Q`. -/
def Meets (P : Cache Serializer → Prop) (step : StateM Serving α)
    (Q : α → Cache Serializer → Prop) : Prop :=
  ∀ s, P s.cache → Q (step.run s).1 (step.run s).2.cache

/-- Whether a step keeps a property of the cache. -/
def Keeps (P : Cache Serializer → Prop) (step : StateM Serving α) : Prop :=
  Meets P step fun _ => P

variable {P : Cache Serializer → Prop}

/-! ## §1  Steps that cannot fail -/

theorem meets_pure {a : α} {Q : α → Cache Serializer → Prop} (h : ∀ c, P c → Q a c) :
    Meets P (pure a) Q :=
  fun s hs => h s.cache hs

theorem meets_bind {x : StateM Serving α} {f : α → StateM Serving β}
    {R : α → Cache Serializer → Prop} {Q : β → Cache Serializer → Prop}
    (hx : Meets P x R) (hf : ∀ a, Meets (R a) (f a) Q) : Meets P (x >>= f) Q := by
  intro s hs
  exact hf (x.run s).1 (x.run s).2 (hx s hs)

theorem Meets.mono {x : StateM Serving α} {R Q : α → Cache Serializer → Prop}
    (hx : Meets P x R) (h : ∀ a c, R a c → Q a c) : Meets P x Q :=
  fun s hs => h _ _ (hx s hs)

theorem note_keeps (event : Event) : Keeps P (note event) :=
  fun _ hs => hs

/-! ## §2  Steps that can fail -/

variable {ε ε' : Type}

theorem meets_ok {a : α} {Q : Except ε α → Cache Serializer → Prop}
    (h : ∀ c, P c → Q (.ok a) c) : Meets P (pure a : Serve ε α).run Q :=
  meets_pure h

theorem meets_throw {error : ε} {Q : Except ε α → Cache Serializer → Prop}
    (h : ∀ c, P c → Q (.error error) c) : Meets P (throw error : Serve ε α).run Q :=
  meets_pure h

/-- A composed step goes on if its first part came to a value, else it ends there. -/
theorem meets_bindExcept {x : Serve ε α} {f : α → Serve ε β}
    {R : Except ε α → Cache Serializer → Prop} {Q : Except ε β → Cache Serializer → Prop}
    (hx : Meets P x.run R) (hok : ∀ a, Meets (R (.ok a)) (f a).run Q)
    (herror : ∀ e c, R (.error e) c → Q (.error e) c) : Meets P (x >>= f).run Q := by
  change Meets P (x.run >>= ExceptT.bindCont f) Q
  refine meets_bind hx fun result => ?_
  cases result with
  | ok a => exact hok a
  | error e => exact meets_pure (herror e)

theorem run_getCache (s : Serving) :
    (getThe (Cache Serializer) : Serve ε (Cache Serializer)).run.run s = (.ok s.cache, s) := rfl

theorem run_modifyGetCache (f : Cache Serializer → α × Cache Serializer) (s : Serving) :
    (modifyGetThe (Cache Serializer) f : Serve ε α).run.run s =
      (.ok (f s.cache).1, { s with cache := (f s.cache).2 }) := rfl

theorem run_forM_cons (step : α → Serve ε Unit) (x : α) (xs : List α) (s : Serving) :
    ((x :: xs).forM step).run.run s = match (step x).run.run s with
      | (.ok _, s') => (xs.forM step).run.run s'
      | (.error e, s') => (.error e, s') := by
  change (step x >>= fun _ => xs.forM step).run.run s = _
  rw [Result.run_bind]
  rcases (step x).run.run s with ⟨result, s'⟩
  cases result <;> rfl

theorem meets_mapError {x : Serve ε α} {g : ε → ε'} {R : Except ε α → Cache Serializer → Prop}
    {Q : Except ε' α → Cache Serializer → Prop} (hx : Meets P x.run R)
    (h : ∀ result c, R result c → Q (result.mapError g) c) :
    Meets P (x.mapError g).run Q :=
  meets_bind hx fun result => meets_pure (h result)

theorem meets_lift {x : StateM Serving α} {Q : Except ε α → Cache Serializer → Prop}
    (hx : Meets P x fun a c => Q (.ok a) c) : Meets P (ExceptT.lift x : Serve ε α).run Q :=
  meets_bind hx fun _ => meets_pure fun _ hc => hc

end Serving

end ReplySchema

import ReplySchema.Proofs.Engine.Frame

/-! # What a call uses

A call on a route uses a preparation, the one that the route has or a new one, and then
the serializers of the slots that apply.  `Serves` says where all of this comes from: each
serializer that is applied was made by one of some compilers under one of some schema
sets, and so was everything that the call reports as wrong.

Main statement: `serves`, for the compilers of the artifacts and the schemas of the
preparation.  It rests on `framed_traced`: the artifacts stay traced through every call.
-/

set_option autoImplicit false

namespace ReplySchema

open Serving
open Response (Slot Declaration)

/-! ## §1  Every slot that is looked up is declared -/

namespace Response.Declaration

theorem mem_entrySlots_of_select? {policy : Fallthrough} {mediaType : String} {s : Slot} :
    ∀ {entries : List Entry}, select? policy mediaType entries = some s →
      ∃ e ∈ entries, s ∈ entrySlots e
  | [], h => by cases h
  | e :: rest, h => by
      unfold select? at h
      cases hbody : e.body with
      | schema schema =>
          simp only [hbody, Option.some.injEq] at h
          exact ⟨e, List.mem_cons_self, by simp [entrySlots, hbody, ← h]⟩
      | content map =>
          simp only [hbody] at h
          cases hfind : map.find? mediaType with
          | some found =>
              obtain ⟨key, schema⟩ := found
              simp only [hfind, Option.some.injEq] at h
              refine ⟨e, List.mem_cons_self, ?_⟩
              have hmem : (key, schema) ∈ map.slots := by
                rcases Result.eq_some_of_orElse hfind with hentry | hwild
                · exact List.mem_append_left _ (List.mem_of_find?_eq_some hentry)
                · obtain ⟨w, hw, heq⟩ := Option.map_eq_some_iff.mp hwild
                  exact List.mem_append_right _ (by simp [hw, heq])
              simp only [entrySlots, hbody, List.mem_map]
              exact ⟨(key, schema), hmem, h⟩
          | none =>
              cases policy with
              | stop => simp [hfind] at h
              | next =>
                  simp only [hfind] at h
                  obtain ⟨e', he', hs⟩ := mem_entrySlots_of_select? h
                  exact ⟨e', List.mem_cons_of_mem _ he', hs⟩

theorem mem_slots_of_resolve? {d : Declaration} {status : Nat} {contentType : Option String}
    {policy : Fallthrough} {s : Slot} (h : d.resolve? status contentType policy = some s) :
    s ∈ d.slots := by
  obtain ⟨e, he, hs⟩ := mem_entrySlots_of_select? h
  exact List.mem_flatMap.mpr ⟨e, (List.mem_filter.mp he).1, hs⟩

end Response.Declaration

namespace Engine

/-! ## §2  What a call comes to -/

/-- Whether a lookup comes to no serializer if no slot applies, and else to what one of some
compilers makes of the slot under one of some schema sets. -/
def LooksUp (e : Engine) (r : Route) (d : Declaration) (C : Compiler → Prop)
    (S : Schema.Set → Prop) (status : Nat) (contentType : Option String)
    (found : Except BuildError (Option Serializer)) : Prop :=
  match d.resolve? status contentType e.config.contentFallthrough with
  | none => found = .ok none
  | some slot => ∃ made, r.Makes d C S slot made ∧ found = made.map some

/-- Whether a call on a route ended because the route cannot be prepared. -/
def Fails {α : Type} (r : Route) (C : Compiler → Prop) (S : Schema.Set → Prop)
    (result : Except EngineError α) : Prop :=
  r.prepared = none ∧ ∃ fault, r.Refuses C S fault ∧ result = .error (.build fault)

def Serializes (e : Engine) (r : Route) (C : Compiler → Prop) (S : Schema.Set → Prop)
    (status : Nat) (contentType : Option String) (value : Json)
    (result : Except EngineError Payload) : Prop :=
  Fails r C S result ∨ ∃ d found, r.declared = .ok d ∧
    e.LooksUp r d C S status contentType found ∧ result = payloadBy found value

def Sends (e : Engine) (id : RouteId) (r : Route) (C : Compiler → Prop) (S : Schema.Set → Prop)
    (reply : Reply) (result : Except EngineError SentResponse) : Prop :=
  Fails r C S result ∨ ∃ d p status first second, r.declared = .ok d ∧
    e.LooksUp r d C S reply.status reply.contentType first ∧
    e.LooksUp r d C S status reply.contentType second ∧
    result = .ok ((e.pipeline id r p).response reply (foundBy first) (foundBy second))

/-- Whether all calls that serialize on a route use serializers made by some compilers under some
schema sets, and report faults that come from these alone. -/
structure Serves (e : Engine) (id : RouteId) (r : Route) (C : Compiler → Prop)
    (S : Schema.Set → Prop) : Prop where
  serialize : ∀ status contentType value, e.Serializes r C S status contentType value
    (e.serialize id status contentType value).result
  send : ∀ reply, e.Sends id r C S reply (e.send id reply).result

/-! ## §3  One call -/

def Uses (e : Engine) (r : Route) (schemas : Schema.Set) : Prop :=
  Seen e.scopes r.scope schemas ∧ schemas.generation = (e.snapshot r).generation

def InForce (e : Engine) (id : RouteId) (C : Compiler → Prop) : Prop :=
  ∀ r, e.routes[id.index]? = some r → C (e.compilerFor r)

theorem uses_of_unprepared {e : Engine} {r : Route} (h : r.prepared = none) :
    Uses e r (e.scopes.schemaSet r.scope) :=
  ⟨seen_schemaSet _ _, by rw [snapshot, h]⟩

theorem refuses_mono {r : Route} {C : Compiler → Prop} {S S' : Schema.Set → Prop}
    {fault : BuildError} (h : r.Refuses C S fault) (hS : ∀ schemas, S schemas → S' schemas) :
    r.Refuses C S' fault := by
  cases h with
  | declaration h => exact .declaration h
  | input hschemas h => exact .input (hS _ hschemas) h
  | reference hd hslot hschemas h => exact .reference hd hslot (hS _ hschemas) h
  | slot hd hslot h => exact .slot hd hslot (h.mono hS)

variable {e : Engine} {id : RouteId} {C : Compiler → Prop}

/-- The serializer of a slot keeps the artifacts traced, and it is one of those that the route may
use. -/
theorem serializerFor_traced (hforce : InForce e id C) {j : RouteId} {r : Route} {p : Prepared}
    (hr : e.routes[j.index]? = some r) (hp : Remembers e r p)
    (hschemas : p.schemas = e.snapshot r) (status : Nat) (contentType : Option String) :
    Meets (Traced e id C) (e.serializerFor j r p status contentType).run fun result c =>
      Traced e id C c ∧
        (j = id → e.LooksUp r p.responses C (e.Uses r) status contentType result) := by
  unfold serializerFor LooksUp
  cases hslot : p.responses.resolve? status contentType e.config.contentFallthrough with
  | none => exact meets_pure fun _ hc => ⟨hc, fun _ => rfl⟩
  | some slot =>
      rw [hp.version]
      have hcompiler : j = id → C (e.compilerFor r) :=
        fun hj => hforce r (by rw [← hj]; exact hr)
      have hartifact := artifact_traced hr hp.responses
        (Declaration.mem_slots_of_resolve? hslot) hp.seen hcompiler
      have hmono : ∀ {made}, (j = id → r.Makes p.responses C (fun other =>
          Seen e.scopes r.scope other ∧ other.generation = p.schemas.generation) slot made) →
          j = id → ∃ made', r.Makes p.responses C (e.Uses r) slot made' ∧
            made.map some = made'.map some :=
        fun hmade hj => ⟨_, (hmade hj).mono fun _ h => by rwa [Uses, ← hschemas], rfl⟩
      refine meets_bindExcept hartifact ?_ ?_
      · exact fun serializer => meets_pure fun c hc => ⟨hc.1, hmono hc.2⟩
      · exact fun fault c hc => ⟨hc.1, hmono hc.2⟩

/-- What every call keeps and finds: artifacts stay traced, and what goes wrong when the route is
prepared and what a lookup comes to is due to the compilers. -/
theorem framed_traced (h : Remembering e) (hforce : InForce e id C) :
    Framed e (Traced e id C)
      (fun j r fault => j = id → r.Refuses C (· = e.scopes.schemaSet r.scope) fault)
      (fun j r p status contentType found =>
        j = id → e.LooksUp r p.responses C (e.Uses r) status contentType found) where
  remembering := h
  prepare j r hr := by
    have hprepare := prepare_traced hr fun hj : j = id => hforce r (by rw [← hj]; exact hr)
    refine hprepare.mono fun result c hc => ⟨hc.1, hc.2.1, fun fault hfault hj => ?_⟩
    exact hc.2.2 hj fault hfault
  lookup j r p status contentType hr hp hschemas :=
    serializerFor_traced hforce hr hp hschemas status contentType

/-- A call that ends because its route cannot be prepared uses the schemas that the route sees. -/
theorem EndsUnprepared.fails {α : Type} {r : Route} {result : Except EngineError α}
    (h : EndsUnprepared (fun j r fault => j = id →
      r.Refuses C (· = e.scopes.schemaSet r.scope) fault) id r result) :
    Fails r C (e.Uses r) result := by
  obtain ⟨hp, fault, hrefuses, heq⟩ := h
  refine ⟨hp, fault, refuses_mono (hrefuses rfl) ?_, heq⟩
  rintro _ rfl
  exact uses_of_unprepared hp

/-- **What a call uses**: where the artifacts of a route are traced to some compilers and the one
in force is among them, each call uses what these made under schemas of the generation of the
snapshot. -/
theorem serves (h : Remembering e) (htraced : Traced e id C e.cache) (hforce : InForce e id C)
    {r : Route} (hr : e.routes[id.index]? = some r) : Serves e id r C (e.Uses r) where
  serialize status contentType value := by
    have hresult := ((framed_traced h hforce).serializeStep id status contentType value
      { cache := e.cache } htraced).2 r hr
    refine hresult.imp EndsUnprepared.fails ?_
    rintro ⟨p, found, hp, hfound, heq⟩
    exact ⟨p.responses, found, hp.responses, hfound rfl, heq⟩
  send reply := by
    have hresult := ((framed_traced h hforce).sendStep id reply { cache := e.cache } htraced).2 r hr
    refine hresult.imp EndsUnprepared.fails ?_
    rintro ⟨p, status, first, second, hp, hfirst, hsecond, heq⟩
    exact ⟨p.responses, p, status, first, second, hp.responses, hfirst rfl, hsecond rfl, heq⟩

theorem Fails.mono {α : Type} {r : Route} {S S' : Schema.Set → Prop} {result : Except EngineError α}
    (h : Fails r C S result) (hS : ∀ schemas, S schemas → S' schemas) : Fails r C S' result := by
  obtain ⟨hp, fault, hrefuses, hresult⟩ := h
  exact ⟨hp, fault, refuses_mono hrefuses hS, hresult⟩

theorem LooksUp.mono {r : Route} {d : Declaration} {S S' : Schema.Set → Prop} {status : Nat}
    {contentType : Option String} {found : Except BuildError (Option Serializer)}
    (h : e.LooksUp r d C S status contentType found) (hS : ∀ schemas, S schemas → S' schemas) :
    e.LooksUp r d C S' status contentType found := by
  unfold LooksUp at h ⊢
  cases hslot : d.resolve? status contentType e.config.contentFallthrough with
  | none => simpa only [hslot] using h
  | some slot =>
      simp only [hslot] at h
      obtain ⟨made, hmade, hfound⟩ := h
      exact ⟨made, hmade.mono hS, hfound⟩

theorem Serves.mono {r : Route} {S S' : Schema.Set → Prop} (h : Serves e id r C S)
    (hS : ∀ schemas, S schemas → S' schemas) : Serves e id r C S' where
  serialize status contentType value := by
    refine (h.serialize status contentType value).imp (fun hfails => hfails.mono hS) ?_
    rintro ⟨d, found, hd, hfound, heq⟩
    exact ⟨d, found, hd, hfound.mono hS, heq⟩
  send reply := by
    refine (h.send reply).imp (fun hfails => hfails.mono hS) ?_
    rintro ⟨d, p, status, first, second, hd, hfirst, hsecond, heq⟩
    exact ⟨d, p, status, first, second, hd, hfirst.mono hS, hsecond.mono hS, heq⟩

/-- A text that a call serializes is what the value is without a slot, or what a serializer that one
of some compilers made writes. -/
theorem Serves.text_cases {r : Route} {S : Schema.Set → Prop} (h : Serves e id r C S)
    {status : Nat} {contentType : Option String} {value : Json} {text : String}
    (htext : (e.serialize id status contentType value).result.toOption.map Payload.toText =
      some text) :
    (Payload.generic value).2.toText = text ∨
      ∃ d slot compiler schemas serializer payload, r.declared = .ok d ∧ slot ∈ d.slots ∧
        C compiler ∧ S schemas ∧ r.compiledBy compiler schemas slot = .ok serializer ∧
        serializer value = .ok payload ∧ payload.toText = text := by
  obtain ⟨payload, hpayload, rfl⟩ := Option.map_eq_some_iff.mp htext
  rw [Result.toOption_eq_some] at hpayload
  rcases h.serialize status contentType value with
    ⟨-, fault, -, hresult⟩ | ⟨d, found, hd, hfound, hresult⟩
  · rw [hresult] at hpayload
    cases hpayload
  · rw [hresult] at hpayload
    unfold LooksUp at hfound
    cases hslot : d.resolve? status contentType e.config.contentFallthrough with
    | none =>
        simp only [hslot] at hfound
        rw [hfound] at hpayload
        exact Or.inl (congrArg Payload.toText (Except.ok.inj hpayload))
    | some slot =>
        simp only [hslot] at hfound
        obtain ⟨made, ⟨compiler, schemas, slot', hC, hS, hmem, -, -, rfl⟩, rfl⟩ := hfound
        cases hmade : r.compiledBy compiler schemas slot' with
        | error fault =>
            rw [hmade] at hpayload
            cases hpayload
        | ok serializer =>
            rw [hmade] at hpayload
            exact Or.inr ⟨d, slot', compiler, schemas, serializer, payload, hd, hmem, hC, hS, hmade,
              Result.mapError_eq_ok.mp hpayload, rfl⟩

end Engine

end ReplySchema

import Mathlib.Data.List.Chain
import Mathlib.Data.List.Nodup
import ReplySchema.Proofs.Engine.Faithful
import ReplySchema.Proofs.Reply.Response

/-! # Every reply is delivered

Whatever the serializers, the handler of errors and the lookups do, a reply ends as a
response, and the response is in order: its states are a path from the first state to a
terminal one, its status and content type are those of the reply or of the handler
unless the body is fixed, and what goes out can be sent.

* §1 is about the graph of states: whatever a path is, it meets no state twice and no
  terminal state before its end.
* §2 and §3 are about the two ways to a response, that of a reply as it is and that of an
  error.
* §4 is about the calls that tell of an error.

Main statement: `send_delivers`.
-/

set_option autoImplicit false

namespace ReplySchema

/-! ## §1  The graph of states -/

namespace ReplyState

def next : ReplyState → List ReplyState
  | pending => [sentRaw, resolvingSchema, errorSerializing, sentFixedFallback]
  | resolvingSchema => [serializing, sent, errorSerializing]
  | serializing => [sent, errorSerializing, sentFixedFallback]
  | errorSerializing => [sentError, doubleFailure, sentFixedFallback]
  | doubleFailure => [sentFixedFallback]
  | sentRaw => []
  | sent => []
  | sentError => []
  | sentFixedFallback => []

/-- Whether one state may follow another. -/
def LeadsTo (a b : ReplyState) : Prop := b ∈ a.next

instance : DecidableRel LeadsTo := fun a b => inferInstanceAs (Decidable (b ∈ a.next))

/-- How far a state is on the way. -/
def rank : ReplyState → Nat
  | pending => 0
  | resolvingSchema => 1
  | serializing => 2
  | errorSerializing => 3
  | doubleFailure => 4
  | sentRaw => 5
  | sent => 5
  | sentError => 5
  | sentFixedFallback => 5

theorem LeadsTo.rank_lt {a b : ReplyState} (h : LeadsTo a b) : a.rank < b.rank := by
  revert h
  cases a <;> cases b <;> decide

theorem LeadsTo.isTerminal_eq_false {a b : ReplyState} (h : LeadsTo a b) :
    a.isTerminal = false := by
  cases a <;> first | rfl | cases h

theorem isTerminal_eq_false_of_mem_dropLast : ∀ {states : List ReplyState},
    states.IsChain LeadsTo → ∀ state ∈ states.dropLast, state.isTerminal = false
  | [], _, _, hmem => by cases hmem
  | [_], _, _, hmem => by cases hmem
  | a :: b :: rest, hpath, state, hmem => by
      obtain ⟨hstep, hrest⟩ := List.isChain_cons_cons.mp hpath
      rcases List.mem_cons.mp hmem with rfl | hmem
      · exact hstep.isTerminal_eq_false
      · exact isTerminal_eq_false_of_mem_dropLast hrest state hmem

/-- A path meets no state twice. -/
theorem nodup_of_isChain {states : List ReplyState} (h : states.IsChain LeadsTo) :
    states.Nodup := by
  have hranks : (states.map rank).IsChain (· < ·) :=
    List.isChain_map_of_isChain rank (fun _ _ hstep => hstep.rank_lt) h
  have hsorted : (states.map rank).Pairwise (· < ·) := List.isChain_iff_pairwise.mp hranks
  exact List.Nodup.of_map rank (hsorted.imp fun hlt => Nat.ne_of_lt hlt)

/-- Whether states lead from the first one to a terminal one. -/
structure IsWay (states : List ReplyState) : Prop where
  starts : states.head? = some .pending
  path : states.IsChain LeadsTo
  ends : ∃ last, states.getLast? = some last ∧ last.isTerminal = true
  /-- No state before the last one is terminal. -/
  endsOnce : ∀ state ∈ states.dropLast, state.isTerminal = false
  atMostOneError : states.count .errorSerializing ≤ 1

theorem isWay_append {states : List ReplyState} {last : ReplyState}
    (hstarts : states.head? = some .pending) (hpath : (states ++ [last]).IsChain LeadsTo)
    (hlast : last.isTerminal = true) : IsWay (states ++ [last]) where
  starts := by rw [List.head?_append, hstarts]; rfl
  path := hpath
  ends := ⟨last, List.getLast?_concat, hlast⟩
  endsOnce := isTerminal_eq_false_of_mem_dropLast hpath
  atMostOneError := List.nodup_iff_count_le_one.mp (nodup_of_isChain hpath) _

end ReplyState

/-! ## §2  Responses in order -/

namespace Pipeline

/-- Whether a response to a reply is in order, if `told` is the error that took the place of the
reply on the way. -/
structure Delivers (p : Pipeline) (reply : Reply) (told : Option HandlerError)
    (sent : SentResponse) : Prop where
  way : ReplyState.IsWay sent.states
  /-- An error is told of if and only if one is serialized. -/
  isSome_told : told.isSome = true ↔ ReplyState.errorSerializing ∈ sent.states
  sendable : ∀ value, sent.body ≠ .value value
  statusOfReply : sent.outcome = .sent ∨ sent.outcome = .sentRaw → sent.status = reply.status
  statusOfHandler : sent.outcome = .sentError →
    ∃ error, told = some error ∧ sent.status = (p.errorHandler error reply.status).status
  /-- A declared content type is kept as it is. -/
  contentType : sent.outcome = .sent ∨ sent.outcome = .sentRaw ∨ sent.outcome = .sentError →
    ∀ declared, reply.contentType = some declared → sent.contentType = declared
  fixedHead : sent.outcome = .sentFixedFallback →
    sent.status = 500 ∧ sent.contentType = MediaType.jsonUtf8
  /-- A fixed body says that an error could not be serialized, or that a payload could not be
  sent. -/
  fixedBody : sent.outcome = .sentFixedFallback →
    if ReplyState.doubleFailure ∈ sent.states then
      ∃ error inner, told = some error ∧
        sent.body = .text (doubleFailureBody inner error.message).text
    else ∃ value : Json, sent.body = .text (invalidPayloadBody value.typeName).text

/-- A payload goes out as it is, or it is still a value and a fixed body goes out. -/
theorem finish_cases (status : Nat) (contentType : String) (payload : Payload)
    (states : List ReplyState) (last : ReplyState) :
    ((∀ value, payload ≠ .value value) ∧ finish status contentType payload states last =
        { status, contentType, body := payload, states := states ++ [last] }) ∨
      ∃ value, payload = .value value ∧ finish status contentType payload states last =
        fallback (invalidPayloadBody value.typeName) states := by
  cases payload with
  | text text => exact Or.inl ⟨nofun, rfl⟩
  | binary bytes => exact Or.inl ⟨nofun, rfl⟩
  | value value => exact Or.inr ⟨value, rfl, rfl⟩

theorem generic_ne_value (value v : Json) : (Payload.generic value).2 ≠ .value v := by
  cases value <;> nofun

theorem outcome_append {sent : SentResponse} {states : List ReplyState} {last : ReplyState}
    (h : sent.states = states ++ [last]) : sent.outcome = last := by
  rw [SentResponse.outcome, h, List.getLast?_concat]
  rfl

theorem delivers_fallback (p : Pipeline) (reply : Reply) {told : Option HandlerError}
    {body : Json} {states : List ReplyState}
    (hway : ReplyState.IsWay (states ++ [.sentFixedFallback]))
    (htold : told.isSome = true ↔ ReplyState.errorSerializing ∈ states)
    (hbody : if ReplyState.doubleFailure ∈ states then
        ∃ error inner, told = some error ∧ body = doubleFailureBody inner error.message
      else ∃ value : Json, body = invalidPayloadBody value.typeName) :
    Delivers p reply told (fallback body states) := by
  have houtcome : (fallback body states).outcome = .sentFixedFallback := outcome_append rfl
  refine ⟨hway, ?_, nofun, ?_, ?_, ?_, fun _ => ⟨rfl, rfl⟩, fun _ => ?_⟩
  · simpa [fallback] using htold
  · simp [houtcome]
  · simp [houtcome]
  · simp [houtcome]
  · by_cases hdouble : ReplyState.doubleFailure ∈ states
    · rw [if_pos hdouble] at hbody
      rw [if_pos (by simpa [fallback] using hdouble)]
      obtain ⟨error, inner, htold, rfl⟩ := hbody
      exact ⟨error, inner, htold, rfl⟩
    · rw [if_neg hdouble] at hbody
      rw [if_neg (by simpa [fallback] using hdouble)]
      obtain ⟨value, rfl⟩ := hbody
      exact ⟨value, rfl⟩

/-! ## §3  A reply as it is -/

theorem delivers_finish (p : Pipeline) {reply : Reply} {contentType : String} {payload : Payload}
    {states : List ReplyState} {last : ReplyState}
    (hlast : last = .sent ∨ last = .sentRaw)
    (hstates : ReplyState.errorSerializing ∉ states ∧ ReplyState.doubleFailure ∉ states)
    (hway : ReplyState.IsWay (states ++ [last]))
    (hfallback : (∀ value, payload ≠ .value value) ∨
      ReplyState.IsWay (states ++ [.sentFixedFallback]))
    (hdeclared : ∀ declared, reply.contentType = some declared → contentType = declared) :
    Delivers p reply none (finish reply.status contentType payload states last) := by
  rcases finish_cases reply.status contentType payload states last with
    ⟨hsendable, heq⟩ | ⟨value, hvalue, heq⟩
  · rw [heq]
    have houtcome : (SentResponse.mk reply.status contentType payload (states ++ [last])).outcome =
        last := outcome_append rfl
    refine ⟨hway, ?_, hsendable, fun _ => rfl, ?_, fun _ => hdeclared, ?_, ?_⟩
    · rcases hlast with rfl | rfl <;> simp [hstates.1]
    · rw [houtcome]
      rcases hlast with rfl | rfl <;> nofun
    · rw [houtcome]
      rcases hlast with rfl | rfl <;> nofun
    · rw [houtcome]
      rcases hlast with rfl | rfl <;> nofun
  · rw [heq]
    refine delivers_fallback p reply ?_ ?_ ?_
    · exact hfallback.resolve_left fun hsendable => hsendable value hvalue
    · simp [hstates.1]
    · rw [if_neg hstates.2]
      exact ⟨value, rfl⟩

theorem declared_getD {contentType : Option String} {other declared : String}
    (h : contentType = some declared) : contentType.getD other = declared := by
  rw [h]
  rfl

/-- What an attempt sends is in order. -/
theorem delivers_attempt {p : Pipeline} {reply : Reply}
    {found : Except SerializeError (Option Serializer)} {sent : SentResponse}
    (h : p.attempt reply found = .ok sent) : Delivers p reply none sent := by
  unfold attempt at h
  cases hbody : reply.body with
  | error error =>
      simp only [hbody] at h
      cases h
  | value value =>
      simp only [hbody] at h
      cases hraw : p.replySerializer with
      | some raw =>
          simp only [hraw, Except.ok.injEq] at h
          rw [← h]
          exact delivers_finish p (Or.inr rfl) (by decide)
            (ReplyState.isWay_append rfl (by decide) rfl)
            (Or.inr (ReplyState.isWay_append rfl (by decide) rfl)) fun _ => declared_getD
      | none =>
          simp only [hraw] at h
          rcases found with e | _ | serializer
          · cases h
          · -- what is sent without a slot can always be sent
            simp only [Except.ok.injEq] at h
            rw [← h]
            exact delivers_finish p (Or.inl rfl) (by decide)
              (ReplyState.isWay_append rfl (by decide) rfl)
              (Or.inl (generic_ne_value value)) fun _ => declared_getD
          · cases hpayload : serializer value with
            | error e =>
                simp only [hpayload] at h
                cases h
            | ok payload =>
                simp only [hpayload, Except.ok.injEq] at h
                rw [← h]
                exact delivers_finish p (Or.inl rfl) (by decide)
                  (ReplyState.isWay_append rfl (by decide) rfl)
                  (Or.inr (ReplyState.isWay_append rfl (by decide) rfl)) fun _ => declared_getD

/-! ## §4  An error in place of a reply -/

theorem ended_cases {p : Pipeline} {reply : Reply}
    {found : Except SerializeError (Option Serializer)} {error : HandlerError}
    {states : List ReplyState} (h : p.attempt reply found = .error (error, states)) :
    states = [.pending] ∨ states = [.pending, .resolvingSchema] ∨
      states = [.pending, .resolvingSchema, .serializing] := by
  unfold attempt at h
  cases hbody : reply.body with
  | error error =>
      simp only [hbody, Except.error.injEq, Prod.mk.injEq] at h
      exact Or.inl h.2.symm
  | value value =>
      simp only [hbody] at h
      cases hraw : p.replySerializer with
      | some raw =>
          simp only [hraw] at h
          cases h
      | none =>
          simp only [hraw] at h
          rcases found with e | _ | serializer
          · simp only [Except.error.injEq, Prod.mk.injEq] at h
            exact Or.inr (Or.inl h.2.symm)
          · cases h
          · cases hpayload : serializer value with
            | error e =>
                simp only [hpayload, Except.error.injEq, Prod.mk.injEq] at h
                exact Or.inr (Or.inr h.2.symm)
            | ok payload =>
                simp only [hpayload] at h
                cases h

theorem isWay_error {states : List ReplyState}
    (h : states = [.pending] ∨ states = [.pending, .resolvingSchema] ∨
      states = [.pending, .resolvingSchema, .serializing]) :
    ReplyState.IsWay (states ++ [.errorSerializing] ++ [.sentError]) ∧
      ReplyState.IsWay (states ++ [.errorSerializing] ++ [.sentFixedFallback]) ∧
      ReplyState.IsWay (states ++ [.errorSerializing] ++ [.doubleFailure] ++ [.sentFixedFallback]) ∧
      ReplyState.doubleFailure ∉ states ++ [.errorSerializing] := by
  rcases h with rfl | rfl | rfl <;>
    exact ⟨ReplyState.isWay_append rfl (by decide) rfl,
      ReplyState.isWay_append rfl (by decide) rfl,
      ReplyState.isWay_append rfl (by decide) rfl, by decide⟩

theorem delivers_errorResponse {p : Pipeline} {reply : Reply}
    {first : Except SerializeError (Option Serializer)} {error : HandlerError}
    {states : List ReplyState} (h : p.attempt reply first = .error (error, states))
    (second : Except SerializeError (Option Serializer)) :
    Delivers p reply (some error)
      (p.errorResponse error reply.status reply.contentType states second) := by
  obtain ⟨hsent, hinvalid, hfailed, hdouble⟩ := isWay_error (ended_cases h)
  unfold errorResponse
  dsimp only
  cases p.errorPayloadBy second (p.errorHandler error reply.status).status
      (p.errorHandler error reply.status).body with
  | error inner =>
      dsimp only
      -- the error could not be serialized: the fixed body, and the state says so
      refine delivers_fallback p reply hfailed (by simp) ?_
      rw [if_pos (by simp)]
      exact ⟨error, inner.message, rfl, rfl⟩
  | ok payload =>
      dsimp only
      -- a payload that is no text or octets is not sent
      rcases finish_cases (p.errorHandler error reply.status).status
        (reply.contentType.getD MediaType.jsonUtf8) payload (states ++ [.errorSerializing])
        .sentError with ⟨hsendable, heq⟩ | ⟨value, -, heq⟩
      · rw [heq]
        have houtcome : (SentResponse.mk (p.errorHandler error reply.status).status
            (reply.contentType.getD MediaType.jsonUtf8) payload
            (states ++ [.errorSerializing] ++ [.sentError])).outcome = .sentError :=
          outcome_append rfl
        refine ⟨hsent, ?_, hsendable, ?_, fun _ => ⟨error, rfl, rfl⟩,
          fun _ _ => declared_getD, ?_, ?_⟩
        · simp
        · rw [houtcome]
          nofun
        · rw [houtcome]
          nofun
        · rw [houtcome]
          nofun
      · rw [heq]
        refine delivers_fallback p reply hinvalid (by simp) ?_
        rw [if_neg hdouble]
        exact ⟨value, rfl⟩

/-! ## §5  Who is told -/

end Pipeline

namespace Event

def tells : Event → Bool
  | observed _ _ => true
  | errorHandled _ _ => true
  | _ => false

end Event

namespace Pipeline

/-- Whether the lookups of a pipeline tell nobody of errors. -/
def IsQuiet (p : Pipeline) : Prop :=
  ∀ status contentType s, ((p.lookup status contentType).run.run s).2.events.filter Event.tells =
    s.events.filter Event.tells

/-- Whether one state is another, or the state after a lookup from it. -/
def Looks (p : Pipeline) (s s' : Serving) : Prop :=
  s' = s ∨ ∃ status contentType, s' = ((p.lookup status contentType).run.run s).2

def tellAny (p : Pipeline) (told : Option HandlerError) (replyStatus : Nat) (s : Serving) :
    Serving :=
  match told with
  | some error => p.tell error replyStatus s
  | none => s

def callsForAny (p : Pipeline) (told : Option HandlerError) (replyStatus : Nat) : List Event :=
  match told with
  | some error => p.callsFor error replyStatus
  | none => []

theorem looks_afterLookup (p : Pipeline) (status : Nat) (contentType : Option String)
    (s : Serving) : p.Looks s (p.afterLookup status contentType s) := by
  unfold afterLookup
  cases p.replySerializer with
  | some raw => exact Or.inl rfl
  | none => exact Or.inr ⟨status, contentType, rfl⟩

theorem looks_afterAttempt (p : Pipeline) (reply : Reply) (s : Serving) :
    p.Looks s (p.afterAttempt reply s) := by
  unfold afterAttempt
  cases reply.body with
  | error error => exact Or.inl rfl
  | value value => exact p.looks_afterLookup _ _ s

theorem IsQuiet.filter_looks {p : Pipeline} (h : p.IsQuiet) {s s' : Serving}
    (hlooks : p.Looks s s') :
    s'.events.filter Event.tells = s.events.filter Event.tells := by
  rcases hlooks with rfl | ⟨status, contentType, rfl⟩
  · rfl
  · exact h status contentType s

theorem filter_tells_callsFor (p : Pipeline) (error : HandlerError) (replyStatus : Nat) :
    (p.callsFor error replyStatus).filter Event.tells = p.callsFor error replyStatus := by
  refine List.filter_eq_self.mpr fun event hevent => ?_
  rcases List.mem_append.mp hevent with hevent | hevent
  · obtain ⟨o, -, rfl⟩ := List.mem_map.mp hevent
    rfl
  · rw [List.mem_singleton.mp hevent]
    rfl

theorem filter_tells_tellAny (p : Pipeline) (told : Option HandlerError) (replyStatus : Nat)
    (s : Serving) :
    (p.tellAny told replyStatus s).events.filter Event.tells =
      s.events.filter Event.tells ++ p.callsForAny told replyStatus := by
  cases told with
  | none => exact (List.append_nil _).symm
  | some error =>
      change (s.events ++ p.callsFor error replyStatus).filter Event.tells = _
      rw [List.filter_append, filter_tells_callsFor]
      rfl

/-- **Every reply is delivered**, whatever is bound and whatever the lookups do: the response is in
order, and between the lookups nothing is done but to tell of the error that took the place of
the reply, if one did.  Where lookups tell nobody of errors, each observer and the handler are
called for that error, in this order and once, and there are no other calls. -/
theorem send_delivers (p : Pipeline) (reply : Reply) (s : Serving) :
    ∃ told s₁, told = p.errorOf reply (p.found reply.status reply.contentType s) ∧
      Delivers p reply told ((p.send reply).run s).1 ∧ p.Looks s s₁ ∧
      p.Looks (p.tellAny told reply.status s₁) ((p.send reply).run s).2 ∧
      (p.IsQuiet → ((p.send reply).run s).2.events.filter Event.tells =
        s.events.filter Event.tells ++ p.callsForAny told reply.status) := by
  have hcalls : ∀ told s₁ s', p.Looks s s₁ → p.Looks (p.tellAny told reply.status s₁) s' →
      p.IsQuiet → s'.events.filter Event.tells =
        s.events.filter Event.tells ++ p.callsForAny told reply.status := by
    intro told s₁ s' hfirst hsecond hquiet
    rw [hquiet.filter_looks hsecond, filter_tells_tellAny, hquiet.filter_looks hfirst]
  have hfirst : p.Looks s (p.afterAttempt reply s) := p.looks_afterAttempt reply s
  rw [run_send]
  unfold errorOf
  cases h : p.attempt reply (p.found reply.status reply.contentType s) with
  | ok sent =>
      have hsecond : p.Looks (p.tellAny none reply.status (p.afterAttempt reply s))
          (p.afterAttempt reply s) := Or.inl rfl
      exact ⟨none, _, rfl, delivers_attempt h, hfirst, hsecond, hcalls _ _ _ hfirst hsecond⟩
  | error ended =>
      obtain ⟨error, states⟩ := ended
      have hsecond : p.Looks (p.tellAny (some error) reply.status (p.afterAttempt reply s))
          (p.afterError reply error (p.afterAttempt reply s)) := p.looks_afterLookup _ _ _
      exact ⟨some error, _, rfl, delivers_errorResponse h _, hfirst, hsecond,
        hcalls _ _ _ hfirst hsecond⟩

/-- A pipeline with two observers whose serializer fails for everything. -/
def alwaysFailing : Pipeline where
  method := "GET"
  url := "/a"
  replySerializer := none
  errorHandler := .default
  observers := [⟨"first"⟩, ⟨"second"⟩]
  lookup := fun _ _ => pure (some fun _ => .error (.told "broken"))

theorem send_delivers_alwaysFailing :
    alwaysFailing.IsQuiet ∧
      ∃ told s₁, told = alwaysFailing.errorOf { body := .value .null }
          (alwaysFailing.found 200 none { cache := {} }) ∧
        Delivers alwaysFailing { body := .value .null } told
          ((alwaysFailing.send { body := .value .null }).run { cache := {} }).1 ∧
        alwaysFailing.Looks { cache := {} } s₁ ∧
        alwaysFailing.Looks (alwaysFailing.tellAny told 200 s₁)
          ((alwaysFailing.send { body := .value .null }).run { cache := {} }).2 ∧
        ((alwaysFailing.send { body := .value .null }).run { cache := {} }).2.events.filter
            Event.tells = alwaysFailing.callsForAny told 200 ∧
        ((alwaysFailing.send { body := .value .null }).run { cache := {} }).1.states =
          [.pending, .resolvingSchema, .serializing, .errorSerializing, .doubleFailure,
            .sentFixedFallback] := by
  have hquiet : alwaysFailing.IsQuiet := fun _ _ _ => rfl
  obtain ⟨told, s₁, htold, hdelivers, hfirst, hsecond, hcalls⟩ :=
    send_delivers alwaysFailing { body := .value .null } { cache := {} }
  exact ⟨hquiet, told, s₁, htold, hdelivers, hfirst, hsecond, hcalls hquiet, rfl⟩

end Pipeline

namespace Engine

theorem tells_artifact (e : Engine) (id : RouteId) (r : Route) (schemas : Schema.Set)
    (version : Version) (slot : Response.Slot) (s : Serving) :
    ((e.artifact id r schemas version slot).run.run s).2.events.filter Event.tells =
      s.events.filter Event.tells := by
  rw [run_artifact]
  cases s.cache.served? (artifactKey id slot) version with
  | some serializer => rfl
  | none => simp [Event.tells]

/-- What an engine looks up for a reply tells nobody of errors: it compiles at most. -/
theorem isQuiet_pipeline (e : Engine) (id : RouteId) (r : Route) (p : Prepared) :
    (e.pipeline id r p).IsQuiet := by
  intro status contentType s
  have hstep : ((e.serializerFor id r p status contentType).run.run s).2.events.filter
      Event.tells = s.events.filter Event.tells := by
    unfold serializerFor
    cases p.responses.resolve? status contentType e.config.contentFallthrough with
    | none => rfl
    | some slot =>
        dsimp only
        rw [map_eq_pure_bind, Result.run_bind]
        have hartifact := tells_artifact e id r p.schemas p.version slot s
        rcases hrun : (e.artifact id r p.schemas p.version slot).run.run s with ⟨result, s'⟩
        rw [hrun] at hartifact
        cases result <;> exact hartifact
  exact hstep

end Engine

end ReplySchema

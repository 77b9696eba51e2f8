import ReplySchema.Proofs.Engine.Serving

/-! # What is sent, as a function of what was looked up

A reply looks for a serializer at most twice: once for its value, and once for the body
that stands for an error.  Once both lookups have come to something, what is sent depends
on the pipeline alone: `response` says how.  Beside the lookups, all that a reply does is
to tell an error to the observers and the handler (`tell`).

Main statements: `run_send`, which puts the two together, and `send_meets`, which says what
that means for the cache.
-/

set_option autoImplicit false

namespace ReplySchema

open Serving

/-! ## §1  What is sent -/

namespace Pipeline

/-- What a lookup comes to from a state. -/
def found (p : Pipeline) (status : Nat) (contentType : Option String) (s : Serving) :
    Except SerializeError (Option Serializer) :=
  ((p.lookup status contentType).run.run s).1

/-- The payload of the body that stands for an error, given what was looked up for it. -/
def errorPayloadBy (p : Pipeline) (found : Except SerializeError (Option Serializer))
    (status : Nat) (body : Json) : Except SerializeError Payload :=
  match p.replySerializer with
  | some raw => .ok (raw body status)
  | none =>
      match found with
      | .ok (some serializer) => serializer body
      | .ok none => .ok (Payload.generic body).2
      | .error inner => .error inner

/-- What is sent in place of an error that arose in the last of some states. -/
def errorResponse (p : Pipeline) (error : HandlerError) (replyStatus : Nat)
    (contentType : Option String) (states : List ReplyState)
    (found : Except SerializeError (Option Serializer)) : SentResponse :=
  let reply := p.errorHandler error replyStatus
  match p.errorPayloadBy found reply.status reply.body with
  | .ok payload =>
      finish reply.status (contentType.getD MediaType.jsonUtf8) payload
        (states ++ [.errorSerializing]) .sentError
  | .error inner =>
      fallback (doubleFailureBody inner.message error.message)
        (states ++ [.errorSerializing] ++ [.doubleFailure])

/-- What is sent for a reply as it is, or the error that takes its place and the states up to
there. -/
def attempt (p : Pipeline) (reply : Reply) (found : Except SerializeError (Option Serializer)) :
    Except (HandlerError × List ReplyState) SentResponse :=
  match reply.body with
  | .error error => .error (error, [.pending])
  | .value value =>
      match p.replySerializer with
      | some raw =>
          .ok (finish reply.status (reply.contentType.getD MediaType.jsonUtf8)
            (raw value reply.status) [.pending] .sentRaw)
      | none =>
          match found with
          | .error e =>
              .error (.ofSerialize e (some (p.mark reply.status)), [.pending, .resolvingSchema])
          | .ok none =>
              .ok (finish reply.status (reply.contentType.getD (Payload.generic value).1)
                (Payload.generic value).2 [.pending, .resolvingSchema] .sent)
          | .ok (some serializer) =>
              match serializer value with
              | .ok payload =>
                  .ok (finish reply.status (reply.contentType.getD MediaType.jsonUtf8) payload
                    [.pending, .resolvingSchema, .serializing] .sent)
              | .error e =>
                  .error (.ofSerialize e (some (p.mark reply.status)),
                    [.pending, .resolvingSchema, .serializing])

/-- What is sent for a reply, given what was looked up for its value and for its error. -/
def response (p : Pipeline) (reply : Reply)
    (first second : Except SerializeError (Option Serializer)) : SentResponse :=
  match p.attempt reply first with
  | .ok sent => sent
  | .error (error, states) =>
      p.errorResponse error reply.status reply.contentType states second

def errorOf (p : Pipeline) (reply : Reply) (first : Except SerializeError (Option Serializer)) :
    Option HandlerError :=
  match p.attempt reply first with
  | .ok _ => none
  | .error (error, _) => some error

/-! ## §2  What is done -/

def callsFor (p : Pipeline) (error : HandlerError) (replyStatus : Nat) : List Event :=
  p.observers.map (.observed · error) ++ [.errorHandled error replyStatus]

def tell (p : Pipeline) (error : HandlerError) (replyStatus : Nat) (s : Serving) : Serving :=
  { s with events := s.events ++ p.callsFor error replyStatus }

/-- The state after a lookup, which is not made if a serializer bypasses the schemas. -/
def afterLookup (p : Pipeline) (status : Nat) (contentType : Option String) (s : Serving) :
    Serving :=
  match p.replySerializer with
  | some _ => s
  | none => ((p.lookup status contentType).run.run s).2

def afterAttempt (p : Pipeline) (reply : Reply) (s : Serving) : Serving :=
  match reply.body with
  | .error _ => s
  | .value _ => p.afterLookup reply.status reply.contentType s

/-- The state after the lookup for the body that stands for an error. -/
def afterError (p : Pipeline) (reply : Reply) (error : HandlerError) (s : Serving) : Serving :=
  p.afterLookup (p.errorHandler error reply.status).status reply.contentType
    (p.tell error reply.status s)

/-- A composed step goes on from where its first part ended. -/
theorem run_then {α β : Type} {x : StateM Serving α} {f : α → StateM Serving β}
    {s s' : Serving} {a : α} (h : x.run s = (a, s')) : (x >>= f).run s = (f a).run s' := by
  rw [StateT.run_bind, h]
  rfl

theorem run_notes {α : Type} (event : α → Event) : ∀ (xs : List α) (s : Serving),
    (xs.forM fun a => note (event a)).run s =
      ((), { s with events := s.events ++ xs.map event })
  | [], s => by
      rw [List.map_nil, List.append_nil]
      rfl
  | x :: xs, s => by
      refine (run_notes event xs { s with events := s.events ++ [event x] }).trans ?_
      simp

theorem run_errorPayload (p : Pipeline) (status : Nat) (contentType : Option String)
    (body : Json) (s : Serving) :
    (p.errorPayload status contentType body).run.run s =
      (p.errorPayloadBy (p.found status contentType s) status body,
        p.afterLookup status contentType s) := by
  unfold errorPayload errorPayloadBy afterLookup found
  cases p.replySerializer with
  | some raw => rfl
  | none =>
      dsimp only
      rw [Result.run_bind]
      rcases (p.lookup status contentType).run.run s with ⟨found, s'⟩
      rcases found with e | _ | serializer <;> rfl

theorem run_sendError (p : Pipeline) (error : HandlerError) (replyStatus : Nat)
    (contentType : Option String) (states : List ReplyState) (s : Serving) :
    (p.sendError error replyStatus contentType states).run s =
      (p.errorResponse error replyStatus contentType states
          (p.found (p.errorHandler error replyStatus).status contentType
            (p.tell error replyStatus s)),
        p.afterLookup (p.errorHandler error replyStatus).status contentType
          (p.tell error replyStatus s)) := by
  have hobserved : (p.observers.forM fun o => note (.observed o error)).run s =
      ((), { s with events := s.events ++ p.observers.map (.observed · error) }) :=
    run_notes _ _ s
  have hhandled : (note (.errorHandled error replyStatus)).run
      { s with events := s.events ++ p.observers.map (.observed · error) } =
      ((), p.tell error replyStatus s) := by
    rw [tell, callsFor, ← List.append_assoc]
    rfl
  unfold sendError errorResponse
  refine (run_then hobserved).trans ?_
  refine (run_then hhandled).trans ?_
  refine (run_then (run_errorPayload p _ _ _ _)).trans ?_
  dsimp only
  cases p.errorPayloadBy _ _ _ <;> rfl

/-- **What a reply comes to** from a state: a response, and the state with what was done. -/
theorem run_send (p : Pipeline) (reply : Reply) (s : Serving) :
    (p.send reply).run s =
      match p.attempt reply (p.found reply.status reply.contentType s) with
      | .ok sent => (sent, p.afterAttempt reply s)
      | .error (error, states) =>
          (p.errorResponse error reply.status reply.contentType states
              (p.found (p.errorHandler error reply.status).status reply.contentType
                (p.tell error reply.status (p.afterAttempt reply s))),
            p.afterError reply error (p.afterAttempt reply s)) := by
  unfold send attempt afterAttempt
  cases reply.body with
  | error error => exact run_sendError p _ _ _ _ s
  | value value =>
      dsimp only
      unfold sendValue
      cases hraw : p.replySerializer with
      | some raw =>
          simp only [afterLookup, hraw]
          rfl
      | none =>
          simp only [afterLookup, hraw]
          rcases hrun : (p.lookup reply.status reply.contentType).run.run s with ⟨found, s'⟩
          have hfound : p.found reply.status reply.contentType s = found := by
            rw [Pipeline.found, hrun]
          refine (run_then hrun).trans ?_
          rw [hfound]
          rcases found with e | _ | serializer
          · exact run_sendError p _ _ _ _ s'
          · rfl
          · dsimp only
            cases serializer value with
            | ok payload => rfl
            | error e => exact run_sendError p _ _ _ _ s'

/-! ## §3  What is sent and the cache -/

section

variable {p : Pipeline} {P : Cache Serializer → Prop}
  {Q : Nat → Option String → Except SerializeError (Option Serializer) → Prop}

theorem afterLookup_keeps
    (h : ∀ status contentType, Meets P (p.lookup status contentType).run
      fun found c => P c ∧ Q status contentType found)
    (status : Nat) (contentType : Option String) {s : Serving} (hs : P s.cache) :
    P (p.afterLookup status contentType s).cache := by
  unfold afterLookup
  cases p.replySerializer with
  | some raw => exact hs
  | none => exact (h status contentType s hs).1

/-- A reply changes the cache through the lookups of serializers only, and what is sent is the
response to two of them. -/
theorem send_meets
    (h : ∀ status contentType, Meets P (p.lookup status contentType).run
      fun found c => P c ∧ Q status contentType found) (reply : Reply) :
    Meets P (p.send reply) fun sent c => P c ∧ ∃ status first second,
      Q reply.status reply.contentType first ∧ Q status reply.contentType second ∧
        sent = p.response reply first second := by
  intro s hs
  have hfound : ∀ status contentType s, P s.cache →
      Q status contentType (p.found status contentType s) :=
    fun status contentType s hs => (h status contentType s hs).2
  have hattempt : P (p.afterAttempt reply s).cache := by
    unfold afterAttempt
    cases reply.body with
    | error error => exact hs
    | value value => exact afterLookup_keeps h _ _ hs
  rw [run_send]
  cases hsent : p.attempt reply (p.found reply.status reply.contentType s) with
  | ok sent =>
      exact ⟨hattempt, reply.status, _, _, hfound _ _ s hs, hfound _ _ s hs,
        by rw [response, hsent]⟩
  | error ended =>
      obtain ⟨error, states⟩ := ended
      exact ⟨afterLookup_keeps h _ _ hattempt, _, _, _, hfound _ _ s hs,
        hfound _ _ (p.tell error reply.status (p.afterAttempt reply s)) hattempt,
        by rw [response, hsent]⟩

end

end Pipeline

end ReplySchema

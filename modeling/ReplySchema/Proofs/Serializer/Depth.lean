import ReplySchema.Proofs.Result
import ReplySchema.Serializer.Writer

/-! # Room to write in

Writing has a bound on its depth, and the same shape can be written with more or with less room
below it.  The room matters in one way only: a run that had enough of it comes to the same with
more (`write_succ`).  Of the plan only the table of targets and the rounding matter
(`write_congr`), so the shapes of one table can be compared across plans.
-/

set_option autoImplicit false

namespace ReplySchema.Serializer

/-! ## §1  Runs up to their depth -/

/-- Whether a run went too deep, or came to what another comes to. -/
def UpToDepth {α : Type} (x y : Except SerializeError α) : Prop :=
  x = .error .tooDeep ∨ x = y

namespace UpToDepth

variable {α β : Type} {x y : Except SerializeError α}

theorem refl (x : Except SerializeError α) : UpToDepth x x := Or.inr rfl

theorem tooDeep (y : Except SerializeError α) : UpToDepth (throw .tooDeep) y := Or.inl rfl

theorem bind (h : UpToDepth x y) {f g : α → Except SerializeError β}
    (hfg : ∀ a, UpToDepth (f a) (g a)) : UpToDepth (x >>= f) (y >>= g) := by
  rcases h with rfl | rfl
  · exact tooDeep _
  · cases x with
    | error e => exact refl _
    | ok a => exact hfg a

end UpToDepth

namespace Plan

/-! ## §2  More room -/

section

variable {write more : Node → Json → Except SerializeError Written}
variable (h : ∀ node v, UpToDepth (write node v) (more node v))
include h

theorem upToDepth_writeDeclared (members : List (String × Json))
    (properties : List (Property Node)) :
    UpToDepth (writeDeclared write members properties)
      (writeDeclared more members properties) := by
  induction properties with
  | nil => exact .refl _
  | cons p rest ih =>
      rw [writeDeclared, writeDeclared]
      cases Table.find? p.name members <|> p.default with
      | none => exact ih
      | some v => exact (h p.shape v).bind fun written => ih.bind fun _ => .refl _

theorem upToDepth_writeOthers (properties : List (Property Node))
    (patterns : List (Pattern × Node)) (others : Others Node) (members : List (String × Json)) :
    UpToDepth (writeOthers write properties patterns others members)
      (writeOthers more properties patterns others members) := by
  induction members with
  | nil => exact .refl _
  | cons m rest ih =>
      obtain ⟨name, v⟩ := m
      rw [writeOthers, writeOthers]
      split
      · exact ih
      · cases otherShape? patterns others name with
        | none => exact ih
        | some shape =>
            cases shape with
            | none => exact ih.bind fun _ => .refl _
            | some shape => exact (h shape v).bind fun written => ih.bind fun _ => .refl _

theorem upToDepth_writeObject (properties : List (Property Node)) (required : List String)
    (patterns : List (Pattern × Node)) (others : Others Node) (v : Json) :
    UpToDepth (writeObject write properties required patterns others v)
      (writeObject more properties required patterns others v) := by
  unfold writeObject
  cases missing? properties required v.members with
  | some name => exact .refl _
  | none =>
      refine (upToDepth_writeDeclared h v.members properties).bind fun _ => ?_
      exact (upToDepth_writeOthers h properties patterns others v.members).bind fun _ => .refl _

theorem upToDepth_writeItems (rest : Node) (front : List Node) (items : List Json) :
    UpToDepth (writeItems write rest front items) (writeItems more rest front items) := by
  induction items generalizing front with
  | nil => cases front <;> exact .refl _
  | cons x xs ih =>
      cases front with
      | nil =>
          rw [writeItems, writeItems]
          exact (h rest x).bind fun _ => (ih []).bind fun _ => .refl _
      | cons s front =>
          rw [writeItems, writeItems]
          exact (h s x).bind fun _ => (ih front).bind fun _ => .refl _

end

/-- **With more room a run comes to the same**, unless it had gone too deep. -/
theorem write_succ (plan : Plan) : ∀ (room : Nat) (node : Node) (v : Json),
    UpToDepth (plan.write room node v) (plan.write (room + 1) node v)
  | 0, _, _ => .tooDeep _
  | room + 1, node, v => by
      have ih := write_succ plan room
      rw [write.eq_def plan (room + 1), write.eq_def plan (room + 1 + 1)]
      cases node with
      | reference key =>
          dsimp only
          split
          · exact ih _ v
          · exact .refl _
      | object properties required patterns others =>
          exact upToDepth_writeObject ih properties required patterns others v
      | array front rest =>
          cases v with
          | array items => exact (upToDepth_writeItems ih rest front items).bind fun _ => .refl _
          | _ => exact .refl _
      | union branches =>
          dsimp only
          cases plan.choose? branches v with
          | some shape => exact ih shape v
          | none => exact .refl _
      | nullable inner =>
          dsimp only
          split
          · exact .refl _
          · exact ih inner v
      | _ => exact .refl _

/-! ## §3  Another root -/

variable {p q : Plan}

theorem looksLike_congr (htargets : p.targets = q.targets) :
    ∀ room, p.looksLike room = q.looksLike room
  | 0 => by
      funext node v
      rw [looksLike, looksLike]
  | room + 1 => by
      have ih := looksLike_congr htargets room
      funext node v
      rw [looksLike.eq_def p, looksLike.eq_def q]
      simp only [ih, htargets]

theorem choose?_congr (htargets : p.targets = q.targets) : p.choose? = q.choose? := by
  funext branches v
  unfold choose? accepts
  rw [looksLike_congr htargets]

/-- **A shape is written by the table of targets and the rounding.** -/
theorem write_congr (htargets : p.targets = q.targets) (hrounding : p.rounding = q.rounding) :
    ∀ room, p.write room = q.write room
  | 0 => by
      funext node v
      rw [write, write]
  | room + 1 => by
      have ih := write_congr htargets hrounding room
      funext node v
      rw [write.eq_def p, write.eq_def q]
      simp only [ih, htargets, hrounding, choose?_congr htargets]

end Plan

end ReplySchema.Serializer

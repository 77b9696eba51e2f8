import ReplySchema.Proofs.Result
import ReplySchema.Proofs.Serializer.Links

/-! # Linking a sketch makes what it is linked to

A step that changes a state *ensures* a postcondition under an invariant: if it comes to a
value, the invariant holds again, the state has only grown, and the postcondition holds of
the state at the end.  What was said of an earlier part stays true while later parts are
linked, because it is kept when the state grows.

Main statement: a sketch whose references each ensure what `R` says is linked to a shape
that it `Links` to (`ensures_link`).
-/

set_option autoImplicit false

namespace ReplySchema.Serializer

/-- An invariant of states and an order in which they grow. -/
structure Growth (σ : Type) where
  inv : σ → Prop
  le : σ → σ → Prop
  refl : ∀ s, le s s
  trans : ∀ {s t u}, le s t → le t u → le s u

namespace Growth

variable {σ ε α β : Type} (g : Growth σ)

/-- Whether a property is kept when the state grows. -/
def Keeps (Q : σ → Prop) : Prop := ∀ {s t}, g.le s t → Q s → Q t

/-- Whether a step that comes to a value keeps the invariant, lets the state grow, and ends with
the postcondition. -/
def Ensures (step : StateT σ (Except ε) α) (Q : σ → α → Prop) : Prop :=
  ∀ s a s', g.inv s → step.run s = .ok (a, s') → g.inv s' ∧ g.le s s' ∧ Q s' a

variable {g}

theorem ensures_pure {a : α} {Q : σ → α → Prop} (h : ∀ s, Q s a) :
    g.Ensures (pure a : StateT σ (Except ε) α) Q := by
  intro s b s' hs hrun
  cases hrun
  exact ⟨hs, g.refl s, h s⟩

theorem ensures_bind {x : StateT σ (Except ε) α} {f : α → StateT σ (Except ε) β}
    {R : σ → α → Prop} {Q : σ → β → Prop} (hx : g.Ensures x R)
    (hkeeps : ∀ a, g.Keeps fun s => R s a)
    (hf : ∀ a, g.Ensures (f a) fun s b => R s a → Q s b) : g.Ensures (x >>= f) Q := by
  intro s b s' hs hrun
  obtain ⟨⟨a, t⟩, hfirst, hrest⟩ := Result.bind_eq_ok.mp hrun
  obtain ⟨ht, hgrown, hR⟩ := hx s a t hs hfirst
  obtain ⟨hs', hgrown', hQ⟩ := hf a t b s' ht hrest
  exact ⟨hs', g.trans hgrown hgrown', hQ (hkeeps a hgrown' hR)⟩

theorem Ensures.mono {x : StateT σ (Except ε) α} {R Q : σ → α → Prop} (hx : g.Ensures x R)
    (h : ∀ s a, R s a → Q s a) : g.Ensures x Q := by
  intro s a s' hs hrun
  obtain ⟨hs', hgrown, hR⟩ := hx s a s' hs hrun
  exact ⟨hs', hgrown, h s' a hR⟩

end Growth

namespace Shape

open Growth

variable {σ ε ρ τ ρ' τ' : Type} {g : Growth σ} {R : σ → ρ → Shape ρ' τ' → Prop}
variable {test : τ → Option τ'} {onReference : ρ → StateT σ (Except ε) (Shape ρ' τ')}
variable (hkeeps : ∀ r s', g.Keeps fun s => R s r s')

/-- What is to be known of a part that is a reference. -/
def EnsuresReference (g : Growth σ) (R : σ → ρ → Shape ρ' τ' → Prop)
    (onReference : ρ → StateT σ (Except ε) (Shape ρ' τ')) (s : Shape ρ τ) : Prop :=
  ∀ r, s = reference r → g.Ensures (onReference r) fun st => R st r

include hkeeps

theorem keeps_mono {st st' : σ} (hle : g.le st st') : ∀ r s', R st r s' → R st' r s' :=
  fun r s' => hkeeps r s' hle

mutual
/-- **Linking a sketch makes what it is linked to.** -/
theorem ensures_link : ∀ s : Shape ρ τ, s.Every (EnsuresReference g R onReference) →
    g.Ensures (s.link onReference fun t => pure (test t)) fun st s' => Links (R st) test s s'
  | any, _ => ensures_pure fun _ => rfl
  | reference r, h => h.self r rfl
  | const _, _ => ensures_pure fun _ => rfl
  | null, _ => ensures_pure fun _ => rfl
  | boolean, _ => ensures_pure fun _ => rfl
  | integer, _ => ensures_pure fun _ => rfl
  | number, _ => ensures_pure fun _ => rfl
  | string, _ => ensures_pure fun _ => rfl
  | object properties required patterns others, h => by
      have hproperties := ensures_linkProperties properties fun p hp => h.part
        (List.mem_append_left _ (List.mem_append_left _ (List.mem_map_of_mem hp)))
      have hpatterns := ensures_linkPatterns patterns fun p hp => h.part
        (List.mem_append_left _ (List.mem_append_right _ (List.mem_map_of_mem hp)))
      have hothers := ensures_linkOthers others fun s hs => h.part (List.mem_append_right _ hs)
      rw [link]
      refine ensures_bind hproperties (fun _ _ _ hle => .mono (keeps_mono hkeeps hle) _) ?_
      intro properties'
      refine ensures_bind hpatterns (fun _ _ _ hle => .mono (keeps_mono hkeeps hle) _) ?_
      intro patterns'
      refine ensures_bind hothers (fun _ _ _ hle => .mono (keeps_mono hkeeps hle) _) ?_
      intro others'
      exact ensures_pure fun _ hothers hpatterns hproperties =>
        ⟨properties', patterns', others', rfl, hproperties, hpatterns, hothers⟩
  | array front rest, h => by
      have hfront := ensures_linkList front fun s hs => h.part (List.mem_append_left _ hs)
      have hrest := ensures_link rest (h.part (List.mem_append_right _ List.mem_cons_self))
      rw [link]
      refine ensures_bind hfront (fun _ _ _ hle => .mono (keeps_mono hkeeps hle) _) ?_
      intro front'
      refine ensures_bind hrest (fun _ _ _ hle => .mono (keeps_mono hkeeps hle) _) ?_
      intro rest'
      exact ensures_pure fun _ hrest hfront => ⟨front', rest', rfl, hfront, hrest⟩
  | union branches, h => by
      have hbranches := ensures_linkBranches branches fun b hb =>
        h.part (List.mem_map_of_mem hb)
      rw [link]
      refine ensures_bind hbranches (fun _ _ _ hle => .mono (keeps_mono hkeeps hle) _) ?_
      intro branches'
      exact ensures_pure fun _ hbranches => ⟨branches', rfl, hbranches⟩
  | nullable inner, h => by
      have hinner := ensures_link inner (h.part List.mem_cons_self)
      rw [link]
      refine ensures_bind hinner (fun _ _ _ hle => .mono (keeps_mono hkeeps hle) _) ?_
      intro inner'
      exact ensures_pure fun _ hinner => ⟨inner', rfl, hinner⟩

theorem ensures_linkProperties : ∀ ps : List (Property (Shape ρ τ)),
    (∀ p ∈ ps, p.shape.Every (EnsuresReference g R onReference)) →
    g.Ensures (linkProperties onReference (fun t => pure (test t)) ps)
      fun st ps' => LinksProperties (R st) test ps ps'
  | [], _ => ensures_pure fun _ => rfl
  | ⟨name, default, shape⟩ :: more, h => by
      have hshape := ensures_link shape (h _ List.mem_cons_self)
      have hmore := ensures_linkProperties more fun p hp => h p (List.mem_cons_of_mem _ hp)
      rw [linkProperties]
      refine ensures_bind hshape (fun _ _ _ hle => .mono (keeps_mono hkeeps hle) _) ?_
      intro shape'
      refine ensures_bind hmore (fun _ _ _ hle => .mono (keeps_mono hkeeps hle) _) ?_
      intro more'
      exact ensures_pure fun _ hmore hshape => ⟨shape', more', rfl, hshape, hmore⟩

theorem ensures_linkPatterns : ∀ ps : List (Pattern × Shape ρ τ),
    (∀ p ∈ ps, p.2.Every (EnsuresReference g R onReference)) →
    g.Ensures (linkPatterns onReference (fun t => pure (test t)) ps)
      fun st ps' => LinksPatterns (R st) test ps ps'
  | [], _ => ensures_pure fun _ => rfl
  | (pattern, shape) :: more, h => by
      have hshape := ensures_link shape (h _ List.mem_cons_self)
      have hmore := ensures_linkPatterns more fun p hp => h p (List.mem_cons_of_mem _ hp)
      rw [linkPatterns]
      refine ensures_bind hshape (fun _ _ _ hle => .mono (keeps_mono hkeeps hle) _) ?_
      intro shape'
      refine ensures_bind hmore (fun _ _ _ hle => .mono (keeps_mono hkeeps hle) _) ?_
      intro more'
      exact ensures_pure fun _ hmore hshape => ⟨shape', more', rfl, hshape, hmore⟩

theorem ensures_linkOthers : ∀ o : Others (Shape ρ τ),
    (∀ s ∈ o.shapes, s.Every (EnsuresReference g R onReference)) →
    g.Ensures (linkOthers onReference (fun t => pure (test t)) o)
      fun st o' => LinksOthers (R st) test o o'
  | .dropped, _ => ensures_pure fun _ => rfl
  | .plain, _ => ensures_pure fun _ => rfl
  | .shaped shape, h => by
      have hshape := ensures_link shape (h shape List.mem_cons_self)
      rw [linkOthers]
      refine ensures_bind hshape (fun _ _ _ hle => .mono (keeps_mono hkeeps hle) _) ?_
      intro shape'
      exact ensures_pure fun _ hshape => ⟨shape', rfl, hshape⟩

theorem ensures_linkList : ∀ ss : List (Shape ρ τ),
    (∀ s ∈ ss, s.Every (EnsuresReference g R onReference)) →
    g.Ensures (linkList onReference (fun t => pure (test t)) ss)
      fun st ss' => LinksList (R st) test ss ss'
  | [], _ => ensures_pure fun _ => rfl
  | shape :: more, h => by
      have hshape := ensures_link shape (h _ List.mem_cons_self)
      have hmore := ensures_linkList more fun s hs => h s (List.mem_cons_of_mem _ hs)
      rw [linkList]
      refine ensures_bind hshape (fun _ _ _ hle => .mono (keeps_mono hkeeps hle) _) ?_
      intro shape'
      refine ensures_bind hmore (fun _ _ _ hle => .mono (keeps_mono hkeeps hle) _) ?_
      intro more'
      exact ensures_pure fun _ hmore hshape => ⟨shape', more', rfl, hshape, hmore⟩

theorem ensures_linkBranches : ∀ bs : List (Branch τ (Shape ρ τ)),
    (∀ b ∈ bs, b.shape.Every (EnsuresReference g R onReference)) →
    g.Ensures (linkBranches onReference (fun t => pure (test t)) bs)
      fun st bs' => LinksBranches (R st) test bs bs'
  | [], _ => ensures_pure fun _ => rfl
  | ⟨given, shape⟩ :: more, h => by
      have hshape := ensures_link shape (h _ List.mem_cons_self)
      have hmore := ensures_linkBranches more fun b hb => h b (List.mem_cons_of_mem _ hb)
      have hbehind : ∀ shape', g.Ensures (do
          let more' ← linkBranches onReference (fun t => pure (test t)) more
          return ⟨given.bind test, shape'⟩ :: more')
          fun st bs' => Links (R st) test shape shape' →
            LinksBranches (R st) test (⟨given, shape⟩ :: more) bs' := by
        intro shape'
        refine ensures_bind hmore (fun _ _ _ hle => .mono (keeps_mono hkeeps hle) _) ?_
        intro more'
        exact ensures_pure fun _ hmore hshape => ⟨shape', more', rfl, hshape, hmore⟩
      rw [linkBranches]
      refine ensures_bind hshape (fun _ _ _ hle => .mono (keeps_mono hkeeps hle) _) ?_
      intro shape'
      cases given with
      | none => exact hbehind shape'
      | some t => exact hbehind shape'
end

end Shape

end ReplySchema.Serializer

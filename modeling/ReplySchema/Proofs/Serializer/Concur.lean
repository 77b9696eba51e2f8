import ReplySchema.Proofs.Serializer.Links

/-! # Linking that comes to a value

Two steps *concur* if they come to the same value, and to the same state, from every state.  So a
step that concurs with itself always comes to a value.  Linking a sketch in two ways concurs if
that is so wherever the sketch has a reference or a test (`concur_link`).
-/

set_option autoImplicit false

namespace ReplySchema.Serializer

/-! ## §1  Steps -/

section

variable {σ ε α β : Type}

/-- Whether two steps come to the same value and the same state, wherever they start. -/
def Concur (x y : StateT σ (Except ε) α) : Prop := ∀ s, ∃ v, x.run s = .ok v ∧ y.run s = .ok v

theorem concur_pure (a : α) : Concur (pure a : StateT σ (Except ε) α) (pure a) :=
  fun s => ⟨(a, s), rfl, rfl⟩

theorem concur_get : Concur (get : StateT σ (Except ε) σ) get := fun s => ⟨(s, s), rfl, rfl⟩

theorem concur_modify (f : σ → σ) : Concur (modify f : StateT σ (Except ε) PUnit) (modify f) :=
  fun s => ⟨(⟨⟩, f s), rfl, rfl⟩

theorem concur_lift {a : α} {f g : α → StateT σ (Except ε) β} (h : Concur (f a) (g a)) :
    Concur ((liftM (.ok a : Except ε α) : StateT σ (Except ε) α) >>= f)
      ((liftM (.ok a : Except ε α) : StateT σ (Except ε) α) >>= g) :=
  h

theorem concur_bind {x y : StateT σ (Except ε) α} {f g : α → StateT σ (Except ε) β}
    (h : Concur x y) (hf : ∀ a, Concur (f a) (g a)) : Concur (x >>= f) (y >>= g) := by
  intro s
  obtain ⟨⟨a, t⟩, hx, hy⟩ := h s
  obtain ⟨v, hfa, hga⟩ := hf a t
  refine ⟨v, ?_, ?_⟩
  · rw [StateT.run_bind, hx]
    exact hfa
  · rw [StateT.run_bind, hy]
    exact hga

end

/-! ## §2  Sketches -/

namespace Shape

variable {σ ε ρ τ ρ' τ' : Type}

section
variable (onReference onReference' : ρ → StateT σ (Except ε) (Shape ρ' τ'))
variable (onTest onTest' : τ → StateT σ (Except ε) (Option τ'))

/-- Whether two ways of linking concur at a shape, if it is a reference, and at its tests. -/
structure ConcurAt (s : Shape ρ τ) : Prop where
  reference : ∀ r, s = reference r → Concur (onReference r) (onReference' r)
  tests : ∀ branches, s = union branches → ∀ b ∈ branches, ∀ t, b.test = some t →
    Concur (onTest t) (onTest' t)

end

variable {onReference onReference' : ρ → StateT σ (Except ε) (Shape ρ' τ')}
variable {onTest onTest' : τ → StateT σ (Except ε) (Option τ')}

mutual
/-- **Two ways of linking concur if they do so at the references and the tests.** -/
theorem concur_link : ∀ s : Shape ρ τ,
    s.Every (ConcurAt onReference onReference' onTest onTest') →
    Concur (s.link onReference onTest) (s.link onReference' onTest')
  | any, _ => concur_pure _
  | reference r, h => h.self.reference r rfl
  | const _, _ => concur_pure _
  | null, _ => concur_pure _
  | boolean, _ => concur_pure _
  | integer, _ => concur_pure _
  | number, _ => concur_pure _
  | string, _ => concur_pure _
  | object properties required patterns others, h => by
      have hproperties := concur_linkProperties properties fun p hp => h.part
        (List.mem_append_left _ (List.mem_append_left _ (List.mem_map_of_mem hp)))
      have hpatterns := concur_linkPatterns patterns fun p hp => h.part
        (List.mem_append_left _ (List.mem_append_right _ (List.mem_map_of_mem hp)))
      have hothers := concur_linkOthers others fun s hs => h.part (List.mem_append_right _ hs)
      rw [link, link]
      refine concur_bind hproperties fun properties' => ?_
      refine concur_bind hpatterns fun patterns' => ?_
      exact concur_bind hothers fun others' => concur_pure _
  | array front rest, h => by
      have hfront := concur_linkList front fun s hs => h.part (List.mem_append_left _ hs)
      have hrest := concur_link rest (h.part (List.mem_append_right _ List.mem_cons_self))
      rw [link, link]
      refine concur_bind hfront fun front' => ?_
      exact concur_bind hrest fun rest' => concur_pure _
  | union branches, h => by
      have hbranches := concur_linkBranches branches
        (fun b hb => h.part (List.mem_map_of_mem hb)) (h.self.tests branches rfl)
      rw [link, link]
      exact concur_bind hbranches fun branches' => concur_pure _
  | nullable inner, h => by
      have hinner := concur_link inner (h.part List.mem_cons_self)
      rw [link, link]
      exact concur_bind hinner fun inner' => concur_pure _

theorem concur_linkProperties : ∀ ps : List (Property (Shape ρ τ)),
    (∀ p ∈ ps, p.shape.Every (ConcurAt onReference onReference' onTest onTest')) →
    Concur (linkProperties onReference onTest ps) (linkProperties onReference' onTest' ps)
  | [], _ => concur_pure _
  | ⟨name, default, shape⟩ :: more, h => by
      have hshape := concur_link shape (h _ List.mem_cons_self)
      have hmore := concur_linkProperties more fun p hp => h p (List.mem_cons_of_mem _ hp)
      rw [linkProperties, linkProperties]
      refine concur_bind hshape fun shape' => ?_
      exact concur_bind hmore fun more' => concur_pure _

theorem concur_linkPatterns : ∀ ps : List (Pattern × Shape ρ τ),
    (∀ p ∈ ps, p.2.Every (ConcurAt onReference onReference' onTest onTest')) →
    Concur (linkPatterns onReference onTest ps) (linkPatterns onReference' onTest' ps)
  | [], _ => concur_pure _
  | (pattern, shape) :: more, h => by
      have hshape := concur_link shape (h _ List.mem_cons_self)
      have hmore := concur_linkPatterns more fun p hp => h p (List.mem_cons_of_mem _ hp)
      rw [linkPatterns, linkPatterns]
      refine concur_bind hshape fun shape' => ?_
      exact concur_bind hmore fun more' => concur_pure _

theorem concur_linkOthers : ∀ o : Others (Shape ρ τ),
    (∀ s ∈ o.shapes, s.Every (ConcurAt onReference onReference' onTest onTest')) →
    Concur (linkOthers onReference onTest o) (linkOthers onReference' onTest' o)
  | .dropped, _ => concur_pure _
  | .plain, _ => concur_pure _
  | .shaped shape, h => by
      have hshape := concur_link shape (h shape List.mem_cons_self)
      rw [linkOthers, linkOthers]
      exact concur_bind hshape fun shape' => concur_pure _

theorem concur_linkList : ∀ ss : List (Shape ρ τ),
    (∀ s ∈ ss, s.Every (ConcurAt onReference onReference' onTest onTest')) →
    Concur (linkList onReference onTest ss) (linkList onReference' onTest' ss)
  | [], _ => concur_pure _
  | shape :: more, h => by
      have hshape := concur_link shape (h _ List.mem_cons_self)
      have hmore := concur_linkList more fun s hs => h s (List.mem_cons_of_mem _ hs)
      rw [linkList, linkList]
      refine concur_bind hshape fun shape' => ?_
      exact concur_bind hmore fun more' => concur_pure _

theorem concur_linkBranches : ∀ bs : List (Branch τ (Shape ρ τ)),
    (∀ b ∈ bs, b.shape.Every (ConcurAt onReference onReference' onTest onTest')) →
    (∀ b ∈ bs, ∀ t, b.test = some t → Concur (onTest t) (onTest' t)) →
    Concur (linkBranches onReference onTest bs) (linkBranches onReference' onTest' bs)
  | [], _, _ => concur_pure _
  | ⟨given, shape⟩ :: more, h, htests => by
      have hshape := concur_link shape (h _ List.mem_cons_self)
      have hmore := concur_linkBranches more (fun b hb => h b (List.mem_cons_of_mem _ hb))
        fun b hb => htests b (List.mem_cons_of_mem _ hb)
      rw [linkBranches, linkBranches]
      refine concur_bind hshape fun shape' => ?_
      cases given with
      | none =>
          refine concur_bind (concur_pure none) fun test' => ?_
          exact concur_bind hmore fun more' => concur_pure _
      | some t =>
          refine concur_bind (htests _ List.mem_cons_self t rfl) fun test' => ?_
          exact concur_bind hmore fun more' => concur_pure _
end

end Shape

end ReplySchema.Serializer

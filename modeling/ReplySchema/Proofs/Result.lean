import Mathlib.Data.List.Forall2

/-! # Results that are a value

A step of a reader or a builder is a result of type `Except`.  These lemmas take apart
a composed step that came to a value or to an error, so that no proof has to open `bind` again.
-/

set_option autoImplicit false

namespace ReplySchema.Result

variable {ε ε' α β : Type}

theorem bind_eq_ok {x : Except ε α} {f : α → Except ε β} {b : β} :
    (x >>= f) = .ok b ↔ ∃ a, x = .ok a ∧ f a = .ok b := by
  cases x with
  | error e => simp [bind, Except.bind]
  | ok a => simp [bind, Except.bind]

theorem pure_eq_ok {a b : α} : (pure a : Except ε α) = .ok b ↔ a = b := by
  simp [pure, Except.pure]

theorem throw_ne_ok {e : ε} {a : α} : (throw e : Except ε α) ≠ .ok a := by
  simp [throw, throwThe, MonadExceptOf.throw]

theorem map_eq_ok {x : Except ε α} {f : α → β} {b : β} :
    x.map f = .ok b ↔ ∃ a, x = .ok a ∧ f a = b := by
  cases x with
  | error e => simp [Except.map]
  | ok a => simp [Except.map]

theorem mapError_eq_ok {x : Except ε α} {f : ε → ε'} {a : α} :
    x.mapError f = .ok a ↔ x = .ok a := by
  cases x with
  | error e =>
      constructor
      · intro h
        cases h
      · intro h
        cases h
  | ok b =>
      constructor
      · intro h
        cases h
        rfl
      · intro h
        cases h
        rfl

theorem bind_eq_error {x : Except ε α} {f : α → Except ε β} {e : ε} :
    (x >>= f) = .error e ↔ x = .error e ∨ ∃ a, x = .ok a ∧ f a = .error e := by
  cases x with
  | error e' => simp [bind, Except.bind]
  | ok a => simp [bind, Except.bind]

theorem map_eq_error {x : Except ε α} {f : α → β} {e : ε} :
    x.map f = .error e ↔ x = .error e := by
  cases x with
  | error e' => simp [Except.map]
  | ok a => simp [Except.map]

theorem toOption_eq_some {x : Except ε α} {a : α} : x.toOption = some a ↔ x = .ok a := by
  cases x with
  | error e => simp [Except.toOption]
  | ok b => simp [Except.toOption]

theorem eq_some_of_orElse {x y : Option α} {a : α} (h : (x <|> y) = some a) :
    x = some a ∨ y = some a := by
  cases x with
  | none => exact Or.inr h
  | some b => exact Or.inl h

theorem mem_of_mapM_eq_ok {f : α → Except ε β} :
    ∀ {xs : List α} {ys : List β}, xs.mapM f = .ok ys → ∀ y ∈ ys, ∃ x ∈ xs, f x = .ok y
  | [], ys, h, y, hy => by
      rw [List.mapM_nil, pure_eq_ok] at h
      rw [← h] at hy
      cases hy
  | x :: xs, ys, h, y, hy => by
      rw [List.mapM_cons, bind_eq_ok] at h
      obtain ⟨first, hfirst, h⟩ := h
      obtain ⟨more, hmore, h⟩ := bind_eq_ok.mp h
      rw [pure_eq_ok] at h
      rw [← h] at hy
      rcases List.mem_cons.mp hy with rfl | hy
      · exact ⟨x, List.mem_cons_self, hfirst⟩
      · obtain ⟨z, hz, heq⟩ := mem_of_mapM_eq_ok hmore y hy
        exact ⟨z, List.mem_cons_of_mem _ hz, heq⟩

theorem mem_mapM_of_mem {f : α → Except ε β} {x : α} {y : β} :
    ∀ {xs : List α} {ys : List β}, xs.mapM f = .ok ys → x ∈ xs → f x = .ok y → y ∈ ys
  | z :: xs, ys, h, hx, hy => by
      rw [List.mapM_cons, bind_eq_ok] at h
      obtain ⟨first, hfirst, h⟩ := h
      obtain ⟨more, hmore, h⟩ := bind_eq_ok.mp h
      rw [pure_eq_ok] at h
      subst h
      rcases List.mem_cons.mp hx with rfl | hx
      · rw [hfirst] at hy
        cases hy
        exact List.mem_cons_self
      · exact List.mem_cons_of_mem _ (mem_mapM_of_mem hmore hx hy)

theorem forall₂_of_mapM_eq_ok {f : α → Except ε β} :
    ∀ {xs : List α} {ys : List β}, xs.mapM f = .ok ys →
      List.Forall₂ (fun x y => f x = .ok y) xs ys
  | [], ys, h => by
      rw [List.mapM_nil, pure_eq_ok] at h
      exact h ▸ .nil
  | x :: xs, ys, h => by
      rw [List.mapM_cons, bind_eq_ok] at h
      obtain ⟨first, hfirst, h⟩ := h
      obtain ⟨more, hmore, h⟩ := bind_eq_ok.mp h
      rw [pure_eq_ok] at h
      exact h ▸ .cons hfirst (forall₂_of_mapM_eq_ok hmore)

theorem exists_of_mapM_eq_mapM {f g : α → Except ε β} :
    ∀ {xs : List α} {ys : List β}, xs.mapM f = .ok ys → xs.mapM g = .ok ys →
      ∀ x ∈ xs, ∃ y, f x = .ok y ∧ g x = .ok y
  | x :: xs, ys, hf, hg, z, hz => by
      rw [List.mapM_cons, bind_eq_ok] at hf hg
      obtain ⟨first, hfirst, hf⟩ := hf
      obtain ⟨more, hmore, hf⟩ := bind_eq_ok.mp hf
      obtain ⟨first', hfirst', hg⟩ := hg
      obtain ⟨more', hmore', hg⟩ := bind_eq_ok.mp hg
      rw [pure_eq_ok] at hf hg
      obtain ⟨rfl, rfl⟩ := List.cons.inj (hf.trans hg.symm)
      rcases List.mem_cons.mp hz with rfl | hz
      · exact ⟨first, hfirst, hfirst'⟩
      · exact exists_of_mapM_eq_mapM hmore hmore' z hz

theorem mem_of_mapM_eq_some {f : α → Option β} : ∀ {xs : List α} {ys : List β},
    xs.mapM f = some ys → ∀ y ∈ ys, ∃ x ∈ xs, f x = some y
  | [], ys, h, y, hy => by
      cases h
      cases hy
  | x :: xs, ys, h, y, hy => by
      rw [List.mapM_cons] at h
      obtain ⟨first, hfirst, h⟩ := Option.bind_eq_some_iff.mp h
      obtain ⟨more, hmore, h⟩ := Option.bind_eq_some_iff.mp h
      cases h
      rcases List.mem_cons.mp hy with rfl | hy
      · exact ⟨x, List.mem_cons_self, hfirst⟩
      · obtain ⟨z, hz, heq⟩ := mem_of_mapM_eq_some hmore y hy
        exact ⟨z, List.mem_cons_of_mem _ hz, heq⟩

theorem exists_of_mapM_eq_ok {f : α → Except ε β} :
    ∀ {xs : List α} {ys : List β}, xs.mapM f = .ok ys → ∀ x ∈ xs, ∃ y, f x = .ok y
  | x :: xs, ys, h, z, hz => by
      rw [List.mapM_cons, bind_eq_ok] at h
      obtain ⟨first, hfirst, h⟩ := h
      obtain ⟨more, hmore, -⟩ := bind_eq_ok.mp h
      rcases List.mem_cons.mp hz with rfl | hz
      · exact ⟨first, hfirst⟩
      · exact exists_of_mapM_eq_ok hmore z hz

theorem exists_mapM_eq_ok {f : α → Except ε β} :
    ∀ {xs : List α}, (∀ x ∈ xs, ∃ y, f x = .ok y) → ∃ ys, xs.mapM f = .ok ys
  | [], _ => ⟨[], by rw [List.mapM_nil, pure_eq_ok]⟩
  | x :: xs, h => by
      obtain ⟨first, hfirst⟩ := h x List.mem_cons_self
      obtain ⟨more, hmore⟩ := exists_mapM_eq_ok fun y hy => h y (List.mem_cons_of_mem _ hy)
      exact ⟨first :: more, by rw [List.mapM_cons, hfirst, hmore]; rfl⟩

theorem mapM_congr {f g : α → Except ε β} :
    ∀ {xs : List α}, (∀ x ∈ xs, f x = g x) → xs.mapM f = xs.mapM g
  | [], _ => by rw [List.mapM_nil, List.mapM_nil]
  | x :: xs, h => by
      rw [List.mapM_cons, List.mapM_cons, h x List.mem_cons_self,
        mapM_congr fun y hy => h y (List.mem_cons_of_mem _ hy)]

theorem forM_eq_ok {f : α → Except ε Unit} :
    ∀ {xs : List α}, xs.forM f = .ok () → ∀ x ∈ xs, f x = .ok ()
  | x :: xs, h, y, hy => by
      obtain ⟨first, hfirst, hrest⟩ := bind_eq_ok.mp h
      rcases List.mem_cons.mp hy with rfl | hy
      · exact hfirst
      · exact forM_eq_ok hrest y hy

/-- A list of steps ends at the first that comes to an error. -/
theorem exists_of_mapM_eq_error {f : α → Except ε β} {e : ε} :
    ∀ {xs : List α}, xs.mapM f = .error e → ∃ front x rest, xs = front ++ x :: rest ∧
      (∀ y ∈ front, ∃ b, f y = .ok b) ∧ f x = .error e
  | [], h => by
      rw [List.mapM_nil] at h
      cases h
  | x :: xs, h => by
      rw [List.mapM_cons] at h
      cases hfirst : f x with
      | error e' =>
          rw [hfirst] at h
          cases h
          exact ⟨[], x, xs, rfl, nofun, hfirst⟩
      | ok first =>
          rw [hfirst] at h
          cases hmore : xs.mapM f with
          | ok more =>
              rw [hmore] at h
              cases h
          | error e' =>
              rw [hmore] at h
              cases h
              obtain ⟨front, y, rest, rfl, hfront, hy⟩ := exists_of_mapM_eq_error hmore
              refine ⟨x :: front, y, rest, rfl, fun z hz => ?_, hy⟩
              rcases List.mem_cons.mp hz with rfl | hz
              · exact ⟨first, hfirst⟩
              · exact hfront z hz

theorem foldlM_eq_ok {f : β → α → Except ε β} (P : β → Prop) :
    ∀ {xs : List α} {b c : β}, xs.foldlM f b = .ok c → P b →
      (∀ x ∈ xs, ∀ b c, f b x = .ok c → P b → P c) → P c
  | [], b, c, h, hb, _ => by
      rw [List.foldlM_nil, pure_eq_ok] at h
      exact h ▸ hb
  | x :: xs, b, c, h, hb, hstep => by
      rw [List.foldlM_cons, bind_eq_ok] at h
      obtain ⟨next, hnext, h⟩ := h
      exact foldlM_eq_ok P h (hstep x List.mem_cons_self b next hnext hb)
        fun y hy => hstep y (List.mem_cons_of_mem _ hy)

/-- A left fold comes to a value if each step does, and what the steps keep holds of it. -/
theorem exists_foldlM_eq_ok {f : β → α → Except ε β} (P : β → Prop) :
    ∀ {xs : List α} {b : β}, P b → (∀ x ∈ xs, ∀ b, P b → ∃ c, f b x = .ok c ∧ P c) →
      ∃ c, xs.foldlM f b = .ok c ∧ P c
  | [], b, hb, _ => ⟨b, by rw [List.foldlM_nil, pure_eq_ok], hb⟩
  | x :: xs, b, hb, hstep => by
      obtain ⟨next, hnext, hP⟩ := hstep x List.mem_cons_self b hb
      obtain ⟨c, hc, hPc⟩ := exists_foldlM_eq_ok P hP fun y hy =>
        hstep y (List.mem_cons_of_mem _ hy)
      exact ⟨c, by rw [List.foldlM_cons, bind_eq_ok]; exact ⟨next, hnext, hc⟩, hPc⟩

/-- A step of a failing program with a state, behind another one. -/
theorem run_bind {s : Type} {ε α β : Type} (x : ExceptT ε (StateM s) α)
    (f : α → ExceptT ε (StateM s) β) (state : s) :
    (x >>= f).run.run state = match x.run.run state with
      | (.ok a, next) => (f a).run.run next
      | (.error e, next) => (.error e, next) := by
  have hrun : (x >>= f).run.run state =
      (ExceptT.bindCont f (x.run.run state).1).run (x.run.run state).2 := rfl
  rw [hrun]
  rcases x.run.run state with ⟨result, next⟩
  cases result <;> rfl

/-! ## Ways to fail -/

/-- Whether a result is a value or an error of a kind. -/
def FailsOnly (E : ε → Prop) (x : Except ε α) : Prop := ∀ e, x = .error e → E e

variable {E : ε → Prop}

theorem failsOnly_pure (a : α) : FailsOnly E (pure a : Except ε α) := fun _ h => by cases h

theorem FailsOnly.bind {x : Except ε α} {f : α → Except ε β} (h : FailsOnly E x)
    (hf : ∀ a, x = .ok a → FailsOnly E (f a)) : FailsOnly E (x >>= f) := by
  intro e he
  rcases bind_eq_error.mp he with hx | ⟨a, ha, hfa⟩
  · exact h e hx
  · exact hf a ha e hfa

theorem exists_ok_of_failsOnly {x : Except ε α} (h : FailsOnly (fun _ => False) x) :
    ∃ a, x = .ok a := by
  cases x with
  | error e => exact (h e rfl).elim
  | ok a => exact ⟨a, rfl⟩

theorem failsOnly_of_exists {x : Except ε α} (h : ∃ a, x = .ok a) : FailsOnly E x := by
  obtain ⟨a, rfl⟩ := h
  exact failsOnly_pure a

end ReplySchema.Result

import Mathlib.Data.Finset.Card
import ReplySchema.Proofs.Result
import ReplySchema.Schema.Set

/-! # Chains of references

A target can be nothing but a reference again, and so can its target.  Such a chain either
comes to a schema of another kind or to a reference that leads nowhere, or it goes on for
ever; in that case it *circles*, because only finitely many targets can be met.

A step of a chain depends on the target alone.  So a chain that meets a target twice circles
(`circles_of_return`), and one that meets more targets than there are identities does so too
(`circles_of_length`).
-/

set_option autoImplicit false

namespace ReplySchema.Schema.Set

variable (set : Set)

/-- The target of a target that is nothing but a reference. -/
def next? (t : Target) : Option Target :=
  (reference? t.schema).bind fun r => (set.resolve r t.source).toOption

/-- The target after a number of steps. -/
def follow : Nat → Target → Option Target
  | 0, t => some t
  | n + 1, t => (set.next? t).bind (follow n)

/-- Whether the chain from a target goes on for ever. -/
def Circles (t : Target) : Prop := ∀ n, (set.follow n t).isSome

variable {set}

theorem next?_eq_some {t u : Target} :
    set.next? t = some u ↔ ∃ r, reference? t.schema = some r ∧ set.resolve r t.source = .ok u := by
  unfold next?
  rw [Option.bind_eq_some_iff]
  simp only [Result.toOption_eq_some]

theorem follow_succ_of_next? {t u : Target} (h : set.next? t = some u) (n : Nat) :
    set.follow (n + 1) t = set.follow n u := by
  rw [follow, h]
  rfl

theorem follow_add (m n : Nat) (t : Target) :
    set.follow (m + n) t = (set.follow m t).bind (set.follow n) := by
  induction m generalizing t with
  | zero => rw [Nat.zero_add]; rfl
  | succ m ih =>
      rw [Nat.succ_add, follow, follow, Option.bind_assoc]
      congr 1
      funext u
      exact ih u

theorem circles_of_follow {n : Nat} {t u : Target} (h : set.follow n t = some u)
    (hu : set.Circles u) : set.Circles t := by
  intro m
  rcases Nat.le_total n m with hle | hle
  · obtain ⟨k, rfl⟩ := Nat.exists_eq_add_of_le hle
    rw [follow_add, h]
    exact hu k
  · obtain ⟨k, rfl⟩ := Nat.exists_eq_add_of_le hle
    rw [follow_add] at h
    obtain ⟨w, hw, -⟩ := Option.bind_eq_some_iff.mp h
    rw [hw]
    rfl

theorem Circles.next {t : Target} (h : set.Circles t) :
    ∃ u, set.next? t = some u ∧ set.Circles u := by
  have hone := h 1
  rw [follow] at hone
  cases hnext : set.next? t with
  | none =>
      rw [hnext] at hone
      cases hone
  | some u =>
      refine ⟨u, rfl, fun n => ?_⟩
      rw [← follow_succ_of_next? hnext n]
      exact h (n + 1)

/-- **A chain that comes back circles.** -/
theorem circles_of_return {k : Nat} {t : Target} (h : set.follow (k + 1) t = some t) :
    set.Circles t := by
  intro n
  induction n using Nat.strongRecOn with
  | _ n ih =>
      rcases Nat.lt_or_ge k n with hlt | hle
      · obtain ⟨m, rfl⟩ := Nat.exists_eq_add_of_le (Nat.succ_le_of_lt hlt)
        rw [follow_add, h]
        exact ih m (by omega)
      · obtain ⟨m, hm⟩ := Nat.exists_eq_add_of_le (Nat.le_succ_of_le hle)
        change k + 1 = n + m at hm
        rw [hm, follow_add] at h
        obtain ⟨u, hu, -⟩ := Option.bind_eq_some_iff.mp h
        rw [hu]
        rfl

/-- **A chain longer than the list of all identities circles.** -/
theorem circles_of_length {P : Target → Prop} {keys : List Key}
    (hinjective : ∀ u w, P u → P w → u.key = w.key → u = w) {t : Target}
    (h : ∀ n ≤ keys.length, ∃ u, set.follow n t = some u ∧ P u ∧ u.key ∈ keys) :
    set.Circles t := by
  classical
  have : Nonempty Target := ⟨t⟩
  choose! f hf using h
  have hcard : keys.toFinset.card < (Finset.range (keys.length + 1)).card := by
    rw [Finset.card_range]
    exact Nat.lt_succ_of_le keys.toFinset_card_le
  obtain ⟨m, hm, n, hn, hne, heq⟩ := Finset.exists_ne_map_eq_of_card_lt_of_maps_to
    (f := fun n => (f n).key) hcard fun n hn =>
      List.mem_toFinset.mpr (hf n (Nat.le_of_lt_succ (Finset.mem_range.mp hn))).2.2
  have hlength : ∀ {n}, n ∈ Finset.range (keys.length + 1) → n ≤ keys.length := fun hn =>
    Nat.le_of_lt_succ (Finset.mem_range.mp hn)
  -- The two places are symmetric, so the first may be taken for the earlier one.
  have hrepeat : ∀ {m n}, m ≤ keys.length → n ≤ keys.length → (f m).key = (f n).key → m < n →
      set.Circles t := by
    intro m n hm hn heq hlt
    obtain ⟨hfm, hPm, -⟩ := hf m hm
    obtain ⟨hfn, hPn, -⟩ := hf n hn
    obtain ⟨k, hk⟩ := Nat.exists_eq_add_of_lt hlt
    rw [← hinjective _ _ hPm hPn heq, hk, Nat.add_assoc, follow_add, hfm] at hfn
    exact circles_of_follow hfm (circles_of_return hfn)
  rcases Nat.lt_or_gt_of_ne hne with hlt | hlt
  · exact hrepeat (hlength hm) (hlength hn) heq hlt
  · exact hrepeat (hlength hn) (hlength hm) heq.symm hlt

end ReplySchema.Schema.Set

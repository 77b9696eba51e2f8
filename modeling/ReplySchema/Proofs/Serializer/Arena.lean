import Mathlib.Data.List.Chain
import Mathlib.Logic.Relation
import ReplySchema.Proofs.Table
import ReplySchema.Serializer.Arena

/-! # The cells of an arena

A cell names places that were handed out before it was written, or it is the alias of a target,
written into a place that was handed out before the target was compiled.  So the second kind is
the only one by which the cells can make a circle.

Two kinds of cells pass a value on without a look at what it is made of, aliases and those that
may be null.  A circle of these could be closed in one step only, when an alias is written, and
just then there is a look at where the alias leads.  The look goes along aliases alone.  That is
enough, because what may be null is never a reference, so a way that has left the aliases does
not come back to a target (`rank_settled`).

Main statements: what is kept while cells are written (`WellFormed`), where a value comes to that
is passed on (`exists_follow`), and what every circle passes through (`exists_union_of_circle`).
-/

set_option autoImplicit false

namespace ReplySchema.Serializer

/-- The place where a value is passed on to as it is, by an alias or a cell that may be null. -/
def Cell.next? : Cell → Option Nat
  | .alias place => some place
  | .nullable inner => some inner
  | _ => none

theorem Cell.mem_places_of_next? {c : Cell} {j : Nat} (h : c.next? = some j) : j ∈ c.places := by
  cases c <;> cases h <;> exact List.mem_singleton_self _

namespace Arena

variable {a : Arena} {c d : Cell} {key : Schema.Key} {i j slot inner : Nat}

/-! ## §1  What is kept -/

/-- Whether a place was handed out to a target. -/
def IsSlot (a : Arena) (i : Nat) : Prop := ∃ key, Table.find? key a.memo = some i

/-- Where a value is passed on to from a place. -/
def next? (a : Arena) (i : Nat) : Option Nat := a.nodes[i]?.bind Cell.next?

/-- Whether every step by which a value is passed on leads down. -/
def Ranks (rank : Nat → Nat) (a : Arena) : Prop := ∀ i j, a.next? i = some j → rank j < rank i

/-- **The invariant of an arena.** -/
structure WellFormed (a : Arena) : Prop where
  /-- Every place that a cell names has a cell. -/
  places : ∀ (i : Nat) (c : Cell), a.nodes[i]? = some c → ∀ j ∈ c.places, j < a.nodes.length
  slots : ∀ key i, Table.find? key a.memo = some i → i < a.nodes.length
  distinct : ∀ key key' i, Table.find? key a.memo = some i → Table.find? key' a.memo = some i →
    key = key'
  aliased : ∀ i j : Nat, a.nodes[i]? = some (.alias j) → a.IsSlot i
  slot : ∀ i, a.IsSlot i → a.nodes[i]? = some .any ∨ ∃ j, a.nodes[i]? = some (.alias j)
  nullable : ∀ i j : Nat, a.nodes[i]? = some (.nullable j) → ¬ a.IsSlot j
  ranked : ∃ rank, a.Ranks rank

theorem lt_of_getElem? (h : a.nodes[i]? = some c) : i < a.nodes.length :=
  (List.getElem?_eq_some_iff.mp h).1

theorem next?_eq_some : a.next? i = some j ↔
    a.nodes[i]? = some (.alias j) ∨ a.nodes[i]? = some (.nullable j) := by
  unfold next?
  cases a.nodes[i]? with
  | none => simp
  | some c => cases c <;> simp [Cell.next?]

theorem WellFormed.lt_of_next? (h : a.WellFormed) (hnext : a.next? i = some j) :
    j < a.nodes.length := by
  obtain ⟨c, hc, hnext⟩ := Option.bind_eq_some_iff.mp hnext
  exact h.places i c hc j (Cell.mem_places_of_next? hnext)

theorem WellFormed.not_isSlot_of_next? (h : a.WellFormed) (hi : ¬ a.IsSlot i)
    (hnext : a.next? i = some j) : ¬ a.IsSlot j := by
  rcases next?_eq_some.mp hnext with halias | hnullable
  · exact absurd (h.aliased i j halias) hi
  · exact h.nullable i j hnullable

theorem wellFormed_empty : WellFormed {} where
  places := fun _ _ h => by cases h
  slots := fun _ _ h => by cases h
  distinct := fun _ _ _ h => by cases h
  aliased := fun _ _ h => by cases h
  slot := fun _ ⟨_, h⟩ => by cases h
  nullable := fun _ _ h => by cases h
  ranked := ⟨fun _ => 0, fun _ _ h => by cases h⟩

/-! ## §2  Writing a cell at the end -/

def pushed (c : Cell) (a : Arena) : Arena := { a with nodes := a.nodes ++ [c] }

theorem run_push (c : Cell) (a : Arena) :
    (push c).run.run a = (.ok a.nodes.length, a.pushed c) := rfl

theorem getElem?_pushed :
    (a.pushed c).nodes[i]? = some d ↔ a.nodes[i]? = some d ∨ i = a.nodes.length ∧ d = c := by
  have happend : (a.pushed c).nodes[i]? = (a.nodes ++ [c])[i]? := rfl
  rw [happend]
  rcases Nat.lt_trichotomy i a.nodes.length with hlt | rfl | hgt
  · rw [List.getElem?_append_left hlt]
    exact ⟨Or.inl, fun h => h.resolve_right fun h => Nat.ne_of_lt hlt h.1⟩
  · simp [eq_comm]
  · have hnone : a.nodes[i]? = none := List.getElem?_eq_none (Nat.le_of_lt hgt)
    have hnone' : (a.nodes ++ [c])[i]? = none := List.getElem?_eq_none (by simp; omega)
    rw [hnone, hnone']
    simp [Nat.ne_of_gt hgt]

theorem length_pushed : (a.pushed c).nodes.length = a.nodes.length + 1 := List.length_append

theorem next?_pushed (h : (a.pushed c).next? i = some j) :
    a.next? i = some j ∨ i = a.nodes.length ∧ c.next? = some j := by
  obtain ⟨d, hd, hnext⟩ := Option.bind_eq_some_iff.mp h
  rcases getElem?_pushed.mp hd with hd | ⟨hi, rfl⟩
  · exact Or.inl (Option.bind_eq_some_iff.mpr ⟨d, hd, hnext⟩)
  · exact Or.inr ⟨hi, hnext⟩

/-- A cell that names places that are there keeps the way down: it can stand above all of them. -/
theorem rank_pushed (h : a.WellFormed) (hplaces : ∀ j ∈ c.places, j < a.nodes.length) :
    ∃ rank, (a.pushed c).Ranks rank := by
  obtain ⟨rank, hrank⟩ := h.ranked
  refine ⟨fun i => if i = a.nodes.length then (c.next?.map rank).getD 0 + 1 else rank i,
    fun i j hnext => ?_⟩
  dsimp only
  rcases next?_pushed hnext with hold | ⟨rfl, hnew⟩
  · have hi : i ≠ a.nodes.length := by
      obtain ⟨d, hd, -⟩ := Option.bind_eq_some_iff.mp hold
      exact Nat.ne_of_lt (lt_of_getElem? hd)
    have hj : j ≠ a.nodes.length := Nat.ne_of_lt (h.lt_of_next? hold)
    rw [if_neg hi, if_neg hj]
    exact hrank i j hold
  · have hj : j ≠ a.nodes.length := Nat.ne_of_lt (hplaces j (Cell.mem_places_of_next? hnew))
    rw [if_neg hj, if_pos rfl, hnew]
    exact Nat.lt_succ_self _

theorem places_pushed (h : a.WellFormed) (hplaces : ∀ j ∈ c.places, j < a.nodes.length) :
    ∀ (i : Nat) (d : Cell), (a.pushed c).nodes[i]? = some d → ∀ j ∈ d.places, j < (a.pushed c).nodes.length := by
  intro i d hd j hj
  rw [length_pushed]
  rcases getElem?_pushed.mp hd with hd | ⟨-, rfl⟩
  · exact Nat.lt_succ_of_lt (h.places i d hd j hj)
  · exact Nat.lt_succ_of_lt (hplaces j hj)

/-- **A cell is written at the end**, no alias, of places that are there. -/
theorem WellFormed.pushed (h : a.WellFormed) (hplaces : ∀ j ∈ c.places, j < a.nodes.length)
    (halias : ∀ j, c ≠ .alias j) (hnullable : ∀ j, c = .nullable j → ¬ a.IsSlot j) :
    (a.pushed c).WellFormed where
  places := places_pushed h hplaces
  slots := fun key i hi => by
    rw [length_pushed]
    exact Nat.lt_succ_of_lt (h.slots key i hi)
  distinct := h.distinct
  aliased := fun i j hi => by
    rcases getElem?_pushed.mp hi with hi | ⟨-, heq⟩
    · exact h.aliased i j hi
    · exact absurd heq.symm (halias j)
  slot := fun i hi => (h.slot i hi).imp (fun hany => getElem?_pushed.mpr (Or.inl hany))
    fun ⟨j, hj⟩ => ⟨j, getElem?_pushed.mpr (Or.inl hj)⟩
  nullable := fun i j hi => by
    rcases getElem?_pushed.mp hi with hi | ⟨-, heq⟩
    · exact h.nullable i j hi
    · exact hnullable j heq.symm
  ranked := rank_pushed h hplaces

/-! ## §3  Handing out a place -/

def entered (key : Schema.Key) (a : Arena) : Arena :=
  { a.pushed .any with
    memo := Table.insert key a.nodes.length a.memo
    compiled := a.compiled ++ [key] }

theorem run_enter (key : Schema.Key) (a : Arena) :
    (enter key).run.run a = (.ok a.nodes.length, a.entered key) := rfl

theorem find?_entered (key' : Schema.Key) : Table.find? key' (a.entered key).memo =
    if key = key' then some a.nodes.length else Table.find? key' a.memo :=
  Table.find?_insert key' key a.nodes.length a.memo

/-- A target that is new has the new place, and the others have theirs. -/
theorem isSlot_entered (hfresh : Table.find? key a.memo = none) :
    (a.entered key).IsSlot i ↔ a.IsSlot i ∨ i = a.nodes.length := by
  unfold IsSlot
  simp only [find?_entered]
  constructor
  · rintro ⟨key', h⟩
    split at h
    · exact Or.inr (Option.some.inj h).symm
    · exact Or.inl ⟨key', h⟩
  · rintro (⟨key', h⟩ | rfl)
    · refine ⟨key', ?_⟩
      rw [if_neg, h]
      rintro rfl
      rw [hfresh] at h
      cases h
    · exact ⟨key, if_pos rfl⟩

/-- **A place is handed out** to a target that has none. -/
theorem WellFormed.entered (h : a.WellFormed) (hfresh : Table.find? key a.memo = none) :
    (a.entered key).WellFormed where
  places := places_pushed h fun _ hj => by cases hj
  slots := fun key' i hi => by
    rw [find?_entered] at hi
    have hlength : (a.entered key).nodes.length = a.nodes.length + 1 := length_pushed
    rw [hlength]
    split at hi
    · cases hi
      exact Nat.lt_succ_self _
    · exact Nat.lt_succ_of_lt (h.slots key' i hi)
  distinct := fun key₁ key₂ i h₁ h₂ => by
    have hbelow : ∀ key', Table.find? key' a.memo ≠ some a.nodes.length := fun key' hi =>
      Nat.lt_irrefl _ (h.slots key' _ hi)
    rw [find?_entered] at h₁ h₂
    split at h₁ <;> split at h₂
    · next hkey₁ hkey₂ => exact hkey₁.symm.trans hkey₂
    · cases h₁
      exact absurd h₂ (hbelow key₂)
    · cases h₂
      exact absurd h₁ (hbelow key₁)
    · exact h.distinct key₁ key₂ i h₁ h₂
  aliased := fun i j hi => by
    rcases getElem?_pushed.mp hi with hi | ⟨-, heq⟩
    · exact (isSlot_entered hfresh).mpr (Or.inl (h.aliased i j hi))
    · cases heq
  slot := fun i hi => by
    rcases (isSlot_entered hfresh).mp hi with hi | rfl
    · exact (h.slot i hi).imp (fun hany => getElem?_pushed.mpr (Or.inl hany))
        (Exists.imp fun _ hj => getElem?_pushed.mpr (Or.inl hj))
    · exact Or.inl (getElem?_pushed.mpr (Or.inr ⟨rfl, rfl⟩))
  nullable := fun i j hi hslot => by
    rcases getElem?_pushed.mp hi with hi | ⟨-, heq⟩
    · have hj : j < a.nodes.length := h.places i _ hi j (List.mem_singleton_self j)
      rcases (isSlot_entered hfresh).mp hslot with hslot | rfl
      · exact h.nullable i j hi hslot
      · exact Nat.lt_irrefl _ hj
    · cases heq
  ranked := rank_pushed h fun _ hj => by cases hj

/-! ## §4  Writing an alias -/

def patched (slot inner : Nat) (a : Arena) : Arena :=
  { a with nodes := a.nodes.set slot (.alias inner) }

/-- An arena in which a target has become an alias, unless that would close a circle. -/
def settled (slot inner : Nat) (a : Arena) : Arena :=
  if aliasesBack a.nodes slot (a.nodes.length + 1) inner then a else a.patched slot inner

theorem run_settle (slot inner : Nat) (a : Arena) :
    (settle slot inner).run.run a = (.ok (), a.settled slot inner) := rfl

theorem getElem?_patched_self (h : slot < a.nodes.length) :
    (a.patched slot inner).nodes[slot]? = some (.alias inner) :=
  List.getElem?_set_self h

theorem getElem?_patched_ne (h : i ≠ slot) :
    (a.patched slot inner).nodes[i]? = a.nodes[i]? :=
  List.getElem?_set_ne h.symm

theorem length_patched : (a.patched slot inner).nodes.length = a.nodes.length := List.length_set

/-- A look along the aliases finds every way to a slot: it can lead through aliases only. -/
theorem aliasesBack_of_reaches (h : a.WellFormed) (hslot : a.IsSlot slot)
    (hreaches : Relation.ReflTransGen (fun i j => a.next? i = some j) i slot) (n : Nat) :
    aliasesBack a.nodes slot n i = true := by
  have hslots : ∀ {i}, Relation.ReflTransGen (fun i j => a.next? i = some j) i slot →
      a.IsSlot i := fun hreaches => by
    by_contra hi
    refine Relation.ReflTransGen.head_induction_on
      (motive := fun i _ => ¬ a.IsSlot i → False) hreaches (fun hi => hi hslot) ?_ hi
    exact fun hnext _ ih hi => ih (h.not_isSlot_of_next? hi hnext)
  induction n generalizing i with
  | zero => rfl
  | succ n ih =>
      rw [aliasesBack]
      rcases Relation.ReflTransGen.cases_head hreaches with rfl | ⟨j, hnext, hrest⟩
      · exact if_pos rfl
      · split
        · rfl
        · have hcell : a.nodes[i]? = some (.alias j) := by
            rcases next?_eq_some.mp hnext with halias | hnullable
            · exact halias
            · rcases h.slot i (hslots hreaches) with hany | ⟨k, halias⟩
              · rw [hany] at hnullable
                cases hnullable
              · rw [halias] at hnullable
                cases hnullable
          rw [hcell]
          exact ih hrest

/-- **An alias that does not lead back closes no circle**: all that leads to the target is moved
above what the target was compiled to. -/
theorem rank_settled (h : a.WellFormed) (hslot : a.IsSlot slot)
    (hback : aliasesBack a.nodes slot (a.nodes.length + 1) inner = false) :
    ∃ rank, (a.patched slot inner).Ranks rank := by
  classical
  obtain ⟨rank, hrank⟩ := h.ranked
  let reaches (i : Nat) : Prop := Relation.ReflTransGen (fun i j => a.next? i = some j) i slot
  have hinner : ¬ reaches inner := fun hreaches => by
    rw [aliasesBack_of_reaches h hslot hreaches] at hback
    cases hback
  refine ⟨fun i => if reaches i then rank i + rank inner + 1 else rank i, fun i j hnext => ?_⟩
  dsimp only
  by_cases hi : i = slot
  · subst hi
    obtain ⟨key, hkey⟩ := hslot
    have hj : j = inner := by
      rw [next?, getElem?_patched_self (h.slots key i hkey)] at hnext
      exact (Option.some.inj hnext).symm
    rw [hj, if_neg hinner, if_pos Relation.ReflTransGen.refl]
    omega
  · have hold : a.next? i = some j := by
      rw [next?, getElem?_patched_ne hi] at hnext
      exact hnext
    have hless := hrank i j hold
    by_cases hj : reaches j
    · have hthere : reaches i := .head hold hj
      rw [if_pos hj, if_pos hthere]
      omega
    · rw [if_neg hj]
      split <;> omega

/-- **A target becomes an alias of what it was compiled to**, unless that leads back to it. -/
theorem WellFormed.settled (h : a.WellFormed) (hslot : a.IsSlot slot)
    (hinner : inner < a.nodes.length) : (a.settled slot inner).WellFormed := by
  unfold Arena.settled
  split
  · exact h
  · next hback =>
      -- Only the cell of the target changes, so every clause is about that cell or an old one.
      have hcell : ∀ {i d}, (a.patched slot inner).nodes[i]? = some d →
          i = slot ∧ d = .alias inner ∨ i ≠ slot ∧ a.nodes[i]? = some d := by
        intro i d hd
        by_cases hi : i = slot
        · subst hi
          obtain ⟨key, hkey⟩ := hslot
          rw [getElem?_patched_self (h.slots key i hkey)] at hd
          exact Or.inl ⟨rfl, (Option.some.inj hd).symm⟩
        · rw [getElem?_patched_ne hi] at hd
          exact Or.inr ⟨hi, hd⟩
      exact {
        places := fun i d hd j hj => by
          rw [length_patched]
          rcases hcell hd with ⟨-, rfl⟩ | ⟨-, hd⟩
          · exact List.mem_singleton.mp hj ▸ hinner
          · exact h.places i d hd j hj
        slots := fun key i hi => by
          rw [length_patched]
          exact h.slots key i hi
        distinct := h.distinct
        aliased := fun i j hi => by
          rcases hcell hi with ⟨rfl, -⟩ | ⟨-, hi⟩
          · exact hslot
          · exact h.aliased i j hi
        slot := fun i hi => by
          by_cases heq : i = slot
          · subst heq
            obtain ⟨key, hkey⟩ := hslot
            exact Or.inr ⟨inner, getElem?_patched_self (h.slots key i hkey)⟩
          · rw [getElem?_patched_ne heq]
            exact h.slot i hi
        nullable := fun i j hi => by
          rcases hcell hi with ⟨-, heq⟩ | ⟨-, hi⟩
          · cases heq
          · exact h.nullable i j hi
        ranked := rank_settled h hslot (Bool.eq_false_iff.mpr hback) }

/-! ## §5  Ways that end -/

def walk (next : Nat → Option Nat) : Nat → Nat → Option Nat
  | 0, i => some i
  | n + 1, i => (next i).bind (walk next n)

/-- **A way that leads down ends**, within as many steps as there are places to step from. -/
theorem exists_walk {next : Nat → Option Nat} {rank : Nat → Nat}
    (hrank : ∀ i j, next i = some j → rank j < rank i) : ∀ (places : List Nat) (i : Nat),
      (∀ x y, next x = some y → rank x ≤ rank i → x ∈ places) →
      ∃ n ≤ places.length, ∃ j, walk next n i = some j ∧ next j = none := by
  intro places
  -- a place that was left is not come to again, so there is one less to step from
  induction hlength : places.length generalizing places with
  | zero =>
      intro i hplaces
      refine ⟨0, Nat.le_refl _, i, rfl, ?_⟩
      cases hnext : next i with
      | none => rfl
      | some j =>
          have hmem := hplaces i j hnext (Nat.le_refl _)
          rw [List.length_eq_zero_iff.mp hlength] at hmem
          cases hmem
  | succ length ih =>
      intro i hplaces
      cases hnext : next i with
      | none => exact ⟨0, Nat.zero_le _, i, rfl, hnext⟩
      | some k =>
          have hmem := hplaces i k hnext (Nat.le_refl _)
          have hless := hrank i k hnext
          have hrest : ∀ x y, next x = some y → rank x ≤ rank k → x ∈ places.erase i := by
            intro x y hx hle
            have hne : x ≠ i := fun heq => by
              rw [heq] at hle
              omega
            exact (List.mem_erase_of_ne hne).mpr (hplaces x y hx (by omega))
          obtain ⟨n, hn, j, hwalk, hstop⟩ := ih (places.erase i)
            (by rw [List.length_erase_of_mem hmem, hlength]; rfl) k hrest
          refine ⟨n + 1, Nat.succ_le_succ hn, j, ?_, hstop⟩
          rw [walk, hnext]
          exact hwalk

def alias? (nodes : List Cell) (i : Nat) : Option Nat :=
  match nodes[i]? with
  | some (.alias next) => some next
  | _ => none

theorem alias?_eq_some {nodes : List Cell} : alias? nodes i = some j ↔
    nodes[i]? = some (.alias j) := by
  unfold alias?
  split
  · next hcell => simp [hcell]
  · next hcell => simpa using fun heq => hcell j heq

theorem aliasesBack_succ (nodes : List Cell) (slot n i : Nat) :
    aliasesBack nodes slot (n + 1) i =
      if i = slot then true else ((alias? nodes i).map (aliasesBack nodes slot n)).getD false := by
  rw [aliasesBack, alias?]
  split
  · rfl
  · cases nodes[i]? with
    | none => rfl
    | some c => cases c <;> rfl

/-- A look that sees where the aliases end does not change if it may go further. -/
theorem aliasesBack_eq_of_walk {nodes : List Cell} {j : Nat} (hstop : alias? nodes j = none) :
    ∀ (k i n m : Nat), walk (alias? nodes) k i = some j → k < n → k < m →
      aliasesBack nodes slot n i = aliasesBack nodes slot m i := by
  intro k
  induction k with
  | zero =>
      intro i n m hwalk hn hm
      obtain ⟨n, rfl⟩ := Nat.exists_eq_succ_of_ne_zero (Nat.ne_of_gt hn)
      obtain ⟨m, rfl⟩ := Nat.exists_eq_succ_of_ne_zero (Nat.ne_of_gt hm)
      cases hwalk
      rw [aliasesBack_succ, aliasesBack_succ, hstop]
      rfl
  | succ k ih =>
      intro i n m hwalk hn hm
      obtain ⟨n, rfl⟩ := Nat.exists_eq_succ_of_ne_zero (Nat.ne_of_gt (Nat.zero_lt_of_lt hn))
      obtain ⟨m, rfl⟩ := Nat.exists_eq_succ_of_ne_zero (Nat.ne_of_gt (Nat.zero_lt_of_lt hm))
      obtain ⟨next, hnext, hwalk⟩ := Option.bind_eq_some_iff.mp hwalk
      rw [aliasesBack_succ, aliasesBack_succ, hnext, Option.map_some, Option.map_some,
        ih next n m hwalk (Nat.lt_of_succ_lt_succ hn) (Nat.lt_of_succ_lt_succ hm)]

/-- A look that may go through all targets sees as much as one that may go through all cells. -/
theorem aliasesBack_eq (h : a.WellFormed) {n m : Nat} (hn : a.memo.length < n)
    (hm : a.nodes.length < m) : aliasesBack a.nodes slot n i = aliasesBack a.nodes slot m i := by
  obtain ⟨rank, hrank⟩ := h.ranked
  have hdown : ∀ x y, alias? a.nodes x = some y → rank y < rank x := fun x y hx =>
    hrank x y (next?_eq_some.mpr (Or.inl (alias?_eq_some.mp hx)))
  have hlook : ∀ {places : List Nat} {n : Nat}, places.length < n →
      (∀ x y, alias? a.nodes x = some y → x ∈ places) → ∀ more,
      aliasesBack a.nodes slot n i = aliasesBack a.nodes slot (n + more) i := by
    intro places n hn hplaces more
    obtain ⟨k, hk, j, hwalk, hstop⟩ := exists_walk hdown places i fun x y hx _ => hplaces x y hx
    have hless : k < n := Nat.lt_of_le_of_lt hk hn
    exact aliasesBack_eq_of_walk hstop k i n _ hwalk hless (Nat.lt_add_right more hless)
  rw [@hlook (a.memo.map (·.2)) n (by rwa [List.length_map]) (fun x y hx => ?_) m,
    @hlook (List.range a.nodes.length) m (by rwa [List.length_range]) (fun x y hx => ?_) n,
    Nat.add_comm]
  · exact List.mem_range.mpr (lt_of_getElem? (alias?_eq_some.mp hx))
  · obtain ⟨key, hkey⟩ := h.aliased x y (alias?_eq_some.mp hx)
    exact List.mem_map.mpr ⟨(key, x), Table.find?_mem hkey, rfl⟩

/-! ## §6  Ways on which a value is passed on -/

/-- Where a value is after it was passed on so often. -/
def follow (a : Arena) (n i : Nat) : Option Nat := walk a.next? n i

theorem WellFormed.lt_of_follow (h : a.WellFormed) : ∀ (n : Nat) {i : Nat}, i < a.nodes.length →
    a.follow n i = some j → j < a.nodes.length
  | 0, _, hi, hfollow => Option.some.inj hfollow ▸ hi
  | n + 1, _, _, hfollow => by
      obtain ⟨k, hnext, hfollow⟩ := Option.bind_eq_some_iff.mp hfollow
      exact h.lt_of_follow n (h.lt_of_next? hnext) hfollow

/-- **A value that is passed on comes to a cell that does not pass it on**, within as many steps as
there are cells. -/
theorem exists_follow (h : a.WellFormed) (hi : i < a.nodes.length) :
    ∃ n ≤ a.nodes.length, ∃ j < a.nodes.length, a.follow n i = some j ∧ a.next? j = none := by
  obtain ⟨rank, hrank⟩ := h.ranked
  obtain ⟨n, hn, j, hfollow, hstop⟩ := exists_walk hrank (List.range a.nodes.length) i
    fun x y hx _ => by
      obtain ⟨c, hc, -⟩ := Option.bind_eq_some_iff.mp hx
      exact List.mem_range.mpr (lt_of_getElem? hc)
  rw [List.length_range] at hn
  exact ⟨n, hn, j, h.lt_of_follow n hi hfollow, hfollow, hstop⟩

/-- Whether a value may get from one place to the other as it is. -/
inductive Passes (a : Arena) : Nat → Nat → Prop where
  | next {i j : Nat} (h : a.next? i = some j) : Passes a i j
  | branch {i : Nat} {branches : List (Branch Validator Nat)} {b : Branch Validator Nat}
      (h : a.nodes[i]? = some (.union branches)) (hb : b ∈ branches) : Passes a i b.shape

def IsUnion (a : Arena) (i : Nat) : Prop := ∃ branches, a.nodes[i]? = some (.union branches)

/-- **A circle on which a value stays as it is passes through a union.** -/
theorem exists_union_of_circle (h : a.WellFormed) {places : List Nat}
    (hcircle : List.IsChain a.Passes (i :: (places ++ [i]))) : ∃ j ∈ i :: places, a.IsUnion j := by
  by_contra hnone
  obtain ⟨rank, hrank⟩ := h.ranked
  have hdown : ∀ (places : List Nat) (i k : Nat), (∀ j ∈ i :: places, ¬ a.IsUnion j) →
      List.IsChain a.Passes (i :: (places ++ [k])) → rank k < rank i := by
    intro places
    have hstep : ∀ {i j}, ¬ a.IsUnion i → a.Passes i j → rank j < rank i := by
      intro i j hi hpasses
      cases hpasses with
      | next hnext => exact hrank i j hnext
      | branch hunion => exact absurd ⟨_, hunion⟩ hi
    induction places with
    | nil =>
        intro i k hnone hchain
        exact hstep (hnone i List.mem_cons_self) (List.isChain_cons_cons.mp hchain).1
    | cons j rest ih =>
        intro i k hnone hchain
        obtain ⟨hfirst, hrest⟩ := List.isChain_cons_cons.mp hchain
        have hbelow := ih j k (fun x hx => hnone x (List.mem_cons_of_mem _ hx)) hrest
        exact Nat.lt_trans hbelow (hstep (hnone i List.mem_cons_self) hfirst)
  exact Nat.lt_irrefl _ (hdown places i i (fun j hj hunion => hnone ⟨j, hj, hunion⟩) hcircle)

end Arena

end ReplySchema.Serializer

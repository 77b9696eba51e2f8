import ReplySchema.Proofs.Schema.SelfContained
import ReplySchema.Proofs.Serializer.Arena
import ReplySchema.Proofs.Serializer.Gate
import ReplySchema.Proofs.Serializer.Mirror
import ReplySchema.Proofs.Serializer.Outlines

/-! # A plan and its arena

A plan is built twice: as a table of shapes, and cell by cell in an arena.  The two go in
lockstep.  Both enter a target when they first come to it, both look whether it leads only back
to itself when it is done, and both come to the same error.  What relates them (`Paired`) is that
the table and the memo have the same targets, and that where the table has a shape the arena has
cells that say the same (`At`).

Cells that are not those of targets never change, so what was said of them stays true while more
is written (`At.keeps`); the cell of a target is written over once, by an alias.  Whether that
closes a circle is asked in the same way on both sides, and answered alike
(`leadsTo_eq_aliasesBack`).

Main statement: every plan lies in an arena in which each place has a cell, values are written as
the plan writes them, and no circle avoids the unions (`lies_in_arena`).
-/

set_option autoImplicit false

namespace ReplySchema.Serializer.Arena

open Schema (Key Source)
open Plan (treeSchema isSound_treeSchema isSound_treeSet)

/-! ## §1  Cells that say the same as shapes -/

section
variable (R : Node → Nat → Prop)

/-- Whether a declared member is the same, and its place stands for the shape. -/
structure PropertyAt (p : Property Node) (p' : Property Nat) : Prop where
  name : p'.name = p.name
  default : p'.default = p.default
  shape : R p.shape p'.shape

/-- Whether a pattern is the same, and its place stands for the shape. -/
structure PatternAt (p : Pattern × Node) (p' : Pattern × Nat) : Prop where
  pattern : p'.1 = p.1
  shape : R p.2 p'.2

/-- Whether an alternative has the same test, and its place stands for the shape. -/
structure BranchAt (b : Branch Validator Node) (b' : Branch Validator Nat) : Prop where
  test : b'.test = b.test
  shape : R b.shape b'.shape

/-- Whether other members are treated alike. -/
inductive OthersAt : Others Node → Others Nat → Prop where
  | dropped : OthersAt .dropped .dropped
  | plain : OthersAt .plain .plain
  | shaped {node : Node} {i : Nat} (h : R node i) : OthersAt (.shaped node) (.shaped i)

/-- Whether a cell is the form of a shape, and its places stand for the parts. -/
inductive Renders : Node → Cell → Prop where
  | any : Renders .any .any
  | const (v : Json) : Renders (.const v) (.const v)
  | null : Renders .null .null
  | boolean : Renders .boolean .boolean
  | integer : Renders .integer .integer
  | number : Renders .number .number
  | string : Renders .string .string
  | object {properties : List (Property Node)} {properties' : List (Property Nat)}
      {required : List String} {patterns : List (Pattern × Node)}
      {patterns' : List (Pattern × Nat)} {others : Others Node} {others' : Others Nat}
      (hproperties : List.Forall₂ (PropertyAt R) properties properties')
      (hpatterns : List.Forall₂ (PatternAt R) patterns patterns')
      (hothers : OthersAt R others others') :
      Renders (.object properties required patterns others)
        (.object properties' required patterns' others')
  | array {front : List Node} {front' : List Nat} {rest : Node} {rest' : Nat}
      (hfront : List.Forall₂ R front front') (hrest : R rest rest') :
      Renders (.array front rest) (.array front' rest')
  | union {branches : List (Branch Validator Node)} {branches' : List (Branch Validator Nat)}
      (h : List.Forall₂ (BranchAt R) branches branches') :
      Renders (.union branches) (.union branches')
  | nullable {inner : Node} {inner' : Nat} (h : R inner inner') :
      Renders (.nullable inner) (.nullable inner')

end

variable {R R' : Node → Nat → Prop} {node : Node} {c : Cell} {a a' b : Arena} {i j : Nat}

theorem Renders.mono (h : Renders R node c) (himp : ∀ node i, R node i → R' node i) :
    Renders R' node c := by
  cases h with
  | any => exact .any
  | const v => exact .const v
  | null => exact .null
  | boolean => exact .boolean
  | integer => exact .integer
  | number => exact .number
  | string => exact .string
  | object hproperties hpatterns hothers =>
      refine .object (hproperties.imp fun _ _ h => ⟨h.name, h.default, himp _ _ h.shape⟩)
        (hpatterns.imp fun _ _ h => ⟨h.pattern, himp _ _ h.shape⟩) ?_
      cases hothers with
      | dropped => exact .dropped
      | plain => exact .plain
      | shaped h => exact .shaped (himp _ _ h)
  | array hfront hrest => exact .array (hfront.imp himp) (himp _ _ hrest)
  | union h => exact .union (h.imp fun _ _ h => ⟨h.test, himp _ _ h.shape⟩)
  | nullable h => exact .nullable (himp _ _ h)

theorem Renders.exists_of_mem_places (h : Renders R node c) (hj : j ∈ c.places) :
    ∃ part, R part j := by
  have hlist : ∀ {α β : Type} {S : α → β → Prop} {xs : List α} {ys : List β} {y : β},
      List.Forall₂ S xs ys → y ∈ ys → ∃ x, S x y := fun h hy => by
    obtain ⟨x, -, hS⟩ := Schema.exists_of_forall₂ h hy
    exact ⟨x, hS⟩
  cases h with
  | object hproperties hpatterns hothers =>
      rcases List.mem_append.mp hj with hj | hj
      · rcases List.mem_append.mp hj with hj | hj
        · obtain ⟨p', hp', rfl⟩ := List.mem_map.mp hj
          obtain ⟨p, hp⟩ := hlist hproperties hp'
          exact ⟨p.shape, hp.shape⟩
        · obtain ⟨p', hp', rfl⟩ := List.mem_map.mp hj
          obtain ⟨p, hp⟩ := hlist hpatterns hp'
          exact ⟨p.2, hp.shape⟩
      · cases hothers with
        | shaped h => exact ⟨_, List.mem_singleton.mp hj ▸ h⟩
        | _ => cases hj
  | array hfront hrest =>
      rcases List.mem_append.mp hj with hj | hj
      · exact hlist hfront hj
      · exact ⟨_, List.mem_singleton.mp hj ▸ hrest⟩
  | union h =>
      obtain ⟨b', hb', rfl⟩ := List.mem_map.mp hj
      obtain ⟨b, hb⟩ := hlist h hb'
      exact ⟨b.shape, hb.shape⟩
  | nullable h => exact ⟨_, List.mem_singleton.mp hj ▸ h⟩
  | _ => cases hj

/-- **Whether a place of an arena stands for a shape.**  A reference stands at the place of its
target; all else has a cell of its own. -/
inductive At (a : Arena) : Node → Nat → Prop where
  | reference {key : Key} {i : Nat} (h : Table.find? key a.memo = some i) : At a (.reference key) i
  | cell {R : Node → Nat → Prop} {node : Node} {c : Cell} {i : Nat}
      (hcell : a.nodes[i]? = some c) (hplain : ¬ a.IsSlot i) (hrenders : Renders R node c)
      (hparts : ∀ node i, R node i → At a node i) : At a node i

theorem At.of_cell (hcell : a.nodes[i]? = some c) (hplain : ¬ a.IsSlot i)
    (hrenders : Renders (At a) node c) : At a node i :=
  .cell hcell hplain hrenders fun _ _ h => h

theorem At.cases (h : At a node i) :
    (∃ key, node = .reference key ∧ Table.find? key a.memo = some i) ∨
      ∃ c, a.nodes[i]? = some c ∧ ¬ a.IsSlot i ∧ Renders (At a) node c := by
  cases h with
  | reference h => exact Or.inl ⟨_, rfl, h⟩
  | cell hcell hplain hrenders hparts =>
      exact Or.inr ⟨_, hcell, hplain, hrenders.mono hparts⟩

theorem At.lt (h : At a node i) (ha : a.WellFormed) : i < a.nodes.length := by
  rcases h.cases with ⟨key, -, hkey⟩ | ⟨c, hc, -⟩
  · exact ha.slots key i hkey
  · exact lt_of_getElem? hc

/-! ## §2  What stays -/

/-- Whether targets keep their places and all other cells stay. -/
structure Keeps (a a' : Arena) : Prop where
  memo : ∀ key i, Table.find? key a.memo = some i → Table.find? key a'.memo = some i
  plain : ∀ (i : Nat) (c : Cell), a.nodes[i]? = some c → ¬ a.IsSlot i →
    a'.nodes[i]? = some c ∧ ¬ a'.IsSlot i

/-- Whether an arena has come out of another by writing more. -/
structure Grows (a a' : Arena) : Prop extends Keeps a a' where
  cells : a.nodes <+: a'.nodes

/-- **What stands for a shape goes on to do so.** -/
theorem At.keeps (h : At a node i) (hkeeps : Keeps a a') : At a' node i := by
  induction h with
  | reference h => exact .reference (hkeeps.memo _ _ h)
  | cell hcell hplain hrenders _ ih =>
      obtain ⟨hcell', hplain'⟩ := hkeeps.plain _ _ hcell hplain
      exact .cell hcell' hplain' hrenders ih

theorem Grows.refl (a : Arena) : Grows a a :=
  ⟨⟨fun _ _ h => h, fun _ _ hc hi => ⟨hc, hi⟩⟩, List.prefix_refl _⟩

theorem Grows.trans (h : Grows a a') (h' : Grows a' b) : Grows a b := by
  refine ⟨⟨fun key i hi => h'.memo key i (h.memo key i hi), fun i c hc hi => ?_⟩,
    h.cells.trans h'.cells⟩
  obtain ⟨hc, hi⟩ := h.plain i c hc hi
  exact h'.plain i c hc hi

theorem grows_pushed (c : Cell) (a : Arena) : Grows a (a.pushed c) :=
  ⟨⟨fun _ _ h => h, fun _ _ hd hi => ⟨getElem?_pushed.mpr (Or.inl hd), hi⟩⟩,
    List.prefix_append _ _⟩

theorem grows_entered {key : Key} (hfresh : Table.find? key a.memo = none) :
    Grows a (a.entered key) := by
  refine ⟨⟨fun key' i hi => ?_, fun i d hd hi => ⟨getElem?_pushed.mpr (Or.inl hd), ?_⟩⟩,
    List.prefix_append _ _⟩
  · rw [find?_entered, if_neg, hi]
    rintro rfl
    rw [hfresh] at hi
    cases hi
  · rw [isSlot_entered hfresh, not_or]
    exact ⟨hi, Nat.ne_of_lt (lt_of_getElem? hd)⟩

theorem keeps_settled {slot inner : Nat} (hslot : a.IsSlot slot) :
    Keeps a (a.settled slot inner) := by
  unfold Arena.settled
  split
  · exact (Grows.refl a).toKeeps
  · refine ⟨fun _ _ h => h, fun i c hc hi => ⟨?_, hi⟩⟩
    rw [getElem?_patched_ne, hc]
    rintro rfl
    exact hi hslot

/-- Over the whole of a target nothing changes but what is new. -/
theorem grows_settled {key : Key} {inner : Nat} (hfresh : Table.find? key a.memo = none)
    (hgrows : Grows (a.entered key) b) : Grows a (b.settled a.nodes.length inner) := by
  have hslot : b.IsSlot a.nodes.length :=
    ⟨key, hgrows.memo key _ ((find?_entered key).trans (if_pos rfl))⟩
  have hkeeps : Keeps b (b.settled a.nodes.length inner) := keeps_settled hslot
  have hfirst := (grows_entered hfresh).trans hgrows
  refine ⟨⟨fun key' i hi => hkeeps.memo _ _ (hfirst.memo _ _ hi), fun i c hc hi => ?_⟩, ?_⟩
  · obtain ⟨hc, hi⟩ := hfirst.plain i c hc hi
    exact hkeeps.plain i c hc hi
  · unfold Arena.settled
    split
    · exact hfirst.cells
    · obtain ⟨more, hmore⟩ := hfirst.cells
      unfold Arena.patched
      rw [← hmore, List.set_append_right _ _ (Nat.le_refl _)]
      exact List.prefix_append _ _

/-! ## §3  A table and an arena -/

/-- **Whether an arena stands for a table.**  They have the same targets in the same order; one that
has a shape is an alias of a place that stands for it, and one that has none says nothing. -/
structure Paired (t : Table Key (Option Node)) (a : Arena) : Prop where
  formed : a.WellFormed
  keys : Table.keys t = Table.keys a.memo
  unshaped : ∀ key i, Table.find? key t = some none → Table.find? key a.memo = some i →
    a.nodes[i]? = some .any
  shaped : ∀ key i node, Table.find? key t = some (some node) →
    Table.find? key a.memo = some i → ∃ inner, a.nodes[i]? = some (.alias inner) ∧ At a node inner

variable {t : Table Key (Option Node)} {key : Key}

theorem Paired.contains (h : Paired t a) (key : Key) :
    Table.contains key t = Table.contains key a.memo := by
  have hkeys := Table.mem_keys_iff_find?_isSome key t
  rw [h.keys, Table.mem_keys_iff_find?_isSome] at hkeys
  exact Bool.eq_iff_iff.mpr hkeys.symm

theorem Paired.cell_of_target (h : Paired t a) (hi : Table.find? key a.memo = some i) :
    Table.find? key t = some none ∧ a.nodes[i]? = some .any ∨
      ∃ node inner, Table.find? key t = some (some node) ∧ a.nodes[i]? = some (.alias inner) ∧
        At a node inner := by
  cases hentry : Table.find? key t with
  | none =>
      have hcontains := h.contains key
      rw [Table.contains_of_find?_none hentry, Table.contains_of_find?_some hi] at hcontains
      cases hcontains
  | some entry =>
      cases entry with
      | none => exact Or.inl ⟨rfl, h.unshaped key i hentry hi⟩
      | some node =>
          obtain ⟨inner, hcell, hat⟩ := h.shaped key i node hentry hi
          exact Or.inr ⟨node, inner, rfl, hcell, hat⟩

theorem paired_empty : Paired [] {} where
  formed := wellFormed_empty
  keys := rfl
  unshaped := fun _ _ h => by cases h
  shaped := fun _ _ _ h => by cases h

theorem Paired.pushed (h : Paired t a) (hformed : (a.pushed c).WellFormed) :
    Paired t (a.pushed c) where
  formed := hformed
  keys := h.keys
  unshaped := fun key i ht hi => getElem?_pushed.mpr (Or.inl (h.unshaped key i ht hi))
  shaped := fun key i node ht hi => by
    obtain ⟨inner, hcell, hat⟩ := h.shaped key i node ht hi
    exact ⟨inner, getElem?_pushed.mpr (Or.inl hcell), hat.keeps (grows_pushed c a).toKeeps⟩

theorem Paired.entered (h : Paired t a) (hfresh : Table.find? key a.memo = none) :
    Paired (Table.insert key none t) (a.entered key) where
  formed := h.formed.entered hfresh
  keys := by
    have hmemo : (a.entered key).memo = Table.insert key a.nodes.length a.memo := rfl
    rw [hmemo, Table.keys_insert, Table.keys_insert, h.keys]
  unshaped := fun key' i ht hi => by
    rw [Table.find?_insert] at ht
    rw [find?_entered] at hi
    split at hi
    · cases hi
      exact getElem?_pushed.mpr (Or.inr ⟨rfl, rfl⟩)
    · next hne =>
        rw [if_neg hne] at ht
        exact getElem?_pushed.mpr (Or.inl (h.unshaped key' i ht hi))
  shaped := fun key' i node ht hi => by
    rw [Table.find?_insert] at ht
    rw [find?_entered] at hi
    split at hi
    · next heq =>
        rw [if_pos heq] at ht
        cases ht
    · next hne =>
        rw [if_neg hne] at ht
        obtain ⟨inner, hcell, hat⟩ := h.shaped key' i node ht hi
        exact ⟨inner, getElem?_pushed.mpr (Or.inl hcell), hat.keeps (grows_entered hfresh).toKeeps⟩

/-- **Whether a target leads only back to itself is answered alike.** -/
theorem leadsTo_eq_aliasesBack (h : Paired t a) {slot : Nat}
    (hslot : Table.find? key a.memo = some slot) : ∀ (steps : Nat) {node : Node} {i : Nat},
      At a node i → Plan.leadsTo key t steps node = aliasesBack a.nodes slot steps i := by
  intro steps
  induction steps with
  | zero => exact fun _ => rfl
  | succ steps ih =>
      intro node i hat
      rcases hat.cases with ⟨next, rfl, hnext⟩ | ⟨c, hc, hplain, hrenders⟩
      · have hsame : next = key ↔ i = slot := by
          constructor
          · rintro rfl
            exact Option.some.inj (hnext.symm.trans hslot)
          · rintro rfl
            exact h.formed.distinct _ _ i hnext hslot
        rw [Plan.leadsTo, aliasesBack]
        simp only [hsame]
        split
        · rfl
        · rcases h.cell_of_target hnext with ⟨hentry, hcell⟩ | ⟨node, inner, hentry, hcell, hinner⟩
          · rw [hentry, hcell]
          · rw [hentry, hcell]
            exact ih hinner
      · have hne : i ≠ slot := by
          rintro rfl
          exact hplain ⟨key, hslot⟩
        rw [aliasesBack, if_neg hne, hc]
        cases hrenders <;> rfl

/-- **A target that is done is settled alike.** -/
theorem Paired.settled (h : Paired t a) {slot inner : Nat}
    (hslot : Table.find? key a.memo = some slot) (hopen : a.nodes[slot]? = some .any)
    (hat : At a node inner) :
    Paired (Plan.settled key node t) (a.settled slot inner) := by
  have hformed := h.formed.settled ⟨key, hslot⟩ (hat.lt h.formed)
  have hkeeps : Keeps a (a.settled slot inner) := keeps_settled ⟨key, hslot⟩
  have hlength : t.length = a.memo.length := by
    have hkeys := congrArg List.length h.keys
    rwa [Table.keys, Table.keys, List.length_map, List.length_map] at hkeys
  -- Both sides ask whether the target leads back to itself, each in its own tables.
  have hback : Plan.leadsTo key t (t.length + 1) node =
      aliasesBack a.nodes slot (a.nodes.length + 1) inner := by
    rw [leadsTo_eq_aliasesBack h hslot (t.length + 1) hat, hlength]
    exact aliasesBack_eq h.formed (Nat.lt_succ_self a.memo.length)
      (Nat.lt_succ_self a.nodes.length)
  unfold Plan.settled
  unfold Arena.settled at hformed hkeeps ⊢
  rw [hback]
  split
  · exact h
  · next hnot =>
      rw [if_neg hnot] at hformed hkeeps
      have hcontains : key ∈ Table.keys t := by
        rw [h.keys, Table.mem_keys_iff_find?_isSome, hslot]
        rfl
      exact {
        formed := hformed
        keys := by rw [Table.keys_insert, if_pos hcontains, h.keys]; rfl
        unshaped := fun key' i ht hi => by
          rw [Table.find?_insert] at ht
          split at ht
          · cases ht
          · next hne =>
              rw [getElem?_patched_ne]
              · exact h.unshaped key' i ht hi
              · rintro rfl
                exact hne (h.formed.distinct _ _ _ hslot hi)
        shaped := fun key' i node' ht hi => by
          rw [Table.find?_insert] at ht
          split at ht
          · next heq =>
              subst heq
              cases ht
              have hi : i = slot := Option.some.inj (hi.symm.trans hslot)
              subst hi
              exact ⟨inner, getElem?_patched_self (lt_of_getElem? hopen), hat.keeps hkeeps⟩
          · next hne =>
              obtain ⟨inner', hcell, hinner⟩ := h.shaped key' i node' ht hi
              refine ⟨inner', ?_, hinner.keeps hkeeps⟩
              rw [getElem?_patched_ne, hcell]
              rintro rfl
              exact hne (h.formed.distinct _ _ _ hslot hi) }

/-! ## §4  Steps in lockstep -/

section

variable {α β γ δ : Type} {y : Building β} {g : β → Building δ} {w : β} {e : SchemaError}

theorem run_bind_ok (h : y.run.run a = (.ok w, a')) : (y >>= g).run.run a = (g w).run.run a' := by
  rw [ExceptT.run_bind, StateT.run_bind, h]
  rfl

theorem run_bind_error (h : y.run.run a = (.error e, a')) :
    (y >>= g).run.run a = (.error e, a') := by
  rw [ExceptT.run_bind, StateT.run_bind, h]
  rfl

variable (P : Table Key (Option Node) → Prop) (E : SchemaError → Prop)

/-- Whether a step over a table and one over an arena come to what goes together, or to the same
error.  `P` is what is known of the table all along. -/
inductive Agree (t : Table Key (Option Node)) (a : Arena) (x : Plan.Linking α) (y : Building β)
    (Q : Arena → α → β → Prop) : Prop where
  | ok {v : α} {w : β} {t' : Table Key (Option Node)} {a' : Arena} (hx : x.run t = .ok (v, t'))
      (hy : y.run.run a = (.ok w, a')) (hpaired : Paired t' a') (hP : P t') (hgrows : Grows a a')
      (hQ : Q a' v w)
  | error {e : SchemaError} {a' : Arena} (hx : x.run t = .error e)
      (hy : y.run.run a = (.error e, a')) (he : E e)

variable {P E} {Q R : Arena → α → β → Prop} {S : Arena → γ → δ → Prop} {x : Plan.Linking α}
variable {f : α → Plan.Linking γ}

theorem agree_pure (hpaired : Paired t a) (hP : P t) {v : α} {w : β} (hQ : Q a v w) :
    Agree P E t a (pure v) (pure w) Q :=
  .ok rfl rfl hpaired hP (.refl a) hQ

theorem Agree.bind (h : Agree P E t a x y R) (hf : ∀ {v w t' a'}, Paired t' a' → P t' →
    Grows a a' → R a' v w → Agree P E t' a' (f v) (g w) S) :
    Agree P E t a (x >>= f) (y >>= g) S := by
  cases h with
  | error hx hy he => exact .error (by rw [StateT.run_bind, hx]; rfl) (run_bind_error hy) he
  | ok hx hy hpaired hP hgrows hR =>
      cases hf hpaired hP hgrows hR with
      | error hx' hy' he =>
          exact .error (by rw [StateT.run_bind, hx]; exact hx') ((run_bind_ok hy).trans hy') he
      | ok hx' hy' hpaired' hP' hgrows' hS =>
          exact .ok (by rw [StateT.run_bind, hx]; exact hx') ((run_bind_ok hy).trans hy') hpaired'
            hP' (hgrows.trans hgrows') hS

theorem Agree.mono (h : Agree P E t a x y R) (himp : ∀ a' v w, R a' v w → Q a' v w) :
    Agree P E t a x y Q := by
  cases h with
  | error hx hy he => exact .error hx hy he
  | ok hx hy hpaired hP hgrows hR => exact .ok hx hy hpaired hP hgrows (himp _ _ _ hR)

/-- A shape that is put together goes with the cell that is written. -/
theorem agree_push (hpaired : Paired t a) (hP : P t) (hrenders : Renders (At a) node c)
    (hnullable : ∀ j, c = .nullable j → ¬ a.IsSlot j) :
    Agree P E t a (pure node) (push c) fun a' node i => At a' node i ∧ ¬ a'.IsSlot i := by
  have hformed : (a.pushed c).WellFormed := by
    refine hpaired.formed.pushed (fun j hj => ?_) ?_ hnullable
    · obtain ⟨part, hpart⟩ := hrenders.exists_of_mem_places hj
      exact hpart.lt hpaired.formed
    · rintro j rfl
      cases hrenders
  have hplain : ¬ (a.pushed c).IsSlot a.nodes.length := fun ⟨key, hkey⟩ =>
    Nat.lt_irrefl _ (hpaired.formed.slots key _ hkey)
  have hgrows := grows_pushed c a
  refine .ok rfl (run_push c a) (hpaired.pushed hformed) hP hgrows ⟨?_, hplain⟩
  exact .of_cell (getElem?_pushed.mpr (Or.inr ⟨rfl, rfl⟩)) hplain
    (hrenders.mono fun _ _ h => h.keeps hgrows.toKeeps)

end

section

variable (P : Table Key (Option Node) → Prop) (E : SchemaError → Prop)
variable (onReference : Except SchemaError String → Plan.Linking Node)
variable (onReference' : Except SchemaError String → Building Nat)

/-- What is to be known of a form: references go in lockstep, and what may be null is none. -/
structure GoesAlike (x : Sketch) : Prop where
  reference : ∀ r, x = .reference r → ∀ ⦃t a⦄, Paired t a → P t →
    Agree P E t a (onReference r) (onReference' r) fun a' node i => At a' node i ∧ ∃ r', r = .ok r'
  nullable : ∀ y, x = .nullable y → ∀ r, y ≠ .reference (.ok r)

variable {P E onReference onReference'} {test : Json → Option Validator}

theorem agree_leaf (hpaired : Paired t a) (hP : P t) {s : Sketch} (hrenders : Renders (At a) node c)
    (hnullable : ∀ j, c ≠ .nullable j) :
    Agree P E t a (pure node) (push c) fun a' node i =>
      At a' node i ∧ ((∀ r, s ≠ .reference (.ok r)) → ¬ a'.IsSlot i) :=
  (agree_push hpaired hP hrenders fun j hj => absurd hj (hnullable j)).mono
    fun _ _ _ h => ⟨h.1, fun _ => h.2⟩

mutual
/-- **A sketch is linked and compiled in lockstep**, if its references are.  What is no reference
gets a cell of its own. -/
theorem agree_compile : ∀ s : Sketch, s.Every (GoesAlike P E onReference onReference') →
    ∀ ⦃t a⦄, Paired t a → P t →
    Agree P E t a (s.link onReference fun c => pure (test c)) (compile onReference' test s)
      fun a' node i => At a' node i ∧ ((∀ r, s ≠ .reference (.ok r)) → ¬ a'.IsSlot i)
  | .any, _, _, _, hpaired, hP => agree_leaf hpaired hP .any fun _ h => by cases h
  | .reference r, h, _, _, hpaired, hP =>
      (h.self.reference r rfl hpaired hP).mono fun _ _ _ ⟨hat, r', hr⟩ =>
        ⟨hat, fun hne => absurd (congrArg Shape.reference hr) (hne r')⟩
  | .const v, _, _, _, hpaired, hP => agree_leaf hpaired hP (.const v) fun _ h => by cases h
  | .null, _, _, _, hpaired, hP => agree_leaf hpaired hP .null fun _ h => by cases h
  | .boolean, _, _, _, hpaired, hP => agree_leaf hpaired hP .boolean fun _ h => by cases h
  | .integer, _, _, _, hpaired, hP => agree_leaf hpaired hP .integer fun _ h => by cases h
  | .number, _, _, _, hpaired, hP => agree_leaf hpaired hP .number fun _ h => by cases h
  | .string, _, _, _, hpaired, hP => agree_leaf hpaired hP .string fun _ h => by cases h
  | .object properties required patterns others, h, _, _, hpaired, hP => by
      -- Both sides go through the parts in one order; what was made earlier is kept while they go
      -- on.
      have hproperties := agree_compileProperties properties fun p hp => h.part
        (List.mem_append_left _ (List.mem_append_left _ (List.mem_map_of_mem hp)))
      have hpatterns := agree_compilePatterns patterns fun p hp => h.part
        (List.mem_append_left _ (List.mem_append_right _ (List.mem_map_of_mem hp)))
      have hothers := agree_compileOthers others fun s hs => h.part (List.mem_append_right _ hs)
      rw [Shape.link, compile]
      refine (hproperties hpaired hP).bind fun hpaired hP _ hps => ?_
      refine (hpatterns hpaired hP).bind fun hpaired hP hgrows hpats => ?_
      refine (hothers hpaired hP).bind fun hpaired hP hgrows' ho => ?_
      refine agree_leaf hpaired hP (.object (hps.imp fun _ _ h => ?_) (hpats.imp fun _ _ h => ?_) ho)
        fun _ h => by cases h
      · exact ⟨h.name, h.default, h.shape.keeps (hgrows.trans hgrows').toKeeps⟩
      · exact ⟨h.pattern, h.shape.keeps hgrows'.toKeeps⟩
  | .array front rest, h, _, _, hpaired, hP => by
      have hfront := agree_compileList front fun s hs => h.part (List.mem_append_left _ hs)
      have hrest := agree_compile rest (h.part (List.mem_append_right _ List.mem_cons_self))
      rw [Shape.link, compile]
      refine (hfront hpaired hP).bind fun hpaired hP _ hfronts => ?_
      refine (hrest hpaired hP).bind fun hpaired hP hgrows hrests => ?_
      exact agree_leaf hpaired hP
        (.array (hfronts.imp fun _ _ h => h.keeps hgrows.toKeeps) hrests.1) fun _ h => by cases h
  | .union branches, h, _, _, hpaired, hP => by
      have hbranches := agree_compileBranches branches fun b hb => h.part (List.mem_map_of_mem hb)
      rw [Shape.link, compile]
      refine (hbranches hpaired hP).bind fun hpaired hP _ hbs => ?_
      exact agree_leaf hpaired hP (.union hbs) fun _ h => by cases h
  | .nullable inner, h, _, _, hpaired, hP => by
      have hinner := agree_compile inner (h.part List.mem_cons_self)
      rw [Shape.link, compile]
      refine (hinner hpaired hP).bind fun hpaired hP _ hat => ?_
      refine (agree_push hpaired hP (.nullable hat.1) fun j hj => ?_).mono
        fun _ _ _ h => ⟨h.1, fun _ => h.2⟩
      cases hj
      exact hat.2 (h.self.nullable inner rfl)

theorem agree_compileProperties : ∀ ps : List (Property Sketch),
    (∀ p ∈ ps, p.shape.Every (GoesAlike P E onReference onReference')) →
    ∀ ⦃t a⦄, Paired t a → P t →
    Agree P E t a (Shape.linkProperties onReference (fun c => pure (test c)) ps)
      (compileProperties onReference' test ps) fun a' => List.Forall₂ (PropertyAt (At a'))
  | [], _, _, _, hpaired, hP => agree_pure hpaired hP .nil
  | ⟨name, default, shape⟩ :: more, h, _, _, hpaired, hP => by
      have hshape := agree_compile shape (h _ List.mem_cons_self)
      have hmore := agree_compileProperties more fun p hp => h p (List.mem_cons_of_mem _ hp)
      rw [Shape.linkProperties, compileProperties]
      refine (hshape hpaired hP).bind fun hpaired hP _ hat => ?_
      refine (hmore hpaired hP).bind fun hpaired hP hgrows hmores => ?_
      exact agree_pure hpaired hP (.cons ⟨rfl, rfl, hat.1.keeps hgrows.toKeeps⟩ hmores)

theorem agree_compilePatterns : ∀ ps : List (Pattern × Sketch),
    (∀ p ∈ ps, p.2.Every (GoesAlike P E onReference onReference')) →
    ∀ ⦃t a⦄, Paired t a → P t →
    Agree P E t a (Shape.linkPatterns onReference (fun c => pure (test c)) ps)
      (compilePatterns onReference' test ps) fun a' => List.Forall₂ (PatternAt (At a'))
  | [], _, _, _, hpaired, hP => agree_pure hpaired hP .nil
  | (pattern, shape) :: more, h, _, _, hpaired, hP => by
      have hshape := agree_compile shape (h _ List.mem_cons_self)
      have hmore := agree_compilePatterns more fun p hp => h p (List.mem_cons_of_mem _ hp)
      rw [Shape.linkPatterns, compilePatterns]
      refine (hshape hpaired hP).bind fun hpaired hP _ hat => ?_
      refine (hmore hpaired hP).bind fun hpaired hP hgrows hmores => ?_
      exact agree_pure hpaired hP (.cons ⟨rfl, hat.1.keeps hgrows.toKeeps⟩ hmores)

theorem agree_compileOthers : ∀ o : Others Sketch,
    (∀ s ∈ o.shapes, s.Every (GoesAlike P E onReference onReference')) →
    ∀ ⦃t a⦄, Paired t a → P t →
    Agree P E t a (Shape.linkOthers onReference (fun c => pure (test c)) o)
      (compileOthers onReference' test o) fun a' => OthersAt (At a')
  | .dropped, _, _, _, hpaired, hP => agree_pure hpaired hP .dropped
  | .plain, _, _, _, hpaired, hP => agree_pure hpaired hP .plain
  | .shaped shape, h, _, _, hpaired, hP => by
      have hshape := agree_compile shape (h shape List.mem_cons_self)
      rw [Shape.linkOthers, compileOthers]
      refine (hshape hpaired hP).bind fun hpaired hP _ hat => ?_
      exact agree_pure hpaired hP (.shaped hat.1)

theorem agree_compileList : ∀ ss : List Sketch,
    (∀ s ∈ ss, s.Every (GoesAlike P E onReference onReference')) →
    ∀ ⦃t a⦄, Paired t a → P t →
    Agree P E t a (Shape.linkList onReference (fun c => pure (test c)) ss)
      (compileList onReference' test ss) fun a' => List.Forall₂ (At a')
  | [], _, _, _, hpaired, hP => agree_pure hpaired hP .nil
  | shape :: more, h, _, _, hpaired, hP => by
      have hshape := agree_compile shape (h _ List.mem_cons_self)
      have hmore := agree_compileList more fun s hs => h s (List.mem_cons_of_mem _ hs)
      rw [Shape.linkList, compileList]
      refine (hshape hpaired hP).bind fun hpaired hP _ hat => ?_
      refine (hmore hpaired hP).bind fun hpaired hP hgrows hmores => ?_
      exact agree_pure hpaired hP (.cons (hat.1.keeps hgrows.toKeeps) hmores)

theorem agree_compileBranches : ∀ bs : List (Branch Json Sketch),
    (∀ b ∈ bs, b.shape.Every (GoesAlike P E onReference onReference')) →
    ∀ ⦃t a⦄, Paired t a → P t →
    Agree P E t a (Shape.linkBranches onReference (fun c => pure (test c)) bs)
      (compileBranches onReference' test bs) fun a' => List.Forall₂ (BranchAt (At a'))
  | [], _, _, _, hpaired, hP => agree_pure hpaired hP .nil
  | ⟨given, shape⟩ :: more, h, _, _, hpaired, hP => by
      have hshape := agree_compile shape (h _ List.mem_cons_self)
      have hmore := agree_compileBranches more fun b hb => h b (List.mem_cons_of_mem _ hb)
      rw [Shape.linkBranches, compileBranches]
      refine (hshape hpaired hP).bind fun {shape' place t a} hpaired hP _ hat => ?_
      have hbehind : Agree P E t a
          (do
            let more' ← Shape.linkBranches onReference (fun c => pure (test c)) more
            return ⟨given.bind test, shape'⟩ :: more')
          (do return ⟨given.bind test, place⟩ :: (← compileBranches onReference' test more))
          fun a' => List.Forall₂ (BranchAt (At a')) := by
        refine (hmore hpaired hP).bind fun hpaired hP hgrows hmores => ?_
        exact agree_pure hpaired hP (.cons ⟨rfl, hat.1.keeps hgrows.toKeeps⟩ hmores)
      cases given with
      | none => exact hbehind
      | some c => exact hbehind
end

end

/-! ## §5  Building in lockstep -/

variable {set : Schema.Set} {base s : Source} {parts room : Nat} {r : String} {tg : Schema.Target}

def onReference (set : Schema.Set) (parts room : Nat) (base : Source)
    (reference : Except SchemaError String) : Building Nat := do
  let target ← (reference.bind fun r => set.resolve r base : Except SchemaError _)
  match Table.find? target.key (← get).memo with
  | some place => return place
  | none =>
      match room with
      | 0 => throw .stackUsedUp
      | room + 1 => do
          let slot ← enter target.key
          let inner ← compileBelow set parts room target.source
            (.ofSchemaWithin parts set target.source target.schema)
          settle slot inner
          return slot

theorem compileBelow_eq_compile (room : Nat) (base : Source) (sketch : Sketch) :
    compileBelow set parts room base sketch =
      compile (onReference set parts room base) (Plan.testOf set base) sketch := by
  unfold compileBelow onReference
  cases room with
  | zero => rfl
  | succ room => rfl

section

variable {reference : Except SchemaError String}

theorem run_onReference_error {e : SchemaError}
    (h : (reference.bind fun r => set.resolve r s) = .error e) (a : Arena) :
    (onReference set parts room s reference).run.run a = (.error e, a) := by
  unfold onReference
  rw [h]
  rfl

theorem run_onReference_met (h : set.resolve r s = .ok tg) {place : Nat}
    (hmet : Table.find? tg.key a.memo = some place) :
    (onReference set parts room s (.ok r)).run.run a = (.ok place, a) := by
  have htarget : (liftM ((Except.ok r).bind fun r => set.resolve r s) : Building _).run.run a =
      (.ok tg, a) := by
    rw [show ((Except.ok r).bind fun r => set.resolve r s) = .ok tg from h]
    rfl
  unfold onReference
  refine (run_bind_ok htarget).trans ?_
  change (match Table.find? tg.key a.memo with | some _ => _ | none => _ : Building Nat).run.run a = _
  rw [hmet]
  rfl

/-- **A target that is new is compiled**, and then becomes an alias of what came out. -/
theorem run_onReference_new (h : set.resolve r s = .ok tg)
    (hfresh : Table.find? tg.key a.memo = none) :
    (onReference set parts room s (.ok r)).run.run a =
      match room with
      | 0 => (.error .stackUsedUp, a)
      | room + 1 =>
          match (compileBelow set parts room tg.source
            (.ofSchemaWithin parts set tg.source tg.schema)).run.run (a.entered tg.key) with
          | (.ok inner, a') => (.ok a.nodes.length, a'.settled a.nodes.length inner)
          | (.error e, a') => (.error e, a') := by
  have htarget : (liftM ((Except.ok r).bind fun r => set.resolve r s) : Building _).run.run a =
      (.ok tg, a) := by
    rw [show ((Except.ok r).bind fun r => set.resolve r s) = .ok tg from h]
    rfl
  unfold onReference
  refine (run_bind_ok htarget).trans ?_
  change (match Table.find? tg.key a.memo with | some _ => _ | none => _ : Building Nat).run.run a = _
  rw [hfresh]
  cases room with
  | zero => rfl
  | succ room =>
      refine (run_bind_ok (run_enter tg.key a)).trans ?_
      dsimp only
      split
      · next hrun => exact (run_bind_ok hrun).trans (run_bind_ok (run_settle _ _ _))
      · next hrun => exact run_bind_error hrun

end

/-- What is known of the schemas that are met: they lie in documents that can be met, the table and
the arena start from one sketch of them, and its references can be met and lead on to schemas that
are met. -/
structure Covers (set : Schema.Set) (base : Source) (parts : Nat) (V : Source → Json → Prop)
    (E : SchemaError → Prop) : Prop where
  source : ∀ s v, V s v → s ∈ set.sources base
  same : ∀ s v, V s v → Sketch.ofSchemaWithin parts set s v = .ofSchema set s v
  fit : ∀ s v, V s v → (Sketch.ofSchema set s v).Every (Sketch.IsFit
    (fun r => r ∈ set.possibleRefs base ∧ ∀ t, set.resolve r s = .ok t → V t.source t.schema) E)

variable {V : Source → Json → Prop} {E : SchemaError → Prop}

theorem extends_of_keeps {t' : Table Key (Option Node)} (h : Paired t a) (h' : Paired t' a')
    (hkeeps : Keeps a a') : Plan.Extends t t' := by
  intro key hcontains
  rw [h.contains] at hcontains
  rw [h'.contains]
  obtain ⟨i, hi⟩ := Option.isSome_iff_exists.mp hcontains
  exact Table.contains_of_find?_some (hkeeps.memo key i hi)

/-- **A new target is shaped and compiled in lockstep**, if its sketch is. -/
theorem agree_new (hresolve : set.resolve r s = .ok tg) (hpaired : Paired t a)
    (hfresh : Table.find? tg.key a.memo = none) {P P' : Table Key (Option Node) → Prop}
    {room room' : Nat}
    (hsame : Sketch.ofSchemaWithin parts set tg.source tg.schema =
      .ofSchema set tg.source tg.schema)
    (hbelow : Agree P' E (Table.insert tg.key none t) (a.entered tg.key)
      (Plan.linkBelow set room tg.source (.ofSchema set tg.source tg.schema))
      (compileBelow set parts room' tg.source (.ofSchema set tg.source tg.schema)) At)
    (hP : ∀ t', Plan.Extends t t' → P t') :
    Agree P E t a (Plan.onReference set (room + 1) s (.ok r))
      (onReference set parts (room' + 1) s (.ok r)) At := by
  have hnew : (Plan.onReference set (room + 1) s (.ok r)).run t = _ :=
    Plan.run_onReference_new hresolve
      ((hpaired.contains _).trans (Table.contains_of_find?_none hfresh))
  have hnew' : (onReference set parts (room' + 1) s (.ok r)).run.run a = _ :=
    run_onReference_new hresolve hfresh
  rw [hsame] at hnew'
  dsimp only at hnew hnew'
  cases hbelow with
  | error hx hy he =>
      rw [hx] at hnew
      rw [hy] at hnew'
      exact .error hnew hnew' he
  | @ok shape inner middle a' hx hy hpaired' _ hgrows hat =>
      rw [hx] at hnew
      rw [hy] at hnew'
      have hslot : Table.find? tg.key a'.memo = some a.nodes.length :=
        hgrows.memo _ _ ((find?_entered tg.key).trans (if_pos rfl))
      -- The place that was handed out says nothing yet.
      have hopen : a'.nodes[a.nodes.length]? = some .any := by
        obtain ⟨more, hmore⟩ := hgrows.cells
        have hcell : (a.entered tg.key).nodes[a.nodes.length]? = some .any :=
          getElem?_pushed.mpr (Or.inr ⟨rfl, rfl⟩)
        rw [← hmore, List.getElem?_append_left (lt_of_getElem? hcell), hcell]
      have hsettled := hpaired'.settled hslot hopen hat
      have hgrown : Grows a (a'.settled a.nodes.length inner) := grows_settled hfresh hgrows
      exact .ok hnew hnew' hsettled (hP _ (extends_of_keeps hpaired hsettled hgrown.toKeeps)) hgrown
        (.reference ((keeps_settled ⟨_, hslot⟩).memo _ _ hslot))

/-- Whether there is room on both sides for all possible targets that are not in the table and
`spare` more. -/
def HasRoom (set : Schema.Set) (base : Source) (room room' spare : Nat)
    (t : Table Key (Option Node)) : Prop :=
  Plan.unmet set base t + spare ≤ room ∧ Plan.unmet set base t + spare ≤ room'

/-- **A sketch is linked and compiled in lockstep**, if there is room for all its targets. -/
theorem agree_below (hcovers : Covers set base parts V E)
    (herror : ∀ r s e, set.resolve r s = .error e → E e) : ∀ (room : Nat) {room' spare : Nat}
    {s : Source} {sketch : Sketch}, sketch.Every (Sketch.IsFit (fun r => ∀ tg,
      set.resolve r s = .ok tg →
        V tg.source tg.schema ∧ (spare = 0 → tg.key ∈ set.possibleKeys base)) E) →
    ∀ ⦃t a⦄, Paired t a → HasRoom set base room room' spare t →
    Agree (HasRoom set base room room' spare) E t a (Plan.linkBelow set room s sketch)
      (compileBelow set parts room' s sketch) At := by
  intro room
  induction room using Nat.strongRecOn with
  | _ room ih =>
      intro room' spare s sketch hsketch t a hpaired hroom
      rw [Plan.linkBelow_eq_link, compileBelow_eq_compile]
      refine (agree_compile sketch (hsketch.mono fun x hx => ⟨?_, hx.nullable⟩) hpaired hroom).mono
        fun _ _ _ h => h.1
      rintro reference rfl t a hpaired hroom
      cases reference with
      | error e => exact .error rfl (run_onReference_error rfl a) (hx.error e rfl)
      | ok r =>
          cases hresolve : set.resolve r s with
          | error e =>
              have hfails : ((Except.ok r).bind fun r => set.resolve r s) = .error e := hresolve
              exact .error (Plan.run_onReference_error hfails t) (run_onReference_error hfails a)
                (herror r s e hresolve)
          | ok tg =>
              obtain ⟨hV, hkey⟩ := hx.reference r rfl tg hresolve
              cases hmemo : Table.find? tg.key a.memo with
              | some i =>
                  have hmet : Table.contains tg.key t = true :=
                    (hpaired.contains _).trans (Table.contains_of_find?_some hmemo)
                  exact .ok (Plan.run_onReference_met hresolve hmet)
                    (run_onReference_met hresolve hmemo) hpaired hroom (.refl a)
                    ⟨.reference hmemo, r, rfl⟩
              | none =>
                  have hfresh : Table.contains tg.key t = false :=
                    (hpaired.contains _).trans (Table.contains_of_find?_none hmemo)
                  -- A new target takes up room that is there for it.
                  have henter : Plan.unmet set base (Table.insert tg.key none t) + 1 ≤
                      Plan.unmet set base t + spare := by
                    by_cases hspare : spare = 0
                    · have hlt := Plan.unmet_insert_lt (hkey hspare) hfresh none
                      omega
                    · have hle : Plan.unmet set base (Table.insert tg.key none t) ≤
                          Plan.unmet set base t := Plan.unmet_le (Plan.extends_insert t tg.key none)
                      omega
                  obtain ⟨less, rfl⟩ : ∃ less, room = less + 1 :=
                    ⟨room - 1, by have := hroom.1; omega⟩
                  obtain ⟨less', rfl⟩ : ∃ less, room' = less + 1 :=
                    ⟨room' - 1, by have := hroom.2; omega⟩
                  have hinner : (Sketch.ofSchema set tg.source tg.schema).Every (Sketch.IsFit
                      (fun r => ∀ u, set.resolve r tg.source = .ok u →
                        V u.source u.schema ∧ (0 = 0 → u.key ∈ set.possibleKeys base)) E) :=
                    (hcovers.fit _ _ hV).mono fun y hy => ⟨fun r hr u hu =>
                      ⟨(hy.reference r hr).2 u hu, fun _ =>
                        Schema.Set.mem_possibleKeys_of_mem_possibleRefs (hcovers.source _ _ hV)
                          (hy.reference r hr).1 hu⟩, hy.error, hy.nullable⟩
                  have hbelow := ih less (Nat.lt_succ_self less) hinner (hpaired.entered hmemo)
                    (show HasRoom set base less less' 0 _ from
                      ⟨by have := hroom.1; omega, by have := hroom.2; omega⟩)
                  refine (agree_new hresolve hpaired hmemo (hcovers.same _ _ hV) hbelow
                    fun t' hextends => ?_).mono fun _ _ _ hat => ⟨hat, r, rfl⟩
                  have hle : Plan.unmet set base t' ≤ Plan.unmet set base t :=
                    Plan.unmet_le hextends
                  exact ⟨by have := hroom.1; omega, by have := hroom.2; omega⟩

/-! ## §6  Writing in lockstep -/

section

variable {α β : Type} {S : α → β → Prop} {xs : List α} {ys : List β} {f : α → Bool} {g : β → Bool}

theorem any_eq_of_forall₂ (h : List.Forall₂ S xs ys) (heq : ∀ x y, S x y → f x = g y) :
    xs.any f = ys.any g := by
  induction h with
  | nil => rfl
  | cons hxy _ ih => rw [List.any_cons, List.any_cons, heq _ _ hxy, ih]

theorem find?_of_forall₂ (h : List.Forall₂ S xs ys) (heq : ∀ x y, S x y → f x = g y) :
    Option.Rel S (xs.find? f) (ys.find? g) := by
  induction h with
  | nil => exact .none
  | @cons x y _ _ hxy _ ih =>
      rw [List.find?_cons, List.find?_cons, heq _ _ hxy]
      cases g y with
      | true => exact .some hxy
      | false => exact ih

end

section

variable {properties : List (Property Node)} {properties' : List (Property Nat)}
variable {patterns : List (Pattern × Node)} {patterns' : List (Pattern × Nat)}
variable {others : Others Node} {others' : Others Nat}
variable {w : Node → Json → Except SerializeError Written}
variable {w' : Nat → Json → Except SerializeError Written}

theorem missing?_eq (h : List.Forall₂ (PropertyAt R) properties properties')
    (required : List String) (members : List (String × Json)) :
    Plan.missing? properties' required members = Plan.missing? properties required members := by
  unfold Plan.missing?
  refine congrArg (List.find? · required) (funext fun name => ?_)
  rw [any_eq_of_forall₂ h fun p p' hp => ?_]
  rw [hp.name, hp.default]

theorem otherShape?_rel (hpatterns : List.Forall₂ (PatternAt R) patterns patterns')
    (hothers : OthersAt R others others') (name : String) :
    Option.Rel (Option.Rel R) (Plan.otherShape? patterns others name)
      (Plan.otherShape? patterns' others' name) := by
  have hfound : Option.Rel (PatternAt R) (patterns.find? fun p => p.1.isIn name)
      (patterns'.find? fun p => p.1.isIn name) :=
    find?_of_forall₂ hpatterns fun p p' hp => by rw [hp.pattern]
  unfold Plan.otherShape?
  revert hfound
  generalize patterns.find? _ = found
  generalize patterns'.find? _ = found'
  intro hfound
  cases hfound with
  | some hp => exact .some (.some hp.shape)
  | none =>
      cases hothers with
      | dropped => exact .none
      | plain => exact .some .none
      | shaped h => exact .some (.some h)

variable (hw : ∀ node i, R node i → w' i = w node)
include hw

theorem writeDeclared_eq (members : List (String × Json))
    (h : List.Forall₂ (PropertyAt R) properties properties') :
    Plan.writeDeclared w' members properties' = Plan.writeDeclared w members properties := by
  induction h with
  | nil => rfl
  | @cons p p' rest rest' hp _ ih =>
      rw [Plan.writeDeclared, Plan.writeDeclared, hp.name, hp.default, hw _ _ hp.shape, ih]

theorem writeOthers_eq (hproperties : List.Forall₂ (PropertyAt R) properties properties')
    (hpatterns : List.Forall₂ (PatternAt R) patterns patterns')
    (hothers : OthersAt R others others') (members : List (String × Json)) :
    Plan.writeOthers w' properties' patterns' others' members =
      Plan.writeOthers w properties patterns others members := by
  induction members with
  | nil => rfl
  | cons member rest ih =>
      obtain ⟨name, v⟩ := member
      have hdeclared : properties'.any (fun p => p.name == name) =
          properties.any fun p => p.name == name :=
        (any_eq_of_forall₂ hproperties fun p p' hp => by rw [hp.name]).symm
      have hshape := otherShape?_rel hpatterns hothers name
      rw [Plan.writeOthers, Plan.writeOthers, hdeclared, ih]
      revert hshape
      generalize Plan.otherShape? patterns others name = shape
      generalize Plan.otherShape? patterns' others' name = shape'
      intro hshape
      cases hshape with
      | none => rfl
      | some h =>
          cases h with
          | none => rfl
          | some h => simp only [hw _ _ h]

theorem writeObject_eq (hproperties : List.Forall₂ (PropertyAt R) properties properties')
    (hpatterns : List.Forall₂ (PatternAt R) patterns patterns')
    (hothers : OthersAt R others others') (required : List String) (v : Json) :
    Plan.writeObject w' properties' required patterns' others' v =
      Plan.writeObject w properties required patterns others v := by
  unfold Plan.writeObject
  rw [missing?_eq hproperties, writeDeclared_eq hw _ hproperties,
    writeOthers_eq hw hproperties hpatterns hothers]

theorem writeItems_eq {rest : Node} {rest' : Nat} (hrest : R rest rest') :
    ∀ {front : List Node} {front' : List Nat}, List.Forall₂ R front front' → ∀ items : List Json,
    Plan.writeItems w' rest' front' items = Plan.writeItems w rest front items
  | _, _, _, [] => by rw [Plan.writeItems, Plan.writeItems]
  | _, _, .nil, x :: xs => by
      rw [Plan.writeItems, Plan.writeItems, hw _ _ hrest, writeItems_eq hrest .nil xs]
  | _, _, .cons h hmore, x :: xs => by
      rw [Plan.writeItems, Plan.writeItems, hw _ _ h, writeItems_eq hrest hmore xs]

end

section

variable {plan : Plan} (hpaired : Paired plan.targets a)
variable (missing : Json → Except SerializeError Written) (missingLooks : Bool)
include hpaired

theorem looksLike_eq : ∀ (room : Nat) {node : Node} {i : Nat}, At a node i → ∀ v : Json,
    a.looksLike missingLooks room i v = plan.looksLike room node v := by
  intro room
  induction room with
  | zero => exact fun _ _ => rfl
  | succ room ih =>
      intro node i hat v
      rcases hat.cases with ⟨key, rfl, hkey⟩ | ⟨c, hc, -, hrenders⟩
      · rw [looksLike, Plan.looksLike]
        rcases hpaired.cell_of_target hkey with ⟨hentry, hcell⟩ | ⟨node, inner, hentry, hcell, hinner⟩
        · rw [hcell, hentry]
        · rw [hcell, hentry]
          exact ih hinner v
      · rw [looksLike, hc]
        cases hrenders with
        | union h => exact (any_eq_of_forall₂ h fun b b' hb => (ih hb.shape v).symm).symm
        | nullable h => exact congrArg (v.isNull || ·) (ih h v)
        | _ => rfl

theorem choose?_rel {branches : List (Branch Validator Node)}
    {branches' : List (Branch Validator Nat)} (h : List.Forall₂ (BranchAt (At a)) branches branches')
    (v : Json) :
    Option.Rel (At a) (plan.choose? branches v) (a.choose? missingLooks branches' v) := by
  have haccepts : ∀ b b', BranchAt (At a) b b' → plan.accepts b v = a.accepts missingLooks b' v := by
    intro b b' hb
    unfold Plan.accepts Arena.accepts
    rw [hb.test]
    cases b.test with
    | some validator => rfl
    | none => exact (looksLike_eq hpaired missingLooks _ hb.shape v).symm
  unfold Plan.choose? Arena.choose?
  have hfound := find?_of_forall₂ h haccepts
  revert hfound
  generalize branches.find? _ = found
  generalize branches'.find? _ = found'
  intro hfound
  cases hfound with
  | some hb => exact .some hb.shape
  | none =>
      cases h with
      | nil => exact .none
      | cons hb _ => exact .some hb.shape

/-- **Values are written alike**, whatever would be done where a place has no cell. -/
theorem write_eq : ∀ (room : Nat) {node : Node} {i : Nat}, At a node i → 
    a.write plan.rounding missing missingLooks room i = plan.write room node := by
  intro room
  induction room with
  | zero => exact fun _ => rfl
  | succ room ih =>
      intro node i hat
      funext v
      rcases hat.cases with ⟨key, rfl, hkey⟩ | ⟨c, hc, -, hrenders⟩
      · rw [write, Plan.write]
        rcases hpaired.cell_of_target hkey with ⟨hentry, hcell⟩ | ⟨node, inner, hentry, hcell, hinner⟩
        · rw [hcell, hentry]
        · rw [hcell, hentry]
          exact congrFun (ih hinner) v
      · have hwrite : ∀ node i, At a node i →
            a.write plan.rounding missing missingLooks room i = plan.write room node :=
          fun _ _ => ih
        rw [write, hc]
        cases hrenders with
        | object hproperties hpatterns hothers =>
            exact writeObject_eq hwrite hproperties hpatterns hothers _ v
        | array hfront hrest =>
            cases v with
            | array items => exact congrArg (Functor.map _) (writeItems_eq hwrite hrest hfront items)
            | _ => rfl
        | @union branches branches' h =>
            have hchosen := choose?_rel hpaired missingLooks h v
            rw [Plan.write]
            dsimp only
            revert hchosen
            generalize plan.choose? branches v = chosen
            generalize a.choose? missingLooks branches' v = chosen'
            intro hchosen
            cases hchosen with
            | none => rfl
            | some hat => exact congrFun (ih hat) v
        | nullable h =>
            rw [Plan.write]
            dsimp only
            rw [ih h]
        | _ => rfl

end

/-! ## §7  Every plan lies in an arena -/

/-- Whether a schema lies in a document that can be met, and only references that can be met stand
in it. -/
structure IsMet (set : Schema.Set) (base s : Source) (v : Json) : Prop where
  source : s ∈ set.sources base
  sound : v.IsSound
  refers : Schema.Throughout (Schema.Set.RefersWithin (· ∈ set.possibleRefs base)) v

theorem isMet_target (hset : set.IsSound base) (hs : s ∈ set.sources base)
    (h : set.resolve r s = .ok tg) : IsMet set base tg.source tg.schema := by
  have hsource := Schema.Set.source_mem_of_resolve hs h
  refine ⟨hsource, hset.schema hsource, fun w hw r hr => Schema.Set.mem_possibleRefs hsource ?_⟩
  exact Schema.Set.mem_refsIn_of_at? tg.found
    (Schema.mem_refsIn_of_mem_schemasIn hw (Schema.Set.mem_refsIn_of_reference? hr))

/-- The references in the sketch of a schema that is met are met. -/
theorem fit_of_isMet (hset : set.IsSound base) {v : Json} (h : IsMet set base s v) (room : Nat) :
    (Sketch.ofSchemaWithin room set s v).Every (Sketch.IsFit (fun r => r ∈ set.possibleRefs base ∧
      ∀ t, set.resolve r s = .ok t → IsMet set base t.source t.schema) fun _ => True) :=
  (Sketch.fit_ofSchemaWithin hset h.source (fun _ hr => hr) h.refers h.sound room).mono fun _ hx =>
    ⟨fun r heq => ⟨hx.reference r heq, fun _ ht => isMet_target hset h.source ht⟩, hx.error,
      hx.nullable⟩

/-- **Whether an arena is fit to be written by, from a place.** -/
structure IsProper (a : Arena) (root : Nat) : Prop where
  root : root < a.nodes.length
  /-- Every place that a cell names has a cell. -/
  places : ∀ (i : Nat) (c : Cell), a.nodes[i]? = some c → ∀ j ∈ c.places, j < a.nodes.length
  /-- A value that is passed on comes to a cell that does not pass it on. -/
  ends : ∀ i < a.nodes.length, ∃ n ≤ a.nodes.length, ∃ j < a.nodes.length,
    a.follow n i = some j ∧ a.next? j = none
  /-- A circle on which a value stays as it is passes through a union. -/
  circles : ∀ (i : Nat) (places : List Nat), List.IsChain a.Passes (i :: (places ++ [i])) →
    ∃ j ∈ i :: places, a.IsUnion j

theorem WellFormed.isProper (h : a.WellFormed) (hi : i < a.nodes.length) : a.IsProper i where
  root := hi
  places := h.places
  ends := fun _ hj => exists_follow h hj
  circles := fun _ _ hcircle => exists_union_of_circle h hcircle

/-- **A plan and its arena are built in lockstep**, if there is room for all targets. -/
theorem agree_build (hset : set.IsSound base) {schema : Json} (hsound : schema.IsSound)
    (hroom : set.targetBound base ≤ room) : Agree (HasRoom set base (set.targetBound base) room 1)
      (fun _ => True) [] {}
      (Plan.linkBelow set (set.targetBound base) base (.ofSchema set base schema))
      (compileBelow set Sketch.stackRoom room base (.ofSchema set base schema)) At := by
  have hbase : base ∈ set.sources base := List.mem_cons_self
  have hcovers : Covers set base Sketch.stackRoom (IsMet set base) fun _ => True :=
    ⟨fun _ _ h => h.source, fun _ _ _ => rfl, fun _ _ h => fit_of_isMet hset h _⟩
  have hroot : (Sketch.ofSchema set base schema).Every (Sketch.IsFit (fun r => ∀ tg,
      set.resolve r base = .ok tg →
        IsMet set base tg.source tg.schema ∧ (1 = 0 → tg.key ∈ set.possibleKeys base)) fun _ => True) := by
    have hany : ∀ r tg, set.resolve r base = .ok tg →
        IsMet set base tg.source tg.schema ∧ (1 = 0 → tg.key ∈ set.possibleKeys base) :=
      fun r tg ht => ⟨isMet_target hset hbase ht, fun h => by cases h⟩
    exact Sketch.fit_ofSchemaWithin hset hbase (fun r _ => hany r) (fun _ _ r _ => hany r) hsound _
  have hempty : HasRoom set base (set.targetBound base) room 1 [] := by
    have hle : Plan.unmet set base [] ≤ (set.possibleKeys base).length := List.length_filter_le _ _
    have hlt := Schema.Set.length_possibleKeys_lt set base
    exact ⟨by omega, by omega⟩
  exact agree_below hcovers (fun _ _ _ _ => trivial) _ hroot paired_empty hempty

/-- Building a plan comes to an error if building its arena does, and to the same. -/
theorem map_build (hset : set.IsSound base) {schema : Json} (hsound : schema.IsSound)
    (hroom : set.targetBound base ≤ room) (rounding : Rounding) :
    (Plan.build set base schema rounding).map (fun _ => ()) =
      (Arena.build set Sketch.stackRoom room base schema).1.map fun _ => () := by
  change _ = ((compileBelow set Sketch.stackRoom room base (.ofSchema set base schema)).run.run {}).1.map _
  unfold Plan.build
  cases agree_build hset hsound hroom with
  | error hx hy => simp only [hx, hy]; rfl
  | ok hx hy => simp only [hx, hy]; rfl

/-- **Every plan lies in an arena.**  There each place that is named has a cell, so that what would
be done where there is none does not matter for what is written, and a value that is passed on comes
to a cell that looks at it, or goes round through a union. -/
theorem lies_in_arena (hset : set.IsSound base) {schema : Json} (hsound : schema.IsSound)
    {rounding : Rounding} {plan : Plan} (h : Plan.build set base schema rounding = .ok plan)
    (hroom : set.targetBound base ≤ room) : ∃ root arena,
      Arena.build set Sketch.stackRoom room base schema = (.ok root, arena) ∧
      arena.IsProper root ∧
      ∀ missing missingLooks v,
        (∀ depth, arena.write plan.rounding missing missingLooks depth root v =
          plan.write depth plan.root v) ∧
        ∀ depth, arena.looksLike missingLooks depth root v = plan.looksLike depth plan.root v := by
  obtain ⟨⟨root, targets⟩, hlink, h⟩ := Result.bind_eq_ok.mp h
  cases h
  cases agree_build hset hsound hroom with
  | error hx => rw [hlink] at hx; cases hx
  | ok hx hy hpaired _ _ hat =>
      rw [hlink] at hx
      cases hx
      refine ⟨_, _, hy, hpaired.formed.isProper (hat.lt hpaired.formed), fun missing missingLooks v =>
        ⟨fun depth => ?_, fun depth => ?_⟩⟩
      · exact congrFun (write_eq hpaired missing missingLooks depth hat) v
      · exact looksLike_eq hpaired missingLooks depth hat v

theorem lies_in_arena_tree : ∃ plan root arena,
    Plan.build (.ofStores [] 0) (.ofInline treeSchema) treeSchema .ceil = .ok plan ∧
      Arena.build (.ofStores [] 0) Sketch.stackRoom 9 (.ofInline treeSchema) treeSchema =
        (.ok root, arena) ∧
      arena.IsProper root ∧
      ∀ missing v, arena.write .ceil missing true 257 root v = plan.written v := by
  have hbuild : ((Plan.build (.ofStores [] 0) (.ofInline treeSchema) treeSchema .ceil).toOption.map
      (·.rounding)) = some .ceil := by
    decide +kernel
  obtain ⟨plan, hplan, hrounding⟩ := Option.map_eq_some_iff.mp hbuild
  rw [Result.toOption_eq_some] at hplan
  obtain ⟨root, arena, harena, hproper, hwrites⟩ :=
    lies_in_arena isSound_treeSet isSound_treeSchema hplan (show _ ≤ 9 by decide +kernel)
  refine ⟨plan, root, arena, hplan, harena, hproper, fun missing v => ?_⟩
  have hwrite := (hwrites missing true v).1 257
  rwa [hrounding] at hwrite

end ReplySchema.Serializer.Arena

import Mathlib.Logic.Relation
import ReplySchema.Proofs.Schema.Bundling

/-! # The way down through schemas and targets

While a schema is being inlined one stands at a schema of some document, inside the targets that
are being inlined there (`Stage`).  From it one goes down to a schema inside, or, if it is a
reference, on to the target (`Goes`).

Bundling goes this way as long as no target is entered again inside itself and there are not too
many of them (`Stage.IsWithin`).  So all that is shown of bundling goes by induction on stages
(`stage_induct`), with one equation for each kind of stage: data (`bundleAt_data`), references
(`bundleAt_reference`) and schemas that are put together again (`bundleAt_object`).
-/

set_option autoImplicit false

namespace ReplySchema.Schema

/-! ## §1  Stages -/

/-- A schema with its document and the targets that are being inlined around it, the innermost
first. -/
structure Stage where
  around : List Key
  source : Source
  schema : Json

def Stage.start (s : Source) (v : Json) : Stage := ⟨[], s, v⟩

def Target.stage (t : Target) (around : List Key) : Stage := ⟨t.key :: around, t.source, t.schema⟩

/-- Whether a stage is inside different targets, and at most so many. -/
structure Stage.IsWithin (limit : Nat) (a : Stage) : Prop where
  nodup : a.around.Nodup
  bound : a.around.length ≤ limit

namespace Set

/-- One step down: to a schema inside, or on to the target of a reference. -/
inductive Goes (set : Set) : Stage → Stage → Prop where
  | inside {around : List Key} {s : Source} {members : List (String × Json)} {c : Json}
      (hnone : reference? (.object members) = none) (hc : c ∈ inside members) :
      Goes set ⟨around, s, .object members⟩ ⟨around, s, c⟩
  | target {around : List Key} {s : Source} {v : Json} {r : String} {t : Target}
      (hr : reference? v = some r) (ht : set.resolve r s = .ok t) :
      Goes set ⟨around, s, v⟩ (t.stage around)

/-- Where one comes to from a stage. -/
abbrev ComesTo (set : Set) : Stage → Stage → Prop := Relation.ReflTransGen (Goes set)

variable {set : Set} {limit : Nat} {around : List Key} {s : Source} {v : Json} {a b : Stage}

theorem isWithin_start : (Stage.start s v).IsWithin limit := ⟨List.nodup_nil, Nat.zero_le _⟩

/-- Further down there are more targets around, never others. -/
theorem suffix_of_comesTo (h : ComesTo set a b) : a.around <:+ b.around := by
  induction h with
  | refl => exact List.suffix_refl _
  | tail _ hgoes ih =>
      cases hgoes with
      | inside => exact ih
      | target => exact ih.trans (List.suffix_cons _ _)

theorem isWithin_of_comesTo (hb : b.IsWithin limit) (h : ComesTo set a b) : a.IsWithin limit :=
  have hsuffix := suffix_of_comesTo h
  ⟨hb.nodup.sublist hsuffix.sublist, Nat.le_trans hsuffix.length_le hb.bound⟩

theorem comesTo_data (hv : v.isObject = false) :
    ComesTo set ⟨around, s, v⟩ b ↔ b = ⟨around, s, v⟩ := by
  constructor
  · intro h
    rcases Relation.ReflTransGen.cases_head h with heq | ⟨c, hgoes, -⟩
    · exact heq.symm
    · cases hgoes with
      | inside => cases hv
      | target hr =>
          cases v with
          | object members => cases hv
          | _ => cases hr
  · rintro rfl
    exact .refl

theorem comesTo_reference {r : String} {t : Target} (hr : reference? v = some r)
    (ht : set.resolve r s = .ok t) : ComesTo set ⟨around, s, v⟩ b ↔
      b = ⟨around, s, v⟩ ∨ ComesTo set (t.stage around) b := by
  constructor
  · intro h
    rcases Relation.ReflTransGen.cases_head h with heq | ⟨c, hgoes, hrest⟩
    · exact Or.inl heq.symm
    · cases hgoes with
      | inside hnone =>
          rw [hnone] at hr
          cases hr
      | target hr' ht' =>
          rw [hr] at hr'
          cases hr'
          rw [ht] at ht'
          cases ht'
          exact Or.inr hrest
  · rintro (rfl | h)
    · exact .refl
    · exact .head (.target hr ht) h

theorem comesTo_object {members : List (String × Json)}
    (hnone : reference? (.object members) = none) :
    ComesTo set ⟨around, s, .object members⟩ b ↔
      b = ⟨around, s, .object members⟩ ∨ ∃ c ∈ inside members, ComesTo set ⟨around, s, c⟩ b := by
  constructor
  · intro h
    rcases Relation.ReflTransGen.cases_head h with heq | ⟨c, hgoes, hrest⟩
    · exact Or.inl heq.symm
    · cases hgoes with
      | inside _ hc => exact Or.inr ⟨_, hc, hrest⟩
      | target hr =>
          rw [hnone] at hr
          cases hr
  · rintro (rfl | ⟨c, hc, h⟩)
    · exact .refl
    · exact .head (.inside hnone hc) h

/-- The check goes wherever inlining does. -/
theorem walks_of_comesTo (h : ComesTo set a b) : Walks set a.source a.schema b.source b.schema := by
  induction h with
  | refl => exact .here
  | tail _ hgoes ih =>
      cases hgoes with
      | inside _ hc => exact ih.held (held_of_mem_inside hc)
      | target hr ht => exact ih.target hr ht

/-- **The induction on stages.**  Inside a schema one goes down to smaller ones, and through a
reference to a target that is further in, as long as the stage there is within the limit. -/
theorem stage_induct (limit : Nat) {P : Stage → Prop}
    (data : ∀ around s v, Stage.IsWithin limit ⟨around, s, v⟩ → v.isObject = false →
      P ⟨around, s, v⟩)
    (reference : ∀ around s v r, Stage.IsWithin limit ⟨around, s, v⟩ → reference? v = some r →
      (∀ t : Target, (t.stage around).IsWithin limit → P (t.stage around)) →
      P ⟨around, s, v⟩)
    (object : ∀ around s members, Stage.IsWithin limit ⟨around, s, .object members⟩ →
      reference? (.object members) = none → (∀ c ∈ inside members, P ⟨around, s, c⟩) →
      P ⟨around, s, .object members⟩) :
    ∀ a : Stage, a.IsWithin limit → P a := by
  intro a
  -- there are ever less targets to come, and between two of them the schemas get smaller
  induction hroom : limit - a.around.length using Nat.strongRecOn generalizing a with
  | _ room ihroom =>
      induction hsize : sizeOf a.schema using Nat.strongRecOn generalizing a with
      | _ size ihsize =>
          intro ha
          obtain ⟨around, s, v⟩ := a
          cases hr : reference? v with
          | some r =>
              refine reference around s v r ha hr fun t hwithin => ?_
              have hbound : around.length + 1 ≤ limit := hwithin.bound
              have hless : limit - (t.key :: around).length < room := by
                rw [List.length_cons]
                dsimp only at hroom
                omega
              exact ihroom _ hless (t.stage around) rfl hwithin
          | none =>
              cases v with
              | object members =>
                  refine object around s members ha hr fun c hc => ?_
                  have hsmaller : sizeOf c < size :=
                    hsize ▸ sizeOf_lt_of_held (held_of_mem_inside hc)
                  exact ihsize (sizeOf c) hsmaller ⟨around, s, c⟩ hroom rfl ⟨ha.nodup, ha.bound⟩
              | _ => exact data around s _ ha rfl

/-! ## §2  What bundling makes at a stage -/

def bundleAt (set : Set) (a : Stage) : Except SchemaError Json :=
  set.bundleBelow (bundleDepth - a.around.length) a.around a.source a.schema

theorem bundleAt_data (hv : v.isObject = false) : set.bundleAt ⟨around, s, v⟩ = .ok v := by
  unfold bundleAt
  rw [bundleBelow_eq_inline]
  cases v with
  | object members => cases hv
  | _ => rfl

/-- A reference becomes its bundled target, if one may go there, and else the permissive schema. -/
theorem bundleAt_reference {r : String} {t : Target}
    (ha : Stage.IsWithin bundleDepth ⟨around, s, v⟩) (hr : reference? v = some r)
    (ht : set.resolve r s = .ok t) :
    ((t.stage around).IsWithin bundleDepth →
      set.bundleAt ⟨around, s, v⟩ = set.bundleAt (t.stage around)) ∧
    (¬ (t.stage around).IsWithin bundleDepth →
      set.bundleAt ⟨around, s, v⟩ = .ok permissive) := by
  -- The room that is left and the targets around always make up the bound.
  have hbundle : set.bundleAt ⟨around, s, v⟩ =
      set.replacement (bundleDepth - around.length) around s r := by
    unfold bundleAt
    rw [bundleBelow_eq_inline]
    cases v with
    | object members => simp only [inline, hr]
    | _ => cases hr
  rw [hbundle]
  unfold replacement
  rw [ht]
  constructor
  · intro hwithin
    obtain ⟨hnew, -⟩ := List.nodup_cons.mp hwithin.nodup
    have hbound : around.length + 1 ≤ bundleDepth := hwithin.bound
    obtain ⟨room, hroom⟩ : ∃ room, bundleDepth - around.length = room + 1 :=
      ⟨bundleDepth - around.length - 1, by omega⟩
    have hless : bundleDepth - (t.key :: around).length = room := by
      rw [List.length_cons]
      omega
    rw [hroom, bundleAt, Target.stage, hless]
    exact if_neg hnew
  · intro hnot
    by_cases hentered : t.key ∈ around
    · exact if_pos hentered
    · have hroom : bundleDepth - around.length = 0 := by
        by_contra hroom
        refine hnot ⟨List.nodup_cons.mpr ⟨hentered, ha.nodup⟩, ?_⟩
        change around.length + 1 ≤ bundleDepth
        omega
      rw [hroom]
      exact if_neg hentered

theorem bundleAt_object {members : List (String × Json)} {j : Json}
    (hnone : reference? (.object members) = none)
    (h : set.bundleAt ⟨around, s, .object members⟩ = .ok j) :
    ∃ members', j = .object members' ∧
      InlinesMembers (fun c c' => set.bundleAt ⟨around, s, c⟩ = .ok c') members members' := by
  unfold bundleAt at h ⊢
  simp only [bundleBelow_eq_inline, inline, hnone] at h ⊢
  obtain ⟨members', hmembers, h⟩ := Result.bind_eq_ok.mp h
  rw [Result.pure_eq_ok] at h
  exact ⟨members', h.symm, inlinesMembers_of_eq_ok hmembers⟩

/-- It can be put together if something can be made of each schema inside. -/
theorem exists_bundleAt_object {members : List (String × Json)}
    (hnone : reference? (.object members) = none)
    (h : ∀ c ∈ inside members, ∃ j, set.bundleAt ⟨around, s, c⟩ = .ok j) :
    ∃ j, set.bundleAt ⟨around, s, .object members⟩ = .ok j := by
  unfold bundleAt at h ⊢
  simp only [bundleBelow_eq_inline] at h ⊢
  obtain ⟨members', hmembers⟩ := exists_inlineMembers h
  refine ⟨.object members', ?_⟩
  simp only [inline, hnone, hmembers]
  rfl

end Set

end ReplySchema.Schema

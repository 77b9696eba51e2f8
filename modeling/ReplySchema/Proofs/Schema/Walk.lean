import Mathlib.Data.List.Perm.Subperm
import ReplySchema.Proofs.Schema.Occurrences
import ReplySchema.Proofs.Schema.Merging
import ReplySchema.Schema.Check

/-! # What the check of references says

From a schema one comes to the schemas that its keywords hold and to the targets of its
references, and so on from there (`Walks`).  The check enters each target once and has room for
so many; it passes if and only if every reference that one can come to leads somewhere
(`check_eq_ok_iff`).

For one direction, the targets that were entered are closed: the references inside each of them
lead to targets that were entered too (`Settled`).  For the other, the targets on the way down are
different, and there are no more of them than there is room for.
-/

set_option autoImplicit false

namespace ReplySchema.Schema

/-! ## §1  The schemas inside a schema -/

def schemasIn (schema : Json) : List Json := (positions "" schema).map (·.2)

mutual
theorem map_positions (pointer : String) : ∀ v, (positions pointer v).map (·.2) = schemasIn v
  | .object members => by
      unfold schemasIn
      rw [positions, positions, List.map_cons, List.map_cons, map_memberPositions pointer members,
        map_memberPositions "" members]
  | .null | .bool _ | .number _ | .string _ | .array _ => by simp [schemasIn, positions]

theorem map_memberPositions (pointer : String) : ∀ members,
    (memberPositions pointer members).map (·.2) =
      members.flatMap fun m => (heldUnder m.1 m.2).flatMap schemasIn
  | [] => by simp [memberPositions]
  | (key, value) :: rest => by
      rw [memberPositions.eq_def]
      simp only [List.map_append, List.flatMap_cons, map_memberPositions pointer rest]
      refine congrArg (· ++ _) ?_
      unfold heldUnder
      cases holds key with
      | schema => simp [map_positions (Pointer.child pointer key) value]
      | named =>
          cases value with
          | object entries => simp [map_namedPositions (Pointer.child pointer key) entries]
          | _ => rfl
      | list =>
          cases value with
          | array items => simp [map_listPositions (Pointer.child pointer key) 0 items]
          | _ => rfl
      | either =>
          cases value with
          | array items => simp [map_listPositions (Pointer.child pointer key) 0 items]
          | null => simp [map_positions (Pointer.child pointer key) .null]
          | bool b => simp [map_positions (Pointer.child pointer key) (.bool b)]
          | number n => simp [map_positions (Pointer.child pointer key) (.number n)]
          | string s => simp [map_positions (Pointer.child pointer key) (.string s)]
          | object entries => simp [map_positions (Pointer.child pointer key) (.object entries)]
      | data => rfl

theorem map_namedPositions (pointer : String) : ∀ entries,
    (namedPositions pointer entries).map (·.2) = (entries.map (·.2)).flatMap schemasIn
  | [] => by simp [namedPositions]
  | (name, value) :: rest => by
      rw [namedPositions, List.map_append, map_positions, map_namedPositions pointer rest,
        List.map_cons, List.flatMap_cons]

theorem map_listPositions (pointer : String) (index : Nat) : ∀ items,
    (listPositions pointer index items).map (·.2) = items.flatMap schemasIn
  | [] => by simp [listPositions]
  | value :: rest => by
      rw [listPositions, List.map_append, map_positions, map_listPositions pointer (index + 1) rest,
        List.flatMap_cons]
end

/-- **The positions of a schema**: the schema itself, and those of the schemas that it holds. -/
theorem schemasIn_eq (v : Json) : schemasIn v = v :: (held v).flatMap schemasIn := by
  cases v with
  | object members =>
      rw [schemasIn, positions, List.map_cons, map_memberPositions, held, List.flatMap_assoc]
      rfl
  | _ => simp [schemasIn, positions, held, Json.members]

theorem mem_schemasIn_self (v : Json) : v ∈ schemasIn v := by
  rw [schemasIn_eq]
  exact List.mem_cons_self

theorem mem_schemasIn_of_held {v c w : Json} (hc : c ∈ held v) (hw : w ∈ schemasIn c) :
    w ∈ schemasIn v := by
  rw [schemasIn_eq]
  exact List.mem_cons_of_mem _ (List.mem_flatMap.mpr ⟨c, hc, hw⟩)

theorem mem_schemasIn_iff {v w : Json} :
    w ∈ schemasIn v ↔ w = v ∨ ∃ c ∈ held v, w ∈ schemasIn c := by
  rw [schemasIn_eq, List.mem_cons, List.mem_flatMap]

theorem mem_refsIn_of_mem_schemasIn {v w : Json} (hw : w ∈ schemasIn v) {r : String}
    (hr : r ∈ Set.refsIn w) : r ∈ Set.refsIn v := by
  induction hsize : sizeOf v using Nat.strongRecOn generalizing v with
  | _ n ih =>
      subst hsize
      rcases mem_schemasIn_iff.mp hw with rfl | ⟨c, hc, hw⟩
      · exact hr
      · exact mem_refsIn_of_held hc (ih _ (sizeOf_lt_of_held hc) hw rfl)

namespace Set

/-! ## §2  Where one comes to -/

/-- The schemas that one comes to from a schema `v₀` of `s₀`, each with its document. -/
inductive Walks (set : Set) (s₀ : Source) (v₀ : Json) : Source → Json → Prop where
  | here : Walks set s₀ v₀ s₀ v₀
  | held {s : Source} {v c : Json} (h : Walks set s₀ v₀ s v) (hc : c ∈ held v) :
      Walks set s₀ v₀ s c
  | target {s : Source} {v : Json} {r : String} {t : Target} (h : Walks set s₀ v₀ s v)
      (hr : reference? v = some r) (ht : set.resolve r s = .ok t) :
      Walks set s₀ v₀ t.source t.schema

/-- Whether every reference that one comes to leads somewhere. -/
def Followable (set : Set) (s : Source) (v : Json) : Prop :=
  ∀ s' v', Walks set s v s' v' → ∀ r, reference? v' = some r → ∃ t, set.resolve r s' = .ok t

variable {set : Set} {base : Source}

theorem Walks.trans {s₀ s s' : Source} {v₀ v v' : Json} (h : Walks set s₀ v₀ s v)
    (h' : Walks set s v s' v') : Walks set s₀ v₀ s' v' := by
  induction h' with
  | here => exact h
  | held _ hc ih => exact ih.held hc
  | target _ hr ht ih => exact ih.target hr ht

theorem Walks.source {s₀ s : Source} {v₀ v : Json} (h : Walks set s₀ v₀ s v)
    (hs₀ : s₀ ∈ set.sources base) : s ∈ set.sources base := by
  induction h with
  | here => exact hs₀
  | held _ _ ih => exact ih
  | target _ _ ht ih => exact source_mem_of_resolve ih ht

/-- The references that one comes to stand in the documents, if the first ones do. -/
theorem Walks.refsIn {s₀ s : Source} {v₀ v : Json} (h : Walks set s₀ v₀ s v)
    (h₀ : ∀ r ∈ refsIn v₀, r ∈ Set.refsIn s₀.root) : ∀ r ∈ Set.refsIn v, r ∈ Set.refsIn s.root := by
  induction h with
  | here => exact h₀
  | held _ hc ih => exact fun r hr => ih r (mem_refsIn_of_held hc hr)
  | @target _ _ _ t _ _ _ _ => exact fun r hr => mem_refsIn_of_at? t.found hr

theorem walks_of_mem_schemasIn {s : Source} {v w : Json} (hw : w ∈ schemasIn v) :
    Walks set s v s w := by
  induction hsize : sizeOf v using Nat.strongRecOn generalizing v with
  | _ n ih =>
      subst hsize
      rcases mem_schemasIn_iff.mp hw with rfl | ⟨c, hc, hw⟩
      · exact .here
      · exact (Walks.held .here hc).trans (ih _ (sizeOf_lt_of_held hc) hw rfl)

theorem Followable.walk {s s' : Source} {v v' : Json} (h : set.Followable s v)
    (hwalk : Walks set s v s' v') : set.Followable s' v' :=
  fun s'' v'' h' => h s'' v'' (hwalk.trans h')

/-! ## §3  A check that passes -/

/-- Whether each reference at a position of a schema leads to a target that was entered. -/
def Settled (set : Set) (entered : List Key) (s : Source) (v : Json) : Prop :=
  ∀ w ∈ schemasIn v, ∀ r, reference? w = some r → ∃ t, set.resolve r s = .ok t ∧ t.key ∈ entered

/-- Whether more targets were entered, and those that came in are settled. -/
structure Enters (set : Set) (base : Source) (before after : List Key) : Prop where
  kept : ∀ k ∈ before, k ∈ after
  settled : ∀ k ∈ after, k ∈ before ∨
    ∃ t : Target, t.key = k ∧ t.source ∈ set.sources base ∧ set.Settled after t.source t.schema

theorem Settled.mono {before after : List Key} {s : Source} {v : Json}
    (h : set.Settled before s v) (hkept : ∀ k ∈ before, k ∈ after) : set.Settled after s v :=
  fun w hw r hr =>
    have ⟨t, ht, hkey⟩ := h w hw r hr
    ⟨t, ht, hkept _ hkey⟩

theorem Enters.refl (entered : List Key) : set.Enters base entered entered :=
  ⟨fun _ h => h, fun _ h => Or.inl h⟩

theorem Enters.trans {a b c : List Key} (h : set.Enters base a b) (h' : set.Enters base b c) :
    set.Enters base a c := by
  refine ⟨fun k hk => h'.kept k (h.kept k hk), fun k hk => ?_⟩
  rcases h'.settled k hk with hk | hnew
  · rcases h.settled k hk with hk | ⟨t, hkey, hsource, hsettled⟩
    · exact Or.inl hk
    · exact Or.inr ⟨t, hkey, hsource, hsettled.mono h'.kept⟩
  · exact Or.inr hnew

/-- What the check does behind a reference to a target that is new. -/
def enter (set : Set) (room : Nat) (base : Source) (r : String) (t : Target)
    (visited : List Key) : Except SchemaError (List Key) :=
  match room with
  | 0 => throw (.refNotFound r base.id)
  | room + 1 => set.checkFrom room t.source t.schema (t.key :: visited)

theorem checkFrom_eq_foldlM (room : Nat) (s : Source) (v : Json) (visited : List Key) :
    set.checkFrom room s v visited =
      (positions "" v).foldlM (set.checkPosition s (set.enter room s)) visited := by
  cases room with
  | zero => rfl
  | succ room => rfl

section
variable {s : Source} {enter : String → Target → List Key → Except SchemaError (List Key)}
variable {visited : List Key} {position : String × Json}

theorem checkPosition_of_none (hr : reference? position.2 = none) :
    set.checkPosition s enter visited position = .ok visited := by
  unfold checkPosition
  rw [hr]
  rfl

/-- A reference has to lead somewhere, and only a new target is entered. -/
theorem checkPosition_of_some {r : String} (hr : reference? position.2 = some r) :
    set.checkPosition s enter visited position =
      (set.resolve r s).bind fun t =>
        if t.key ∈ visited then .ok visited else enter r t visited := by
  unfold checkPosition
  rw [hr]
  rfl

end

/-- Going through the positions, the targets that are entered are settled, if they are so at each
of them. -/
theorem settled_foldlM {room : Nat} {s : Source}
    (hposition : ∀ position before after,
      set.checkPosition s (set.enter room s) before position = .ok after →
      set.Enters base before after ∧ ∀ r, reference? position.2 = some r →
        ∃ t, set.resolve r s = .ok t ∧ t.key ∈ after) :
    ∀ (ps : List (String × Json)) {before after : List Key},
      ps.foldlM (set.checkPosition s (set.enter room s)) before = .ok after →
      set.Enters base before after ∧ ∀ p ∈ ps, ∀ r, reference? p.2 = some r →
        ∃ t, set.resolve r s = .ok t ∧ t.key ∈ after := by
  intro ps
  induction ps with
  | nil =>
      intro before after h
      rw [List.foldlM_nil, Result.pure_eq_ok] at h
      exact ⟨h ▸ .refl _, fun _ hp => by cases hp⟩
  | cons p rest ih =>
      intro before after h
      rw [List.foldlM_cons, Result.bind_eq_ok] at h
      obtain ⟨middle, hfirst, hrest⟩ := h
      obtain ⟨henters, hhere⟩ := hposition p before middle hfirst
      obtain ⟨henters', hbehind⟩ := ih hrest
      refine ⟨henters.trans henters', fun q hq r hr => ?_⟩
      rcases List.mem_cons.mp hq with rfl | hq
      · obtain ⟨t, ht, hkey⟩ := hhere r hr
        exact ⟨t, ht, henters'.kept _ hkey⟩
      · exact hbehind q hq r hr

/-- At one position the target is entered, and what is entered behind it is settled if that is so of
each check with less room. -/
theorem settled_checkPosition {room : Nat} {s : Source} (hs : s ∈ set.sources base)
    (hroom : ∀ m < room, ∀ {s : Source} {v : Json} {before after : List Key},
      s ∈ set.sources base → set.checkFrom m s v before = .ok after →
      set.Enters base before after ∧ set.Settled after s v)
    (position : String × Json) (before after : List Key)
    (h : set.checkPosition s (set.enter room s) before position = .ok after) :
    set.Enters base before after ∧ ∀ r, reference? position.2 = some r →
      ∃ t, set.resolve r s = .ok t ∧ t.key ∈ after := by
  cases href : reference? position.2 with
  | none =>
      rw [checkPosition_of_none href] at h
      cases h
      exact ⟨.refl _, fun r hr => by cases hr⟩
  | some r =>
      rw [checkPosition_of_some href] at h
      obtain ⟨t, ht, h⟩ := Result.bind_eq_ok.mp h
      have hleads : ∀ {after : List Key}, t.key ∈ after → ∀ r', some r = some r' →
          ∃ t, set.resolve r' s = .ok t ∧ t.key ∈ after := fun hkey r' hr' => by
        cases hr'
        exact ⟨t, ht, hkey⟩
      split at h
      · next hvisited =>
          cases h
          exact ⟨.refl _, hleads hvisited⟩
      · cases room with
        | zero => exact absurd h Result.throw_ne_ok
        | succ room =>
            have hsource := source_mem_of_resolve hs ht
            obtain ⟨henters, hsettled⟩ := hroom room (Nat.lt_succ_self room) hsource h
            refine ⟨⟨fun k hk => henters.kept k (List.mem_cons_of_mem _ hk), fun k hk => ?_⟩,
              hleads (henters.kept _ List.mem_cons_self)⟩
            rcases henters.settled k hk with hk | hnew
            · rcases List.mem_cons.mp hk with rfl | hk
              · exact Or.inr ⟨t, rfl, hsource, hsettled⟩
              · exact Or.inl hk
            · exact Or.inr hnew

/-- **What was entered is settled**, and so is the schema that was checked. -/
theorem settled_checkFrom : ∀ (room : Nat) {s : Source} {v : Json} {before after : List Key},
    s ∈ set.sources base → set.checkFrom room s v before = .ok after →
    set.Enters base before after ∧ set.Settled after s v := by
  intro room
  induction room using Nat.strongRecOn with
  | _ room ih =>
      intro s v before after hs h
      rw [checkFrom_eq_foldlM] at h
      obtain ⟨henters, hpositions⟩ := settled_foldlM (settled_checkPosition hs ih) _ h
      refine ⟨henters, fun w hw r hr => ?_⟩
      obtain ⟨p, hp, rfl⟩ := List.mem_map.mp hw
      exact hpositions p hp r hr

/-- Two targets of one identity are the same, in documents that are told apart. -/
theorem schema_eq_of_key {t t' : Target} (hsource : t'.source = t.source)
    (hkey : t'.key = t.key) : t'.schema = t.schema := by
  have hpointer : t'.pointer = t.pointer := congrArg Prod.snd hkey
  have hfound := t'.found
  rw [hsource, hpointer, t.found] at hfound
  exact (Option.some.inj hfound).symm

theorem followable_of_check (hidentified : set.IsIdentified base)
    (h : set.check base = .ok ()) : set.Followable base base.root := by
  obtain ⟨entered, hcheck, -⟩ := Result.bind_eq_ok.mp h
  have hmem : base ∈ set.sources base := List.mem_cons_self
  obtain ⟨henters, hroot⟩ := settled_checkFrom _ hmem hcheck
  have hsettled : ∀ s v, Walks set base base.root s v →
      s ∈ set.sources base ∧ set.Settled entered s v := by
    intro s v hwalk
    induction hwalk with
    | here => exact ⟨hmem, hroot⟩
    | held _ hc ih => exact ⟨ih.1, fun w hw => ih.2 w (mem_schemasIn_of_held hc hw)⟩
    | @target s v r t _ hr ht ih =>
        have hsource := source_mem_of_resolve ih.1 ht
        refine ⟨hsource, ?_⟩
        obtain ⟨t', ht', hkey⟩ := ih.2 v (mem_schemasIn_self v) r hr
        rw [ht] at ht'
        cases ht'
        obtain ⟨t', hkey', hsource', hsettled⟩ :=
          (henters.settled _ hkey).resolve_left List.not_mem_nil
        have heq : t'.source = t.source :=
          hidentified _ hsource' _ hsource (congrArg Prod.fst hkey')
        rw [heq, schema_eq_of_key heq hkey'] at hsettled
        exact hsettled
  intro s v hwalk r hr
  obtain ⟨t, ht, -⟩ := (hsettled s v hwalk).2 v (mem_schemasIn_self v) r hr
  exact ⟨t, ht⟩

/-! ## §4  A check of what can be followed -/

/-- Whether there is room for all targets that were not entered yet. -/
structure Fits (set : Set) (base : Source) (room : Nat) (visited : List Key) : Prop where
  nodup : visited.Nodup
  possible : visited ⊆ set.possibleKeys base
  bound : (set.possibleKeys base).length ≤ room + visited.length

/-- A target that was not entered yet still fits in. -/
theorem Fits.enter {room : Nat} {visited : List Key} (h : set.Fits base room visited) {k : Key}
    (hk : k ∈ set.possibleKeys base) (hnew : k ∉ visited) :
    ∃ less, room = less + 1 ∧ set.Fits base less (k :: visited) := by
  have hnodup : (k :: visited).Nodup := List.nodup_cons.mpr ⟨hnew, h.nodup⟩
  have hpossible : k :: visited ⊆ set.possibleKeys base :=
    List.cons_subset.mpr ⟨hk, h.possible⟩
  have hlength : visited.length + 1 ≤ (set.possibleKeys base).length :=
    (List.subperm_of_subset hnodup hpossible).length_le
  have hbound := h.bound
  cases room with
  | zero => omega
  | succ less =>
      refine ⟨less, rfl, hnodup, hpossible, ?_⟩
      rw [List.length_cons]
      omega

/-- **The check of what can be followed passes**, as long as there is room. -/
theorem exists_checkFrom (hfollowable : set.Followable base base.root) :
    ∀ (room : Nat) {s : Source} {v : Json} {visited : List Key},
      Walks set base base.root s v → set.Fits base room visited →
      ∃ after, set.checkFrom room s v visited = .ok after ∧ set.Fits base room after := by
  intro room
  induction room using Nat.strongRecOn with
  | _ room ih =>
      intro s v visited hwalk hfits
      rw [checkFrom_eq_foldlM]
      refine Result.exists_foldlM_eq_ok (set.Fits base room) hfits fun p hp visited hfits => ?_
      have hposition : Walks set base base.root s p.2 :=
        hwalk.trans (walks_of_mem_schemasIn (List.mem_map_of_mem hp))
      cases hr : reference? p.2 with
      | none => exact ⟨visited, checkPosition_of_none hr, hfits⟩
      | some r =>
          obtain ⟨t, ht⟩ := hfollowable s p.2 hposition r hr
          have hin : r ∈ refsIn s.root :=
            hposition.refsIn (fun _ h => h) r (mem_refsIn_of_reference? hr)
          have hkey : t.key ∈ set.possibleKeys base :=
            mem_possibleKeys (hwalk.source List.mem_cons_self) hin ht
          rw [checkPosition_of_some hr, ht, Except.bind]
          by_cases hvisited : t.key ∈ visited
          · exact ⟨visited, if_pos hvisited, hfits⟩
          · obtain ⟨less, rfl, hless⟩ := hfits.enter hkey hvisited
            obtain ⟨after, hafter, hfits'⟩ :=
              ih less (Nat.lt_succ_self less) (hposition.target hr ht) hless
            exact ⟨after, (if_neg hvisited).trans hafter, hfits'.nodup, hfits'.possible,
              Nat.le_trans hfits'.bound (by omega)⟩

/-- **The check passes if and only if every reference that one comes to leads somewhere.** -/
theorem check_eq_ok_iff (hidentified : set.IsIdentified base) :
    set.check base = .ok () ↔ set.Followable base base.root := by
  refine ⟨followable_of_check hidentified, fun h => ?_⟩
  obtain ⟨after, hcheck, -⟩ := exists_checkFrom h (set.targetBound base) .here
    ⟨List.nodup_nil, List.nil_subset _, Nat.le_of_lt (by
      simpa using set.length_possibleKeys_lt base)⟩
  rw [check, hcheck]
  rfl

end Set

end ReplySchema.Schema

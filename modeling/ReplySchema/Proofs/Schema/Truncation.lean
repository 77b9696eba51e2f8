import ReplySchema.Proofs.Schema.Descent
import ReplySchema.Proofs.Schema.Expansion
import ReplySchema.Proofs.Schema.Places
import ReplySchema.Proofs.Schema.Walk

/-! # What bundling cuts off

A document whose references never lead back into a target that is being unfolded has an unfolding
(`exists_unfolds`): the targets around a place are different, and there are no more of them than
references.  Bundling comes to it, unless there are more targets one inside the other than it
follows, or the value of a keyword for named schemas is no object (`bundle_eq_unfolding_iff`).

Chains of references show where the limit is: of one that is too long nothing is left
(`bundle_chain`).
-/

set_option autoImplicit false

namespace ReplySchema.Schema

variable {set : Set} {s : Source} {v u : Json}

/-! ## §1  What is lost at a stage -/

namespace Set

/-- Whether every reference that one comes to leads somewhere. -/
def LeadsOn (set : Set) (a : Stage) : Prop :=
  ∀ b, ComesTo set a b → ∀ r, reference? b.schema = some r → ∃ t, set.resolve r b.source = .ok t

/-- Whether no target is entered again inside itself. -/
def ReentersNothing (set : Set) (a : Stage) : Prop := ∀ b, ComesTo set a b → b.around.Nodup

/-- Whether bundling keeps at a stage what unfolding keeps: the maps of names to schemas are
objects, and a target behind a reference at the limit unfolds to the permissive schema. -/
structure KeepsAt (set : Set) (b : Stage) : Prop where
  maps : reference? b.schema = none → HoldsMaps b.schema
  target : b.around.length = bundleDepth → ∀ r t, reference? b.schema = some r →
    set.resolve r b.source = .ok t → Unfolds set t.source t.schema permissive

/-- Whether it keeps that wherever it comes to. -/
def LosesNothing (set : Set) (a : Stage) : Prop :=
  ∀ b, ComesTo set a b → b.around.length ≤ bundleDepth → set.KeepsAt b

variable {around : List Key} {a b : Stage} {base : Source}

theorem LeadsOn.comesTo (h : set.LeadsOn a) (hcomes : ComesTo set a b) : set.LeadsOn b :=
  fun c hc => h c (hcomes.trans hc)

theorem ReentersNothing.comesTo (h : set.ReentersNothing a) (hcomes : ComesTo set a b) :
    set.ReentersNothing b :=
  fun c hc => h c (hcomes.trans hc)

theorem losesNothing_data (hv : v.isObject = false) : set.LosesNothing ⟨around, s, v⟩ := by
  intro b hcomes _
  have hb : b = ⟨around, s, v⟩ := (comesTo_data hv).mp hcomes
  subst hb
  have hnone : reference? v = none := by
    cases v with
    | object members => cases hv
    | _ => rfl
  refine ⟨fun _ m hm => ?_, fun _ r t hr => ?_⟩
  · cases v with
    | object members => cases hv
    | _ => cases hm
  · rw [hnone] at hr
    cases hr

/-- A reference that may be followed loses what is lost below. -/
theorem losesNothing_reference {r : String} {t : Target} (hr : reference? v = some r)
    (ht : set.resolve r s = .ok t) (hbound : around.length < bundleDepth) :
    set.LosesNothing ⟨around, s, v⟩ ↔ set.LosesNothing (t.stage around) := by
  constructor
  · intro h b hcomes
    exact h b ((comesTo_reference hr ht).mpr (Or.inr hcomes))
  · intro h b hcomes hb
    rcases (comesTo_reference hr ht).mp hcomes with rfl | hcomes
    · refine ⟨fun hnone => ?_, fun hlimit => absurd hlimit (Nat.ne_of_lt hbound)⟩
      rw [hr] at hnone
      cases hnone
    · exact h b hcomes hb

theorem losesNothing_limit {r : String} {t : Target} (hr : reference? v = some r)
    (ht : set.resolve r s = .ok t) (hlimit : around.length = bundleDepth) :
    set.LosesNothing ⟨around, s, v⟩ ↔ Unfolds set t.source t.schema permissive := by
  constructor
  · intro h
    exact (h _ .refl (Nat.le_of_eq hlimit)).target hlimit r t hr ht
  · intro h b hcomes hb
    rcases (comesTo_reference hr ht).mp hcomes with rfl | hcomes
    · refine ⟨fun hnone => ?_, fun _ r' t' hr' ht' => ?_⟩
      · rw [hr] at hnone
        cases hnone
      · rw [hr] at hr'
        cases hr'
        rw [ht] at ht'
        cases ht'
        exact h
    · have hlength : around.length + 1 ≤ b.around.length := (suffix_of_comesTo hcomes).length_le
      omega

theorem losesNothing_object {members : List (String × Json)}
    (hnone : reference? (.object members) = none) (hbound : around.length ≤ bundleDepth) :
    set.LosesNothing ⟨around, s, .object members⟩ ↔
      HoldsMaps (.object members) ∧ ∀ c ∈ inside members, set.LosesNothing ⟨around, s, c⟩ := by
  constructor
  · intro h
    refine ⟨(h _ .refl hbound).maps hnone, fun c hc b hcomes => ?_⟩
    exact h b ((comesTo_object hnone).mpr (Or.inr ⟨c, hc, hcomes⟩))
  · rintro ⟨hmaps, hinside⟩ b hcomes hb
    rcases (comesTo_object hnone).mp hcomes with rfl | ⟨c, hc, hcomes⟩
    · refine ⟨fun _ => hmaps, fun _ r t hr => ?_⟩
      rw [hnone] at hr
      cases hr
    · exact hinside c hc b hcomes hb

/-- **Bundling makes something of a stage**, and that is the unfolding if nothing is lost. -/
theorem exists_bundleAt (ha : a.IsWithin bundleDepth) (hleads : set.LeadsOn a)
    (hreenters : set.ReentersNothing a) :
    ∃ j, set.bundleAt a = .ok j ∧
      ∀ u, Unfolds set a.source a.schema u → (j = u ↔ set.LosesNothing a) := by
  revert hleads hreenters
  refine stage_induct bundleDepth
    (P := fun a => set.LeadsOn a → set.ReentersNothing a → ∃ j, set.bundleAt a = .ok j ∧
      ∀ u, Unfolds set a.source a.schema u → (j = u ↔ set.LosesNothing a)) ?_ ?_ ?_ a ha
  · intro around s v _ hv _ _
    refine ⟨v, bundleAt_data hv, fun u hu => ?_⟩
    rw [(unfolds_data hv).mp hu]
    exact iff_of_true rfl (losesNothing_data hv)
  · intro around s v r ha hr ih hleads hreenters
    obtain ⟨t, ht⟩ := hleads _ .refl r hr
    have hcomes : ComesTo set ⟨around, s, v⟩ (t.stage around) := .single (.target hr ht)
    obtain ⟨hgoes, hcut⟩ := bundleAt_reference ha hr ht
    -- a reference that is cut agrees with its unfolding only if the target allows everything
    by_cases hbound : around.length < bundleDepth
    · have hwithin : (t.stage around).IsWithin bundleDepth := ⟨hreenters _ hcomes, hbound⟩
      obtain ⟨j, hj, heq⟩ := ih t hwithin (hleads.comesTo hcomes) (hreenters.comesTo hcomes)
      refine ⟨j, (hgoes hwithin).trans hj, fun u hu => ?_⟩
      rw [losesNothing_reference hr ht hbound]
      exact heq u ((unfolds_reference hr ht).mp hu)
    · have hlimit : around.length = bundleDepth :=
        Nat.le_antisymm ha.bound (Nat.le_of_not_lt hbound)
      refine ⟨permissive, hcut fun hwithin => hbound hwithin.bound, fun u hu => ?_⟩
      rw [losesNothing_limit hr ht hlimit]
      have hu : Unfolds set t.source t.schema u := (unfolds_reference hr ht).mp hu
      constructor
      · rintro rfl
        exact hu
      · intro h
        exact hu.unique h
  · intro around s members ha hnone ih hleads hreenters
    -- the schemas inside are bundled from the same stage, so nothing is nearer to the bound
    have hcomes : ∀ c ∈ inside members, ComesTo set ⟨around, s, .object members⟩ ⟨around, s, c⟩ :=
      fun c hc => .single (.inside hnone hc)
    have hinside : ∀ c ∈ inside members, ∃ j, set.bundleAt ⟨around, s, c⟩ = .ok j ∧
        ∀ u, Unfolds set s c u → (j = u ↔ set.LosesNothing ⟨around, s, c⟩) := fun c hc =>
      ih c hc (hleads.comesTo (hcomes c hc)) (hreenters.comesTo (hcomes c hc))
    obtain ⟨j, hj⟩ := exists_bundleAt_object hnone fun c hc => (hinside c hc).imp fun _ => And.left
    refine ⟨j, hj, fun u hu => ?_⟩
    obtain ⟨members', rfl, hinlines⟩ := bundleAt_object hnone hj
    obtain ⟨us, rfl, hmembers⟩ := (unfolds_object hnone).mp hu
    rw [losesNothing_object hnone ha.bound, Json.object.injEq]
    refine eq_iff_of_inlinesMembers hinlines hmembers fun c hc c' u hc' hu => ?_
    obtain ⟨j, hj, heq⟩ := hinside c hc
    rw [hj] at hc'
    cases hc'
    exact heq u hu

/-! ## §2  There is an unfolding -/

/-- The targets around a stage are targets of references in the documents that can be met. -/
theorem possible_of_comesTo (h : ComesTo set (.start base base.root) b) :
    b.around ⊆ set.possibleKeys base := by
  induction h with
  | refl => exact List.nil_subset _
  | tail hcomes hgoes ih =>
      cases hgoes with
      | inside => exact ih
      | target hr ht =>
          have hwalk := walks_of_comesTo hcomes
          have hin := hwalk.refsIn (fun _ h => h) _ (mem_refsIn_of_reference? hr)
          exact List.cons_subset.mpr
            ⟨mem_possibleKeys (hwalk.source List.mem_cons_self) hin ht, ih⟩

/-- **A document has an unfolding** if its references lead somewhere and never back into a target
that is being unfolded: only so many targets may then stand one inside the other. -/
theorem exists_unfolds (hleads : set.LeadsOn (.start base base.root))
    (hreenters : set.ReentersNothing (.start base base.root)) :
    ∃ u, Unfolds set base base.root u := by
  have hwithin : ∀ {b}, ComesTo set (.start base base.root) b →
      b.IsWithin (set.possibleKeys base).length := fun hcomes =>
    ⟨hreenters _ hcomes,
      (List.subperm_of_subset (hreenters _ hcomes) (possible_of_comesTo hcomes)).length_le⟩
  refine stage_induct (set.possibleKeys base).length
    (P := fun a => ComesTo set (.start base base.root) a → ∃ u, Unfolds set a.source a.schema u)
    ?_ ?_ ?_ (.start base base.root) isWithin_start .refl
  · intro around s v _ hv _
    exact ⟨v, .data hv⟩
  · intro around s v r _ hr ih hcomes
    obtain ⟨t, ht⟩ := hleads _ hcomes r hr
    have hthere : ComesTo set (.start base base.root) (t.stage around) :=
      hcomes.tail (.target hr ht)
    obtain ⟨u, hu⟩ := ih t (hwithin hthere) hthere
    exact ⟨u, .reference hr ht hu⟩
  · intro around s members _ hnone ih hcomes
    exact exists_unfolds_object hnone fun c hc => ih c hc (hcomes.tail (.inside hnone hc))

/-- **Bundling a document comes to its unfolding if and only if nothing is lost on the way.**  Where
every reference leads somewhere, and never back into a target that is being inlined, the document
has one unfolding, and bundling is no failure.  It does not come to the unfolding where the targets
stand too far inside one another. -/
theorem bundle_eq_unfolding_iff (hleads : set.LeadsOn (.start base base.root))
    (hreenters : set.ReentersNothing (.start base base.root)) :
    ∃ u j, Unfolds set base base.root u ∧ (∀ u', Unfolds set base base.root u' → u' = u) ∧
      set.bundle base = .ok j ∧ (j = u ↔ set.LosesNothing (.start base base.root)) := by
  obtain ⟨u, hu⟩ := exists_unfolds hleads hreenters
  obtain ⟨j, hj, heq⟩ := exists_bundleAt isWithin_start hleads hreenters
  exact ⟨u, j, hu, fun u' hu' => hu.unique hu', hj, heq u hu⟩

end Set

/-! ## §3  Chains of references -/

def linkName (i : Nat) : String := String.ofList (List.replicate (i + 1) 'd')

def linkPointer (i : Nat) : String := "/definitions/" ++ linkName i

def linkReference (i : Nat) : String := "#" ++ linkPointer i

def textSchema : Json := .object [("type", .string "string")]

/-- The links: each of them is a reference to the next one, and the last one is a text. -/
def links (n : Nat) : List (String × Json) :=
  ((List.range n).map fun i => (linkName i, referenceTo (linkReference (i + 1)))) ++
    [(linkName n, textSchema)]

/-- A chain of references to a text, with `n` of them between the first link and the last. -/
def chain (n : Nat) : Json :=
  .object [("$ref", .string (linkReference 0)), ("definitions", .object (links n))]

theorem linkName_injective : Function.Injective linkName := by
  intro i j h
  have hlength : (List.replicate (i + 1) 'd').length = (List.replicate (j + 1) 'd').length :=
    congrArg List.length (String.ofList_injective h)
  simpa using hlength

theorem linkPointer_injective : Function.Injective linkPointer := fun _ _ h =>
  linkName_injective ((String.append_right_inj _).mp h)

theorem nodup_links (n : Nat) : (Table.keys (links n)).Nodup := by
  have hkeys : Table.keys (links n) = (List.range (n + 1)).map linkName := by
    rw [List.range_succ]
    simp [Table.keys, links]
  rw [hkeys]
  exact List.nodup_range.map linkName_injective

theorem split_linkReference (i : Nat) :
    Identifier.split (linkReference i) = ("", linkPointer i) := by
  simp [Identifier.split, linkReference, Text.cutAt, String.toList_append]

theorem tokens?_linkPointer (i : Nat) : Pointer.tokens? (linkPointer i) =
    some ["definitions".toList, List.replicate (i + 1) 'd'] := by
  have hword : ∀ k, Text.splitAll '/' (List.replicate k 'd') = [List.replicate k 'd'] := by
    intro k
    induction k with
    | zero => rfl
    | succ k ih => simp [List.replicate_succ, Text.splitAll, ih]
  have hplain : ∀ k, Pointer.unescapeChars (List.replicate k 'd') = List.replicate k 'd' := by
    intro k
    induction k with
    | zero => rfl
    | succ k ih => simp [List.replicate_succ, Pointer.unescapeChars, ih]
  simp [Pointer.tokens?, linkPointer, linkName, String.toList_append, Text.splitAll, hword, hplain,
    Pointer.unescapeChars]

theorem at?_linkPointer {n i : Nat} {v : Json} (h : (linkName i, v) ∈ links n) :
    (chain n).at? (linkPointer i) = some v := by
  have hfind : Table.find? (linkName i) (links n) = some v :=
    (Table.find?_eq_some_iff (nodup_links n)).mpr h
  have hdefinitions : Pointer.step? "definitions".toList (chain n) = some (.object (links n)) := by
    simp [Pointer.step?, chain, Table.find?_cons]
  unfold Json.at?
  rw [tokens?_linkPointer]
  simp only [Option.bind_some, Pointer.walk?, hdefinitions]
  exact congrArg (·.bind some) hfind

namespace Set

/-- The links up to one, the latest first. -/
def passed (s : Source) (i : Nat) : List Key :=
  ((List.range i).map fun j => (s.origin, linkPointer j)).reverse

theorem length_passed (s : Source) (i : Nat) : (passed s i).length = i := by simp [passed]

theorem nodup_passed (s : Source) (i : Nat) : (passed s i).Nodup := by
  refine List.nodup_reverse.mpr (List.nodup_range.map fun i j h => ?_)
  exact linkPointer_injective (Prod.mk.inj h).2

section
variable {n : Nat} {around : List Key} {b : Stage}

theorem exists_link {i : Nat} {w : Json} (h : (linkName i, w) ∈ links n) :
    ∃ t, set.resolve (linkReference i) (.ofInline (chain n)) = .ok t ∧
      t.stage (passed (.ofInline (chain n)) i) =
        ⟨passed (.ofInline (chain n)) (i + 1), .ofInline (chain n), w⟩ := by
  have hslash : (linkPointer i).toList.head? = some '/' := by simp [linkPointer]
  have htarget : ∃ t, set.resolve (linkReference i) (.ofInline (chain n)) = .ok t ∧
      t.source = .ofInline (chain n) ∧ t.pointer = linkPointer i ∧ t.schema = w :=
    exists_target_of_pointer (split_linkReference i) hslash (at?_linkPointer h)
  obtain ⟨t, ht, hsource, hpointer, hschema⟩ := htarget
  refine ⟨t, ht, ?_⟩
  unfold Target.stage Target.key passed
  rw [hsource, hpointer, hschema, List.range_succ]
  simp

/-- **The induction along a chain**, from its end. -/
theorem chain_induct (set : Set) {P : Nat → Json → Prop} (last : P (n + 1) textSchema)
    (link : ∀ i v w t, i ≤ n → reference? v = some (linkReference i) →
      set.resolve (linkReference i) (.ofInline (chain n)) = .ok t →
      t.stage (passed (.ofInline (chain n)) i) =
        ⟨passed (.ofInline (chain n)) (i + 1), .ofInline (chain n), w⟩ →
      P (i + 1) w → P i v) : P 0 (chain n) := by
  have hfrom : ∀ d i v, i + d = n → reference? v = some (linkReference i) → P i v := by
    intro d
    induction d with
    | zero =>
        intro i v hi hr
        have hmem : (linkName i, textSchema) ∈ links n := by simp [links, ← hi]
        obtain ⟨t, ht, hstage⟩ := exists_link hmem
        refine link i v textSchema t (by omega) hr ht hstage ?_
        rw [show i = n by omega]
        exact last
    | succ d ih =>
        intro i v hi hr
        have hmem : (linkName i, referenceTo (linkReference (i + 1))) ∈ links n :=
          List.mem_append_left _ (List.mem_map.mpr ⟨i, List.mem_range.mpr (by omega), rfl⟩)
        obtain ⟨t, ht, hstage⟩ := exists_link hmem
        exact link i v _ t (by omega) hr ht hstage (ih (i + 1) _ (by omega) rfl)
  exact hfrom n 0 (chain n) (by omega) rfl

theorem comesTo_text : ComesTo set ⟨around, s, textSchema⟩ b ↔ b = ⟨around, s, textSchema⟩ := by
  have hnothing : inside [("type", .string "string")] = [] := by decide
  rw [textSchema, comesTo_object rfl, hnothing]
  simp

theorem leadsOn_chain : set.LeadsOn (.start (.ofInline (chain n)) (chain n)) := by
  refine chain_induct set
    (P := fun i v => set.LeadsOn ⟨passed (.ofInline (chain n)) i, .ofInline (chain n), v⟩) ?_ ?_
  · intro b hcomes r hr
    rw [comesTo_text.mp hcomes] at hr
    cases hr
  · intro i v w t _ hr ht hstage h b hcomes r' hr'
    rcases (comesTo_reference hr ht).mp hcomes with rfl | hcomes
    · rw [hr] at hr'
      cases hr'
      exact ⟨t, ht⟩
    · rw [hstage] at hcomes
      exact h b hcomes r' hr'

theorem reentersNothing_chain : set.ReentersNothing (.start (.ofInline (chain n)) (chain n)) := by
  refine chain_induct set
    (P := fun i v => set.ReentersNothing ⟨passed (.ofInline (chain n)) i, .ofInline (chain n), v⟩)
    ?_ ?_
  · intro b hcomes
    rw [comesTo_text.mp hcomes]
    exact nodup_passed _ _
  · intro i v w t _ hr ht hstage h b hcomes
    rcases (comesTo_reference hr ht).mp hcomes with rfl | hcomes
    · exact nodup_passed _ _
    · rw [hstage] at hcomes
      exact h b hcomes

theorem unfolds_chain : Unfolds set (.ofInline (chain n)) (chain n) textSchema := by
  refine chain_induct set
    (P := fun _ v => Unfolds set (.ofInline (chain n)) v textSchema) ?_ ?_
  · have hkind : holds "type" = .data := by decide
    exact .schema rfl (.other (by decide) (hkind ▸ .data) .nil)
  · intro i v w t _ hr ht hstage h
    have hsource : t.source = .ofInline (chain n) := congrArg Stage.source hstage
    have hschema : t.schema = w := congrArg Stage.schema hstage
    refine .reference hr ht ?_
    rw [hsource, hschema]
    exact h

/-- **Bundling follows a chain to its end if there are less links than targets may be inlined one
inside the other**, and else makes the permissive schema of it. -/
theorem bundle_chain : set.bundle (.ofInline (chain n)) =
    .ok (if n < bundleDepth then textSchema else permissive) := by
  refine chain_induct set (P := fun i v => i ≤ bundleDepth →
    set.bundleAt ⟨passed (.ofInline (chain n)) i, .ofInline (chain n), v⟩ =
      .ok (if n < bundleDepth then textSchema else permissive)) ?_ ?_ (Nat.zero_le _)
  · intro hlast
    have hshort : n < bundleDepth := hlast
    rw [if_pos hshort, bundleAt, bundleBelow_eq_inline]
    rfl
  · intro i v w t hi hr ht hstage h hbound
    have hhere : Stage.IsWithin bundleDepth
        ⟨passed (.ofInline (chain n)) i, .ofInline (chain n), v⟩ :=
      ⟨nodup_passed _ _, (length_passed _ _).trans_le hbound⟩
    obtain ⟨hgoes, hcut⟩ := bundleAt_reference hhere hr ht
    rw [hstage] at hgoes hcut
    by_cases hnext : i + 1 ≤ bundleDepth
    · exact (hgoes ⟨nodup_passed _ _, (length_passed _ _).trans_le hnext⟩).trans (h hnext)
    · rw [if_neg (by omega)]
      exact hcut fun hwithin => hnext ((length_passed _ _).symm.trans_le hwithin.bound)

/-- A chain of two links is bundled to its end, so nothing is lost. -/
theorem bundle_eq_unfolding_iff_chain :
    (ofStores [] 0).LeadsOn (.start (.ofInline (chain 1)) (chain 1)) ∧
    (ofStores [] 0).ReentersNothing (.start (.ofInline (chain 1)) (chain 1)) ∧
    (ofStores [] 0).bundle (.ofInline (chain 1)) = .ok textSchema ∧
    (ofStores [] 0).LosesNothing (.start (.ofInline (chain 1)) (chain 1)) := by
  have hleads : (ofStores [] 0).LeadsOn (.start (.ofInline (chain 1)) (chain 1)) := leadsOn_chain
  obtain ⟨u, j, -, hunique, hj, heq⟩ := bundle_eq_unfolding_iff hleads reentersNothing_chain
  have hbundle : (ofStores [] 0).bundle (.ofInline (chain 1)) = .ok textSchema := bundle_chain
  rw [hbundle] at hj
  cases hj
  exact ⟨hleads, reentersNothing_chain, hbundle, heq.mp (hunique _ unfolds_chain)⟩

/-- **Bundling cuts more than recursion**: a chain of thirty-three links goes nowhere in a circle,
and all that is left of it is the permissive schema. -/
theorem not_bundle_eq_unfolding :
    (ofStores [] 0).LeadsOn (.start (.ofInline (chain 32)) (chain 32)) ∧
    (ofStores [] 0).ReentersNothing (.start (.ofInline (chain 32)) (chain 32)) ∧
    Unfolds (ofStores [] 0) (.ofInline (chain 32)) (chain 32) textSchema ∧
    (ofStores [] 0).bundle (.ofInline (chain 32)) = .ok permissive ∧ permissive ≠ textSchema :=
  ⟨leadsOn_chain, reentersNothing_chain, unfolds_chain, bundle_chain, nofun⟩

end

end Set

end ReplySchema.Schema

import ReplySchema.Proofs.Schema.Descent
import ReplySchema.Proofs.Schema.Places

/-! # What a bundled schema holds

A bundled schema is meant to stand for itself: no position of it is a reference, an identifier or
a definition, and to bundle it again changes nothing.  Both hold of every position that bundling
puts together.  But a target that is no object comes in as it stands, and where it comes in for
`items` it may be a list, whose entries are positions from then on.  Such lists are the only way
out (`throughout_bundleAt_iff`): a bundled schema stands for itself if and only if the entries of
all lists that it took in do.

A schema that bundling leaves alone has nothing at any position that bundling would take away or
replace, and such a schema is left alone whatever it is bundled against
(`bundleSchema_eq_self_iff`).

Main statement: `bundleSchema_standsForItself_iff`.
-/

set_option autoImplicit false

namespace ReplySchema.Schema

/-! ## §1  What holds at every position -/

section
variable {Q : Json → Prop} {v : Json}

/-- Whether something holds at every position of a schema. -/
def Throughout (Q : Json → Prop) (v : Json) : Prop := ∀ w ∈ schemasIn v, Q w

theorem throughout_iff : Throughout Q v ↔ Q v ∧ ∀ c ∈ held v, Throughout Q c := by
  constructor
  · intro h
    exact ⟨h v (mem_schemasIn_self v), fun c hc w hw => h w (mem_schemasIn_of_held hc hw)⟩
  · rintro ⟨hself, hheld⟩ w hw
    rcases mem_schemasIn_iff.mp hw with rfl | ⟨c, hc, hw⟩
    · exact hself
    · exact hheld c hc w hw

theorem held_of_data (hv : v.isObject = false) : held v = [] := by
  cases v with
  | object members => cases hv
  | _ => rfl

/-- Whether something holds of data, and of every schema that is put together again. -/
structure HoldsOfInlined (Q : Json → Prop) : Prop where
  data : ∀ v, v.isObject = false → Q v
  object : ∀ T members members', reference? (.object members) = none →
    InlinesMembers T members members' → Q (.object members')

theorem HoldsOfInlined.throughout_data (hQ : HoldsOfInlined Q) (hv : v.isObject = false) :
    Throughout Q v := by
  rw [throughout_iff, held_of_data hv]
  exact ⟨hQ.data v hv, nofun⟩

theorem HoldsOfInlined.throughout_permissive (hQ : HoldsOfInlined Q) : Throughout Q permissive := by
  rw [throughout_iff]
  exact ⟨hQ.object (fun _ _ => True) [] [] rfl .nil, nofun⟩

end

/-- Whether a schema is no reference and has neither identifiers nor definitions. -/
structure IsUnaddressed (w : Json) : Prop where
  reference : reference? w = none
  absent : ∀ key ∈ ["$id", "$anchor", "definitions", "$defs"], w.get? key = none

/-- Whether bundling has nothing to do at a schema, apart from the schemas inside. -/
structure IsFinished (w : Json) : Prop where
  reference : reference? w = none
  kept : ∀ m ∈ w.members, inlining m.1 ≠ .drop
  named : ∀ m ∈ w.members, inlining m.1 = .named → m.2.isObject = true

theorem isFinishedAt_iff {w : Json} : isFinishedAt w = true ↔ IsFinished w := by
  simp only [isFinishedAt, Bool.and_eq_true, Option.isNone_iff_eq_none, List.all_eq_true,
    Bool.or_eq_true, decide_eq_true_eq]
  constructor
  · rintro ⟨hnone, hmembers⟩
    exact ⟨hnone, fun m hm => (hmembers m hm).1, fun m hm hnamed =>
      (hmembers m hm).2.resolve_left fun h => h hnamed⟩
  · rintro ⟨hnone, hkept, hnamed⟩
    exact ⟨hnone, fun m hm => ⟨hkept m hm, Decidable.not_or_of_imp (hnamed m hm)⟩⟩

theorem isFinished_iff {v : Json} : isFinished v = true ↔ Throughout IsFinished v := by
  unfold isFinished Throughout schemasIn
  rw [List.all_eq_true, List.forall_mem_map]
  exact forall₂_congr fun _ _ => isFinishedAt_iff

theorem holdsOfInlined_isUnaddressed : HoldsOfInlined IsUnaddressed where
  data := fun v hv => by
    cases v with
    | object members => cases hv
    | _ => exact ⟨rfl, fun _ _ => rfl⟩
  object := fun T members members' hnone hinlines => by
    refine ⟨hinlines.reference?.trans hnone, fun key hkey => ?_⟩
    have hdrop : inlining key = .drop := by
      simp only [List.mem_cons, List.not_mem_nil, or_false] at hkey
      rcases hkey with rfl | rfl | rfl | rfl <;> decide
    have hnot : key ∉ Table.keys members' := by
      rw [hinlines.keys]
      intro hmem
      obtain ⟨m, hm, rfl⟩ := List.mem_map.mp hmem
      have hkept := (List.mem_filter.mp hm).2
      exact of_decide_eq_true hkept hdrop
    rw [Table.mem_keys_iff_find?_isSome, Option.not_isSome_iff_eq_none] at hnot
    exact hnot

theorem isObject_of_inlines {T : Json → Json → Prop} {key : String} {v v' : Json}
    (h : Inlines T key v v') (hkey : inlining key = .named) : v'.isObject = true := by
  unfold Inlines at h
  cases v with
  | object entries =>
      simp only [hkey] at h
      obtain ⟨entries', rfl, -⟩ := h
      rfl
  | _ =>
      simp only [hkey] at h
      rw [h]
      rfl

theorem holdsOfInlined_isFinished : HoldsOfInlined IsFinished where
  data := fun v hv => by
    cases v with
    | object members => cases hv
    | _ => exact ⟨rfl, nofun, nofun⟩
  object := fun T members members' hnone hinlines => by
    refine ⟨hinlines.reference?.trans hnone, fun m' hm' => ?_, fun m' hm' hnamed => ?_⟩
    · obtain ⟨m, hm, hkey, -⟩ := exists_of_forall₂ hinlines hm'
      rw [hkey]
      exact of_decide_eq_true (List.mem_filter.mp hm).2
    · obtain ⟨m, -, hkey, hvalue⟩ := exists_of_forall₂ hinlines hm'
      rw [hkey] at hnamed
      exact isObject_of_inlines hvalue hnamed

/-! ## §2  What bundling leaves alone -/

section
variable {follow : String → Except SchemaError Json}

theorem inlineNamed_eq_self : ∀ {entries : List (String × Json)},
    (∀ e ∈ entries, inline follow e.2 = .ok e.2) → inlineNamed follow entries = .ok entries
  | [], _ => by rw [inlineNamed, Result.pure_eq_ok]
  | (name, value) :: rest, h => by
      have hrest : inlineNamed follow rest = .ok rest :=
        inlineNamed_eq_self fun e he => h e (List.mem_cons_of_mem _ he)
      rw [inlineNamed, h _ List.mem_cons_self, hrest]
      rfl

theorem inlineList_eq_self : ∀ {items : List Json},
    (∀ c ∈ items, inline follow c = .ok c) → inlineList follow items = .ok items
  | [], _ => by rw [inlineList, Result.pure_eq_ok]
  | value :: rest, h => by
      have hrest : inlineList follow rest = .ok rest :=
        inlineList_eq_self fun c hc => h c (List.mem_cons_of_mem _ hc)
      rw [inlineList, h _ List.mem_cons_self, hrest]
      rfl

theorem inlineValue_eq_self {key : String} {value : Json}
    (hnamed : inlining key = .named → value.isObject = true)
    (h : ∀ c ∈ insideKeyword key value, inline follow c = .ok c) :
    inlineValue follow key value = .ok value := by
  unfold insideKeyword at h
  unfold inlineValue
  cases hkey : inlining key with
  | drop => rfl
  | keep => rfl
  | schema =>
      simp only [hkey] at h
      exact h value List.mem_cons_self
  | named =>
      cases value with
      | object entries =>
          simp only [hkey] at h
          have hentries : inlineNamed follow entries = .ok entries :=
            inlineNamed_eq_self fun e he => h e.2 (List.mem_map_of_mem he)
          simp only [hentries]
          rfl
      | _ => cases hnamed hkey
  | list =>
      cases value with
      | array items =>
          simp only [hkey] at h
          simp only [inlineList_eq_self h]
          rfl
      | _ => rfl
  | either =>
      cases value with
      | array items =>
          simp only [hkey] at h
          simp only [inlineList_eq_self h]
          rfl
      | _ =>
          simp only [hkey] at h
          exact h _ List.mem_cons_self

theorem inlineMembers_eq_self : ∀ {members : List (String × Json)},
    (∀ m ∈ members, inlining m.1 ≠ .drop) →
    (∀ m ∈ members, inlining m.1 = .named → m.2.isObject = true) →
    (∀ c ∈ inside members, inline follow c = .ok c) →
    inlineMembers follow members = .ok members
  | [], _, _, _ => by rw [inlineMembers, Result.pure_eq_ok]
  | (key, value) :: rest, hkept, hnamed, h => by
      have hvalue : inlineValue follow key value = .ok value :=
        inlineValue_eq_self (hnamed _ List.mem_cons_self) fun c hc =>
          h c (List.mem_append_left _ hc)
      have hrest : inlineMembers follow rest = .ok rest :=
        inlineMembers_eq_self (fun m hm => hkept m (List.mem_cons_of_mem _ hm))
          (fun m hm => hnamed m (List.mem_cons_of_mem _ hm))
          fun c hc => h c (List.mem_append_right _ hc)
      rw [inlineMembers_cons, if_neg (hkept _ List.mem_cons_self), hvalue, hrest]
      rfl

theorem inline_eq_self {v : Json} (h : Throughout IsFinished v) : inline follow v = .ok v := by
  induction hsize : sizeOf v using Nat.strongRecOn generalizing v with
  | _ n ih =>
      subst hsize
      obtain ⟨hself, hheld⟩ := throughout_iff.mp h
      cases v with
      | object members =>
          have hinside : ∀ c ∈ inside members, inline follow c = .ok c := by
            intro c hc
            have hc : c ∈ held (.object members) := held_of_mem_inside hc
            exact ih (sizeOf c) (sizeOf_lt_of_held hc) (hheld c hc) rfl
          have hmembers : inlineMembers follow members = .ok members :=
            inlineMembers_eq_self hself.kept hself.named hinside
          rw [inline]
          simp only [hself.reference, hmembers]
          rfl
      | _ => rfl

end

theorem inlines_self {T : Json → Json → Prop} {members : List (String × Json)}
    (h : InlinesMembers T members members) :
    (∀ m ∈ members, inlining m.1 ≠ .drop) ∧ ∀ m ∈ members, Inlines T m.1 m.2 m.2 := by
  unfold InlinesMembers at h
  have hkept : kept members = members := by
    refine List.filter_eq_self.mpr ?_
    rw [← List.length_filter_eq_length_iff]
    exact h.length_eq
  rw [hkept] at h
  refine ⟨fun m hm => ?_, fun m hm => ((List.forall₂_same.mp h) m hm).2⟩
  rw [← hkept] at hm
  exact of_decide_eq_true (List.mem_filter.mp hm).2

theorem self_of_inlines {T : Json → Json → Prop} {key : String} {v c : Json}
    (h : Inlines T key v v) (hc : c ∈ insideKeyword key v) : T c c := by
  unfold Inlines at h
  unfold insideKeyword at hc
  cases hkey : inlining key with
  | drop => simp only [hkey] at h
  | keep => simp only [hkey, List.not_mem_nil] at hc
  | schema =>
      simp only [hkey] at h hc
      rw [List.mem_singleton.mp hc]
      exact h
  | named =>
      cases v with
      | object entries =>
          simp only [hkey] at h hc
          obtain ⟨entries', heq, hentries⟩ := h
          cases heq
          obtain ⟨e, he, rfl⟩ := List.mem_map.mp hc
          exact (List.forall₂_same.mp hentries e he).2
      | _ => simp only [hkey, List.not_mem_nil] at hc
  | list =>
      cases v with
      | array items =>
          simp only [hkey] at h hc
          obtain ⟨items', heq, hitems⟩ := h
          cases heq
          exact List.forall₂_same.mp hitems c hc
      | _ => simp only [hkey, List.not_mem_nil] at hc
  | either =>
      cases v with
      | array items =>
          simp only [hkey] at h hc
          obtain ⟨items', heq, hitems⟩ := h
          cases heq
          exact List.forall₂_same.mp hitems c hc
      | _ =>
          simp only [hkey] at h hc
          rw [List.mem_singleton.mp hc]
          exact h

namespace Set

variable {set : Set}

theorem reference?_of_bundleAt {a : Stage} {j : Json} (h : set.bundleAt a = .ok j) :
    reference? j = none := by
  have hbundles : set.Bundles (fun _ _ => True) fun _ _ j => reference? j = none := {
    cut := fun _ _ _ _ _ => rfl
    data := fun _ v _ hv => (holdsOfInlined_isFinished.data v hv).reference
    reference := fun _ _ _ _ _ _ _ => ⟨trivial, fun _ hj => hj⟩
    object := fun _ _ _ _ hnone hinlines => hinlines.reference?.trans hnone }
  exact hbundles.bundleBelow _ _ trivial h

/-- **Bundling leaves a schema alone if and only if there is nothing to do at any position**, so
that what it is bundled against does not matter. -/
theorem bundleAt_eq_self_iff {a : Stage} (ha : a.IsWithin bundleDepth) :
    set.bundleAt a = .ok a.schema ↔ Throughout IsFinished a.schema := by
  constructor
  · intro h
    revert h
    refine stage_induct bundleDepth
      (P := fun a => set.bundleAt a = .ok a.schema → Throughout IsFinished a.schema) ?_ ?_ ?_ a ha
    · intro around s v _ hv _
      exact holdsOfInlined_isFinished.throughout_data hv
    · intro around s v r _ hr _ h
      have hnone : reference? v = none := reference?_of_bundleAt h
      rw [hr] at hnone
      cases hnone
    · intro around s members _ hnone ih h
      obtain ⟨members', heq, hinlines⟩ := bundleAt_object hnone h
      cases heq
      obtain ⟨hkept, hself⟩ := inlines_self hinlines
      rw [throughout_iff]
      refine ⟨⟨hnone, hkept, fun m hm hnamed => isObject_of_inlines (hself m hm) hnamed⟩, ?_⟩
      intro c hc
      obtain ⟨m, hm, hunder⟩ := List.mem_flatMap.mp hc
      have hinside : c ∈ insideKeyword m.1 m.2 := mem_insideKeyword_of_heldUnder (hkept m hm) hunder
      exact ih c (List.mem_flatMap.mpr ⟨m, hm, hinside⟩) (self_of_inlines (hself m hm) hinside)
  · intro h
    unfold bundleAt
    rw [bundleBelow_eq_inline]
    exact inline_eq_self h

/-! ## §3  Lists that come in -/

/-- Where one comes to from a stage by following references alone. -/
inductive Follows (set : Set) : Stage → Stage → Prop where
  | here {a : Stage} : Follows set a a
  | next {around : List Key} {s : Source} {v : Json} {r : String} {t : Target} {b : Stage}
      (hr : reference? v = some r) (ht : set.resolve r s = .ok t)
      (h : Follows set (t.stage around) b) : Follows set ⟨around, s, v⟩ b

/-- Whether the items of a schema, which are no list, are replaced by one: they are a reference, and
references lead from there to the list, as far as bundling follows them. -/
def ItemsBecome (set : Set) (around : List Key) (s : Source) (members : List (String × Json))
    (entries : List Json) : Prop :=
  ∃ items b, ("items", items) ∈ members ∧ items.asArray? = none ∧
    Follows set ⟨around, s, items⟩ b ∧ b.schema = .array entries ∧ b.IsWithin bundleDepth

/-- Whether bundling takes in a list as it stands, at a schema that one comes to from a stage. -/
def TakesList (set : Set) (a : Stage) (entries : List Json) : Prop :=
  ∃ around s members, ComesTo set a ⟨around, s, .object members⟩ ∧
    reference? (.object members) = none ∧ set.ItemsBecome around s members entries

variable {around : List Key} {s : Source} {v : Json} {entries : List Json}

theorem follows_of_none {b : Stage} (hnone : reference? v = none) :
    Follows set ⟨around, s, v⟩ b ↔ b = ⟨around, s, v⟩ := by
  constructor
  · intro h
    cases h with
    | here => rfl
    | next hr =>
        rw [hnone] at hr
        cases hr
  · rintro rfl
    exact .here

theorem follows_reference {r : String} {t : Target} {b : Stage} (hr : reference? v = some r)
    (ht : set.resolve r s = .ok t) :
    Follows set ⟨around, s, v⟩ b ↔ b = ⟨around, s, v⟩ ∨ Follows set (t.stage around) b := by
  constructor
  · intro h
    cases h with
    | here => exact Or.inl rfl
    | next hr' ht' hrest =>
        rw [hr] at hr'
        cases hr'
        rw [ht] at ht'
        cases ht'
        exact Or.inr hrest
  · rintro (rfl | h)
    · exact .here
    · exact .next hr ht h

theorem suffix_of_follows {a b : Stage} (h : Follows set a b) : a.around <:+ b.around := by
  induction h with
  | here => exact List.suffix_refl _
  | next _ _ _ ih => exact (List.suffix_cons _ _).trans ih

theorem isWithin_of_follows {a b : Stage} (hb : b.IsWithin bundleDepth) (h : Follows set a b) :
    a.IsWithin bundleDepth :=
  have hsuffix := suffix_of_follows h
  ⟨hb.nodup.sublist hsuffix.sublist, Nat.le_trans hsuffix.length_le hb.bound⟩

theorem not_takesList_data (hv : v.isObject = false) : ¬ set.TakesList ⟨around, s, v⟩ entries := by
  rintro ⟨around', s', members, hcomes, -⟩
  have heq := (comesTo_data hv).mp hcomes
  cases heq
  cases hv

theorem takesList_reference {r : String} {t : Target} (hr : reference? v = some r)
    (ht : set.resolve r s = .ok t) :
    set.TakesList ⟨around, s, v⟩ entries ↔ set.TakesList (t.stage around) entries := by
  constructor
  · rintro ⟨around', s', members, hcomes, hnone, hitems⟩
    rcases (comesTo_reference hr ht).mp hcomes with heq | hcomes
    · cases heq
      rw [hnone] at hr
      cases hr
    · exact ⟨around', s', members, hcomes, hnone, hitems⟩
  · rintro ⟨around', s', members, hcomes, hrest⟩
    exact ⟨around', s', members, (comesTo_reference hr ht).mpr (Or.inr hcomes), hrest⟩

theorem takesList_object {members : List (String × Json)}
    (hnone : reference? (.object members) = none) :
    set.TakesList ⟨around, s, .object members⟩ entries ↔
      set.ItemsBecome around s members entries ∨
        ∃ c ∈ inside members, set.TakesList ⟨around, s, c⟩ entries := by
  constructor
  · rintro ⟨around', s', members', hcomes, hnone', hitems⟩
    rcases (comesTo_object hnone).mp hcomes with heq | ⟨c, hc, hcomes⟩
    · cases heq
      exact Or.inl hitems
    · exact Or.inr ⟨c, hc, around', s', members', hcomes, hnone', hitems⟩
  · rintro (hitems | ⟨c, hc, around', s', members', hcomes, hrest⟩)
    · exact ⟨around, s, members, .refl, hnone, hitems⟩
    · exact ⟨around', s', members', (comesTo_object hnone).mpr (Or.inr ⟨c, hc, hcomes⟩), hrest⟩

theorem isWithin_of_takesList {a : Stage} (h : set.TakesList a entries) :
    a.IsWithin bundleDepth := by
  obtain ⟨around, s, members, hcomes, -, items, b, -, -, hfollows, -, hb⟩ := h
  have hwithin := isWithin_of_follows hb hfollows
  have hhere : Stage.IsWithin bundleDepth ⟨around, s, .object members⟩ :=
    ⟨hwithin.nodup, hwithin.bound⟩
  exact isWithin_of_comesTo hhere hcomes

/-- What bundling makes of a reference: the bundled target, or the permissive schema where it does
not go on. -/
theorem exists_target_of_bundleAt {r : String} {j : Json}
    (ha : Stage.IsWithin bundleDepth ⟨around, s, v⟩) (hr : reference? v = some r)
    (h : set.bundleAt ⟨around, s, v⟩ = .ok j) : ∃ t, set.resolve r s = .ok t ∧
      ((t.stage around).IsWithin bundleDepth ∧ set.bundleAt (t.stage around) = .ok j ∨
        ¬ (t.stage around).IsWithin bundleDepth ∧ j = permissive) := by
  cases ht : set.resolve r s with
  | error fault =>
      unfold bundleAt at h
      rw [bundleBelow_eq_inline] at h
      cases v with
      | object members =>
          simp only [inline, hr, replacement, ht] at h
          cases h
      | _ => cases hr
  | ok t =>
      obtain ⟨hgoes, hstops⟩ := bundleAt_reference ha hr ht
      refine ⟨t, rfl, ?_⟩
      by_cases hwithin : (t.stage around).IsWithin bundleDepth
      · exact Or.inl ⟨hwithin, (hgoes hwithin).symm.trans h⟩
      · refine Or.inr ⟨hwithin, ?_⟩
        rw [hstops hwithin] at h
        cases h
        rfl

/-- **Bundling comes to a list exactly where references lead to it.** -/
theorem bundleAt_eq_array_iff : ∀ a : Stage, a.IsWithin bundleDepth → ∀ {j : Json},
    set.bundleAt a = .ok j → ∀ entries, j = .array entries ↔
      ∃ b, Follows set a b ∧ b.schema = .array entries ∧ b.IsWithin bundleDepth := by
  refine stage_induct bundleDepth ?_ ?_ ?_
  · intro around s v ha hv j h entries
    have hnone : reference? v = none := (holdsOfInlined_isFinished.data v hv).reference
    rw [bundleAt_data hv] at h
    cases h
    simp only [follows_of_none hnone, exists_eq_left]
    exact (and_iff_left ha).symm
  · intro around s v r ha hr ih j h entries
    have hlist : v ≠ .array entries := by
      rintro rfl
      cases hr
    obtain ⟨t, ht, hcases⟩ := exists_target_of_bundleAt ha hr h
    simp only [follows_reference hr ht, or_and_right, exists_or, exists_eq_left, hlist, false_and,
      false_or]
    rcases hcases with ⟨hwithin, hbundle⟩ | ⟨hnot, rfl⟩
    · exact ih t hwithin hbundle entries
    · refine iff_of_false nofun ?_
      rintro ⟨b, hfollows, -, hb⟩
      exact hnot (isWithin_of_follows hb hfollows)
  · intro around s members ha hnone _ j h entries
    obtain ⟨members', rfl, -⟩ := bundleAt_object hnone h
    simp only [follows_of_none hnone, exists_eq_left]
    exact iff_of_false nofun fun h => nomatch h.1

theorem of_inlines_items {T : Json → Json → Prop} {v v' : Json} (hv : v.asArray? = none)
    (h : Inlines T "items" v v') : T v v' := by
  have hkey : inlining "items" = .either := by decide
  unfold Inlines at h
  cases v with
  | array items => cases hv
  | _ => simpa only [hkey] using h

theorem exists_of_mem_insideKeyword {T : Json → Json → Prop} {key : String} {v v' c : Json}
    (h : Inlines T key v v') (hc : c ∈ insideKeyword key v) :
    ∃ c', T c c' ∧ (c' ∈ heldUnder key v' ∨ c'.isObject = false) := by
  have hheld := heldUnder_of_mem_insideKeyword hc
  unfold Inlines at h
  unfold insideKeyword at hc
  unfold heldUnder at hheld ⊢
  rw [inlining_eq] at h hc
  cases hkey : holds key with
  | schema =>
      simp only [hkey] at h hc ⊢
      rw [List.mem_singleton.mp hc]
      exact ⟨v', h, Or.inl List.mem_cons_self⟩
  | named =>
      simp only [hkey] at h hheld ⊢
      by_cases hdrop : key ∈ ["definitions", "$defs"]
      · simp only [if_pos hdrop] at h
      · simp only [if_neg hdrop] at h
        cases v with
        | object entries =>
            obtain ⟨entries', rfl, hentries⟩ := h
            obtain ⟨e, he, rfl⟩ := List.mem_map.mp hheld
            obtain ⟨e', he', -, hT⟩ := exists_of_forall₂_left hentries he
            exact ⟨e'.2, hT, Or.inl (List.mem_map_of_mem he')⟩
        | _ => cases hheld
  | list =>
      simp only [hkey] at h hheld ⊢
      cases v with
      | array items =>
          obtain ⟨items', rfl, hitems⟩ := h
          obtain ⟨c', hc', hT⟩ := exists_of_forall₂_left hitems hheld
          exact ⟨c', hT, Or.inl hc'⟩
      | _ => cases hheld
  | either =>
      simp only [hkey] at h hheld ⊢
      cases v with
      | array items =>
          obtain ⟨items', rfl, hitems⟩ := h
          obtain ⟨c', hc', hT⟩ := exists_of_forall₂_left hitems hheld
          exact ⟨c', hT, Or.inl hc'⟩
      | _ =>
          rw [List.mem_singleton.mp hheld]
          refine ⟨v', h, ?_⟩
          cases v' with
          | array entries => exact Or.inr rfl
          | _ => exact Or.inl List.mem_cons_self
  | data =>
      simp only [hkey] at hheld
      cases hheld

section
variable {T : Json → Json → Prop} {members members' : List (String × Json)}

/-- What is made of a schema inside a schema is held afterwards, unless it is no schema. -/
theorem exists_of_mem_inside {c : Json} (h : InlinesMembers T members members')
    (hc : c ∈ inside members) :
    ∃ c', T c c' ∧ (c' ∈ held (.object members') ∨ c'.isObject = false) := by
  obtain ⟨m, hm, hunder⟩ := List.mem_flatMap.mp hc
  obtain ⟨m', hm', hkey, hvalue⟩ :=
    exists_of_forall₂_left h (mem_kept hm (ne_drop_of_mem_insideKeyword hunder))
  obtain ⟨c', hT, hheld⟩ := exists_of_mem_insideKeyword hvalue hunder
  exact ⟨c', hT, hheld.imp_left fun hheld => mem_held hm' (hkey ▸ hheld)⟩

theorem exists_items_of_inlinesMembers {items : Json} (h : InlinesMembers T members members')
    (hm : ("items", items) ∈ members) (hsingle : items.asArray? = none) :
    ∃ items', T items items' ∧ ("items", items') ∈ members' := by
  have hkeyword : inlining "items" ≠ .drop := by decide
  obtain ⟨⟨key, items'⟩, hm', hkey, hvalue⟩ := exists_of_forall₂_left h (mem_kept hm hkeyword)
  cases hkey
  exact ⟨items', of_inlines_items hsingle hvalue, hm'⟩

end

variable {Q : Json → Prop}

/-- **Lists that are taken in are the only way out.**  What holds of all that bundling puts together
holds throughout a bundled schema if and only if it holds throughout the entries of these lists. -/
theorem throughout_bundleAt_iff (hQ : HoldsOfInlined Q) : ∀ a : Stage, a.IsWithin bundleDepth →
    ∀ {j : Json}, set.bundleAt a = .ok j →
      (Throughout Q j ↔ ∀ entries, set.TakesList a entries → ∀ c ∈ entries, Throughout Q c) := by
  -- Along the stages: data, a reference that may be followed or is cut, and a schema of members.
  refine stage_induct bundleDepth ?_ ?_ ?_
  · intro around s v _ hv j h
    rw [bundleAt_data hv] at h
    cases h
    constructor
    · intro _ entries htakes
      exact absurd htakes (not_takesList_data hv)
    · intro _
      exact hQ.throughout_data hv
  · intro around s v r ha hr ih j h
    obtain ⟨t, ht, ⟨hwithin, hbundle⟩ | ⟨hnot, rfl⟩⟩ := exists_target_of_bundleAt ha hr h
    · rw [ih t hwithin hbundle]
      simp only [takesList_reference hr ht]
    · constructor
      · intro _ entries htakes
        rw [takesList_reference hr ht] at htakes
        exact absurd (isWithin_of_takesList htakes) hnot
      · intro _
        exact hQ.throughout_permissive
  · intro around s members ha hnone ih j h
    obtain ⟨members', rfl, hinlines⟩ := bundleAt_object hnone h
    have hitems : ∀ items j', set.bundleAt ⟨around, s, items⟩ = .ok j' → ∀ entries,
        j' = .array entries ↔ ∃ b, Follows set ⟨around, s, items⟩ b ∧
          b.schema = .array entries ∧ b.IsWithin bundleDepth := fun items _ h =>
      bundleAt_eq_array_iff ⟨around, s, items⟩ ⟨ha.nodup, ha.bound⟩ h
    rw [throughout_iff]
    constructor
    · rintro ⟨-, hheld⟩ entries htakes
      rcases (takesList_object hnone).mp htakes with
        ⟨items, b, hm, hsingle, hfollows⟩ | ⟨c, hc, htakes⟩
      · -- the list has come in here
        obtain ⟨items', hbundle, hm'⟩ := exists_items_of_inlinesMembers hinlines hm hsingle
        have hlist : items' = .array entries :=
          (hitems items items' hbundle entries).mpr ⟨b, hfollows⟩
        subst hlist
        intro c hc
        exact hheld c (mem_held hm' hc)
      · -- it has come in further down
        obtain ⟨c', hbundle, hheld' | hdata⟩ := exists_of_mem_inside hinlines hc
        · exact (ih c hc hbundle).mp (hheld c' hheld') entries htakes
        · exact (ih c hc hbundle).mp (hQ.throughout_data hdata) entries htakes
    · intro hlists
      refine ⟨hQ.object _ members members' hnone hinlines, fun c' hc' => ?_⟩
      rcases held_of_inlinesMembers hinlines hc' with
        ⟨c, hc, hT⟩ | ⟨items, entries, hm, hsingle, hT, hentry⟩
      · refine (ih c hc hT).mpr fun entries htakes => hlists entries ?_
        exact (takesList_object hnone).mpr (Or.inr ⟨c, hc, htakes⟩)
      · obtain ⟨b, hfollows, hb, hwithin⟩ := (hitems items _ hT entries).mp rfl
        refine hlists entries ?_ c' hentry
        exact (takesList_object hnone).mpr
          (Or.inl ⟨items, b, hm, hsingle, hfollows, hb, hwithin⟩)

/-! ## §4  Bundled schemas stand for themselves -/

/-- **Bundling leaves a schema alone if and only if there is nothing to do at any position.** -/
theorem bundleSchema_eq_self_iff {s : Source} {v : Json} :
    set.bundleSchema s v = .ok v ↔ Throughout IsFinished v :=
  bundleAt_eq_self_iff isWithin_start

theorem not_takesList_of_standsAlone (h : StandsAlone v) : ¬ set.TakesList (.start s v) entries := by
  rintro ⟨around, s', members, hcomes, -, items, b, hm, hsingle, hfollows, hb, -⟩
  have hwalk : Walks set s v s' (.object members) := walks_of_comesTo hcomes
  have hitems : items ∈ held (.object members) := mem_held_items hm hsingle
  have hnone : reference? items = none :=
    StandsAlone.walk h (hwalk.held hitems) items (mem_schemasIn_self items)
  rw [(follows_of_none hnone).mp hfollows] at hb
  rw [show items = .array entries from hb] at hsingle
  cases hsingle

theorem isFinished_of_standsAlone {j : Json} (h : StandsAlone v)
    (hbundle : set.bundleSchema s v = .ok j) : isFinished j = true :=
  isFinished_iff.mpr <|
    (throughout_bundleAt_iff holdsOfInlined_isFinished (.start s v) isWithin_start hbundle).mpr
      fun _ htakes => absurd htakes (not_takesList_of_standsAlone h)

theorem standsAlone_of_isFinished (h : isFinished v = true) : StandsAlone v :=
  fun w hw => (isFinished_iff.mp h w hw).reference

def RefersWithin (R : String → Prop) (w : Json) : Prop := ∀ r, reference? w = some r → R r

theorem holdsOfInlined_refersWithin (R : String → Prop) : HoldsOfInlined (RefersWithin R) where
  data := fun v hv r hr => by
    rw [(holdsOfInlined_isFinished.data v hv).reference] at hr
    cases hr
  object := fun _ _ _ hnone hinlines r hr => by
    rw [hinlines.reference?, hnone] at hr
    cases hr

theorem exists_target_of_follows {base : Source} {a b : Stage} (h : Follows set a b)
    (ha : a.source ∈ set.sources base) :
    b = a ∨ ∃ t : Target, t.source ∈ set.sources base ∧ b.schema = t.schema := by
  induction h with
  | here => exact Or.inl rfl
  | @next _ _ _ _ t _ _ ht _ ih =>
      have htarget : t.source ∈ set.sources base := source_mem_of_resolve ha ht
      rcases ih htarget with rfl | hfurther
      · exact Or.inr ⟨t, htarget, rfl⟩
      · exact Or.inr hfurther

/-- **The references that bundling leaves stand in the documents that can be met.**  They came in
with lists. -/
theorem refersWithin_bundleSchema {base : Source} (hs : s ∈ set.sources base) {j : Json}
    (h : set.bundleSchema s v = .ok j) :
    Throughout (RefersWithin (· ∈ set.possibleRefs base)) j := by
  refine (throughout_bundleAt_iff (holdsOfInlined_refersWithin _) (.start s v) isWithin_start h).mpr ?_
  rintro entries ⟨around, s', members, hcomes, -, items, b, -, hsingle, hfollows, hb, -⟩ c hc w hw
    r hr
  have hsource : s' ∈ set.sources base := (walks_of_comesTo hcomes).source hs
  rcases exists_target_of_follows hfollows hsource with rfl | ⟨t, ht, hschema⟩
  · rw [show items = .array entries from hb] at hsingle
    cases hsingle
  · have hin : r ∈ refsIn t.schema := by
      rw [← hschema, hb]
      exact mem_refsIn_item hc (mem_refsIn_of_mem_schemasIn hw (mem_refsIn_of_reference? hr))
    exact mem_possibleRefs ht (mem_refsIn_of_at? t.found hin)

/-- **A bundled schema stands for itself as far as the lists do that it took in.**  No position of
it is a reference or has an identifier or definitions, if and only if that holds of the entries of
these lists; and bundling leaves it alone, against any document and any schemas, if and only if it
leaves those entries alone.  Where no reference makes a list of `items`, there are no such lists. -/
theorem bundleSchema_standsForItself_iff {base : Source} {schema bundled : Json}
    (h : set.bundleSchema base schema = .ok bundled) :
    (Throughout IsUnaddressed bundled ↔
      ∀ entries, set.TakesList (.start base schema) entries →
        ∀ c ∈ entries, Throughout IsUnaddressed c) ∧
    ((∀ (set' : Set) (base' : Source), set'.bundleSchema base' bundled = .ok bundled) ↔
      ∀ entries, set.TakesList (.start base schema) entries →
        ∀ c ∈ entries, ∀ (set' : Set) (base' : Source), set'.bundleSchema base' c = .ok c) := by
  have hthroughout : ∀ {Q : Json → Prop}, HoldsOfInlined Q → (Throughout Q bundled ↔
      ∀ entries, set.TakesList (.start base schema) entries → ∀ c ∈ entries, Throughout Q c) :=
    fun hQ => throughout_bundleAt_iff hQ (.start base schema) isWithin_start h
  have halone : ∀ c, (∀ (set' : Set) (base' : Source), set'.bundleSchema base' c = .ok c) ↔
      Throughout IsFinished c := by
    intro c
    constructor
    · intro h
      exact bundleSchema_eq_self_iff.mp (h set base)
    · intro h set' base'
      exact bundleSchema_eq_self_iff.mpr h
  refine ⟨hthroughout holdsOfInlined_isUnaddressed, ?_⟩
  simp only [halone]
  exact hthroughout holdsOfInlined_isFinished

/-! ## §5  Two schemas with definitions -/

def nameSchema : Json := .object [("type", .string "string")]

def personSchema : Json :=
  .object [("$id", .string "urn:person"),
    ("properties", .object [("name", referenceTo "#/definitions/name")]),
    ("definitions", .object [("name", nameSchema)])]

def bundledPerson : Json := .object [("properties", .object [("name", nameSchema)])]

/-- A list whose items are a reference to examples, one of which looks like a reference. -/
def samplesSchema : Json :=
  .object [("items", referenceTo "#/examples"),
    ("examples", .array [referenceTo "#/definitions/name"]),
    ("definitions", .object [("name", nameSchema)])]

/-- The same list, bundled: the examples have come in as they stand. -/
def bundledSamples : Json :=
  .object [("items", .array [referenceTo "#/definitions/name"]),
    ("examples", .array [referenceTo "#/definitions/name"])]

theorem replacement_of_pointer {root : Json} {r : String} (pointer : String) (v : Json)
    (hsplit : Identifier.split r = ("", pointer)) (hslash : pointer.toList.head? = some '/')
    (hat : root.at? pointer = some v) {j : Json}
    (hj : ∀ around, (ofStores [] 0).bundleBelow 31 around (.ofInline root) v = .ok j) :
    (ofStores [] 0).replacement bundleDepth [] (.ofInline root) r = .ok j := by
  obtain ⟨t, ht, hsource, -, hschema⟩ :=
    exists_target_of_pointer (s := .ofInline root) hsplit hslash hat
  refine replacement_eq_ok.mpr ⟨t, ht, Or.inr ⟨List.not_mem_nil, 31, rfl, ?_⟩⟩
  rw [hsource, hschema]
  exact hj _

theorem bundleSchema_person :
    (ofStores [] 0).bundleSchema (.ofInline personSchema) personSchema = .ok bundledPerson := by
  have hname : (ofStores [] 0).replacement bundleDepth [] (.ofInline personSchema)
      "#/definitions/name" = .ok nameSchema :=
    replacement_of_pointer "/definitions/name" nameSchema (by decide +kernel) (by decide) rfl
      fun around => by
        rw [bundleBelow_eq_inline]
        rfl
  rw [bundleSchema, bundleBelow_eq_inline]
  generalize (ofStores [] 0).replacement bundleDepth [] (.ofInline personSchema) = follow at *
  simp [personSchema, bundledPerson, referenceTo, inline, inlining, inlineMembers, inlineNamed,
    reference?, Json.get?, Table.find?, Json.asString?, hname, bind, Except.bind, pure, Except.pure]

theorem bundleSchema_samples :
    (ofStores [] 0).bundleSchema (.ofInline samplesSchema) samplesSchema = .ok bundledSamples := by
  have hitems : (ofStores [] 0).replacement bundleDepth [] (.ofInline samplesSchema) "#/examples" =
      .ok (.array [referenceTo "#/definitions/name"]) :=
    replacement_of_pointer "/examples" (.array [referenceTo "#/definitions/name"])
      (by decide +kernel) (by decide) rfl fun _ => rfl
  rw [bundleSchema, bundleBelow_eq_inline]
  generalize (ofStores [] 0).replacement bundleDepth [] (.ofInline samplesSchema) = follow at *
  simp [samplesSchema, bundledSamples, referenceTo, inline, inlining, inlineMembers, listKeywords,
    schemaKeywords, reference?, Json.get?, Table.find?, Json.asString?, hitems, bind, Except.bind,
    pure, Except.pure]

theorem bundleSchema_standsForItself_person :
    (ofStores [] 0).bundleSchema (.ofInline personSchema) personSchema = .ok bundledPerson ∧
    Throughout IsUnaddressed bundledPerson ∧
    ∀ (set' : Set) (base' : Source), set'.bundleSchema base' bundledPerson = .ok bundledPerson := by
  have hnone : ∀ entries,
      ¬ (ofStores [] 0).TakesList (.start (.ofInline personSchema) personSchema) entries := by
    intro entries htakes
    have hleads : ∃ t,
        (ofStores [] 0).resolve "#/definitions/name" (.ofInline personSchema) = .ok t ∧
        t.source = .ofInline personSchema ∧ t.pointer = "/definitions/name" ∧
        t.schema = nameSchema :=
      exists_target_of_pointer (by decide +kernel) (by decide) rfl
    obtain ⟨t, ht, -, -, hschema⟩ := hleads
    rcases (takesList_object rfl).mp htakes with ⟨items, b, hm, -⟩ | ⟨c, hc, htakes⟩
    · simp at hm
    · have hc : c = referenceTo "#/definitions/name" := List.mem_singleton.mp hc
      rw [hc, takesList_reference rfl ht, Target.stage, hschema] at htakes
      rcases (takesList_object rfl).mp htakes with ⟨items, b, hm, -⟩ | ⟨c, hc, -⟩
      · simp at hm
      · cases hc
  obtain ⟨hunaddressed, halone⟩ := bundleSchema_standsForItself_iff bundleSchema_person
  exact ⟨bundleSchema_person, hunaddressed.mpr fun entries h => absurd h (hnone entries),
    halone.mpr fun entries h => absurd h (hnone entries)⟩

/-- **A bundled schema need not stand for itself** where items have turned out to be a list of
examples: what looks like a reference there is one now, and bundling replaces it. -/
theorem not_bundleSchema_standsForItself :
    (ofStores [] 0).bundleSchema (.ofInline samplesSchema) samplesSchema = .ok bundledSamples ∧
    ¬ Throughout IsUnaddressed bundledSamples ∧
    ¬ ∀ (set' : Set) (base' : Source), set'.bundleSchema base' bundledSamples =
      .ok bundledSamples := by
  have hsample : referenceTo "#/definitions/name" ∈ schemasIn bundledSamples :=
    mem_schemasIn_of_held List.mem_cons_self (mem_schemasIn_self _)
  refine ⟨bundleSchema_samples, fun h => ?_, fun h => ?_⟩
  · have hnone := (h _ hsample).reference
    cases hnone
  · have hfinished : Throughout IsFinished bundledSamples :=
      bundleSchema_eq_self_iff.mp (h (ofStores [] 0) (.ofInline samplesSchema))
    have hnone := (hfinished _ hsample).reference
    cases hnone

end Set

end ReplySchema.Schema

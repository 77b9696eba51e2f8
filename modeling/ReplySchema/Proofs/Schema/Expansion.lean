import ReplySchema.Proofs.Schema.Inlining

/-! # The unfolding of a schema

The unfolding of a schema has the unfolding of the target in the place of each reference, and lacks
the keywords that only serve references.  `Unfolds` says that as a relation, keyword by keyword and
without any bound: a schema has at most one unfolding (`Unfolds.unique`), and none if a reference
leads back into itself.  It knows of keywords only how they hold schemas.

Bundling goes over the same members.  Where it makes the same of the schemas inside, it makes the
same of the whole, as long as the maps of names to schemas are objects
(`eq_iff_of_inlinesMembers`).
-/

set_option autoImplicit false

namespace ReplySchema.Schema

/-! ## §1  Unfolding -/

/-- The keywords for identifiers and definitions, and those that say nothing of values. -/
def servingKeywords : List String :=
  ["$id", "$schema", "$anchor", "definitions", "$defs", "$comment"]

mutual
/-- `Unfolds set s v u`: in the document `s` the schema `v` unfolds to `u`. -/
inductive Unfolds (set : Set) : Source → Json → Json → Prop where
  | data {s : Source} {v : Json} (h : v.isObject = false) : Unfolds set s v v
  | reference {s : Source} {v u : Json} {r : String} {t : Target} (hr : reference? v = some r)
      (ht : set.resolve r s = .ok t) (h : Unfolds set t.source t.schema u) : Unfolds set s v u
  | schema {s : Source} {members members' : List (String × Json)}
      (hnone : reference? (.object members) = none) (h : UnfoldsMembers set s members members') :
      Unfolds set s (.object members) (.object members')

/-- The members of a schema without the serving ones, each with its value unfolded. -/
inductive UnfoldsMembers (set : Set) :
    Source → List (String × Json) → List (String × Json) → Prop where
  | nil {s : Source} : UnfoldsMembers set s [] []
  | serving {s : Source} {key : String} {v : Json} {rest rest' : List (String × Json)}
      (hkey : key ∈ servingKeywords) (h : UnfoldsMembers set s rest rest') :
      UnfoldsMembers set s ((key, v) :: rest) rest'
  | other {s : Source} {key : String} {v v' : Json} {rest rest' : List (String × Json)}
      (hkey : key ∉ servingKeywords) (hv : UnfoldsUnder set s (holds key) v v')
      (h : UnfoldsMembers set s rest rest') :
      UnfoldsMembers set s ((key, v) :: rest) ((key, v') :: rest')

/-- The value of a keyword with the schemas that it holds unfolded; where there are no schemas as
the keyword holds them, the value stays. -/
inductive UnfoldsUnder (set : Set) : Source → Holds → Json → Json → Prop where
  | schema {s : Source} {v v' : Json} (h : Unfolds set s v v') : UnfoldsUnder set s .schema v v'
  | named {s : Source} {entries entries' : List (String × Json)}
      (h : UnfoldsNamed set s entries entries') :
      UnfoldsUnder set s .named (.object entries) (.object entries')
  | unnamed {s : Source} {v : Json} (hv : v.isObject = false) : UnfoldsUnder set s .named v v
  | list {s : Source} {items items' : List Json} (h : UnfoldsEach set s items items') :
      UnfoldsUnder set s .list (.array items) (.array items')
  | unlisted {s : Source} {v : Json} (hv : v.asArray? = none) : UnfoldsUnder set s .list v v
  | items {s : Source} {items items' : List Json} (h : UnfoldsEach set s items items') :
      UnfoldsUnder set s .either (.array items) (.array items')
  | item {s : Source} {v v' : Json} (hv : v.asArray? = none) (h : Unfolds set s v v') :
      UnfoldsUnder set s .either v v'
  | data {s : Source} {v : Json} : UnfoldsUnder set s .data v v

/-- A map of names to schemas, each unfolded. -/
inductive UnfoldsNamed (set : Set) :
    Source → List (String × Json) → List (String × Json) → Prop where
  | nil {s : Source} : UnfoldsNamed set s [] []
  | cons {s : Source} {name : String} {v v' : Json} {rest rest' : List (String × Json)}
      (hv : Unfolds set s v v') (h : UnfoldsNamed set s rest rest') :
      UnfoldsNamed set s ((name, v) :: rest) ((name, v') :: rest')

/-- A list of schemas, each unfolded. -/
inductive UnfoldsEach (set : Set) : Source → List Json → List Json → Prop where
  | nil {s : Source} : UnfoldsEach set s [] []
  | cons {s : Source} {v v' : Json} {rest rest' : List Json} (hv : Unfolds set s v v')
      (h : UnfoldsEach set s rest rest') : UnfoldsEach set s (v :: rest) (v' :: rest')
end

variable {set : Set}

variable {s : Source} {v u : Json}

theorem unfolds_data (hv : v.isObject = false) : Unfolds set s v u ↔ u = v := by
  constructor
  · intro h
    cases h with
    | data => rfl
    | reference hr =>
        cases v with
        | object members => cases hv
        | _ => cases hr
    | schema => cases hv
  · rintro rfl
    exact .data hv

theorem unfolds_reference {r : String} {t : Target} (hr : reference? v = some r)
    (ht : set.resolve r s = .ok t) : Unfolds set s v u ↔ Unfolds set t.source t.schema u := by
  constructor
  · intro h
    cases h with
    | data hv =>
        cases v with
        | object members => cases hv
        | _ => cases hr
    | reference hr' ht' hu =>
        rw [hr] at hr'
        cases hr'
        rw [ht] at ht'
        cases ht'
        exact hu
    | schema hnone =>
        rw [hnone] at hr
        cases hr
  · intro h
    exact .reference hr ht h

/-- **A schema has at most one unfolding.** -/
theorem Unfolds.unique {s : Source} {v u u' : Json} (h : Unfolds set s v u)
    (h' : Unfolds set s v u') : u' = u := by
  revert u'
  refine @Unfolds.rec set (fun s v u _ => ∀ {u'}, Unfolds set s v u' → u' = u)
    (fun s ms us _ => ∀ {us'}, UnfoldsMembers set s ms us' → us' = us)
    (fun s kind v u _ => ∀ {u'}, UnfoldsUnder set s kind v u' → u' = u)
    (fun s es us _ => ∀ {us'}, UnfoldsNamed set s es us' → us' = us)
    (fun s vs us _ => ∀ {us'}, UnfoldsEach set s vs us' → us' = us)
    ?data ?reference ?schema ?nil ?serving ?other ?under ?named ?unnamed ?list ?unlisted
    ?items ?item ?stays ?nameless ?entry ?empty ?member s v u h
  case data =>
    intro s v hv u' h'
    exact (unfolds_data hv).mp h'
  case reference =>
    intro s v u r t hr ht _ ih u' h'
    exact ih ((unfolds_reference hr ht).mp h')
  case schema =>
    intro s members us hnone _ ih u' h'
    cases h' with
    | data hv => cases hv
    | reference hr =>
        rw [hnone] at hr
        cases hr
    | schema _ hmembers => rw [ih hmembers]
  case nil =>
    intro s us' h'
    cases h'
    rfl
  case serving =>
    intro s key v rest us hkey _ ih us' h'
    cases h' with
    | serving _ hrest => exact ih hrest
    | other hother => exact absurd hkey hother
  case other =>
    intro s key v u rest us hkey _ _ ihv ih us' h'
    cases h' with
    | serving hserving => exact absurd hserving hkey
    | other _ hv hrest => rw [ihv hv, ih hrest]
  case under =>
    intro s v u _ ih u' h'
    cases h' with
    | schema hu => exact ih hu
  case named =>
    intro s entries us _ ih u' h'
    cases h' with
    | named hentries => rw [ih hentries]
    | unnamed hv => cases hv
  case unnamed =>
    intro s v hv u' h'
    cases h' with
    | named => cases hv
    | unnamed => rfl
  case list =>
    intro s items us _ ih u' h'
    cases h' with
    | list heach => rw [ih heach]
    | unlisted hv => cases hv
  case unlisted =>
    intro s v hv u' h'
    cases h' with
    | list => cases hv
    | unlisted => rfl
  case items =>
    intro s items us _ ih u' h'
    cases h' with
    | items heach => rw [ih heach]
    | item hv => cases hv
  case item =>
    intro s v u hv _ ih u' h'
    cases h' with
    | items => cases hv
    | item _ hu => exact ih hu
  case stays =>
    intro s v u' h'
    cases h'
    rfl
  case nameless =>
    intro s us' h'
    cases h'
    rfl
  case entry =>
    intro s name v u rest us _ _ ihv ih us' h'
    cases h' with
    | cons hv hrest => rw [ihv hv, ih hrest]
  case empty =>
    intro s us' h'
    cases h'
    rfl
  case member =>
    intro s v u rest us _ _ ihv ih us' h'
    cases h' with
    | cons hv hrest => rw [ihv hv, ih hrest]

/-! ## §2  Keyword by keyword -/

/-- The keywords whose value maps names to schemas, definitions apart. -/
def mapKeywords : List String := ["properties", "patternProperties", "dependentSchemas"]

def HoldsMaps (v : Json) : Prop := ∀ m ∈ v.members, m.1 ∈ mapKeywords → m.2.isObject = true

theorem mem_servingKeywords_iff {key : String} : key ∈ servingKeywords ↔ inlining key = .drop := by
  unfold inlining servingKeywords
  grind

theorem mem_mapKeywords_iff {key : String} : key ∈ mapKeywords ↔ inlining key = .named := by
  unfold inlining mapKeywords
  grind

theorem unfoldsNamed_iff {entries us : List (String × Json)} : UnfoldsNamed set s entries us ↔
    List.Forall₂ (fun e e' => e'.1 = e.1 ∧ Unfolds set s e.2 e'.2) entries us := by
  constructor
  · intro h
    induction entries generalizing us with
    | nil =>
        cases h
        exact .nil
    | cons e rest ih =>
        cases h with
        | cons hv hrest => exact .cons ⟨rfl, hv⟩ (ih hrest)
  · intro h
    induction h with
    | nil => exact .nil
    | @cons e e' _ _ he _ ih =>
        obtain ⟨name, v⟩ := e
        obtain ⟨name', u⟩ := e'
        obtain ⟨rfl, hv⟩ := he
        exact .cons hv ih

theorem unfoldsEach_iff {items us : List Json} :
    UnfoldsEach set s items us ↔ List.Forall₂ (Unfolds set s) items us := by
  constructor
  · intro h
    induction items generalizing us with
    | nil =>
        cases h
        exact .nil
    | cons v rest ih =>
        cases h with
        | cons hv hrest => exact .cons hv (ih hrest)
  · intro h
    induction h with
    | nil => exact .nil
    | cons hv _ ih => exact .cons hv ih

theorem unfoldsMembers_iff {members us : List (String × Json)} : UnfoldsMembers set s members us ↔
    List.Forall₂ (fun m m' => m'.1 = m.1 ∧ UnfoldsUnder set s (holds m.1) m.2 m'.2)
      (kept members) us := by
  unfold kept
  induction members generalizing us with
  | nil =>
      constructor
      · intro h
        cases h
        exact .nil
      · intro h
        cases h
        exact .nil
  | cons m rest ih =>
      obtain ⟨key, v⟩ := m
      rw [List.filter_cons]
      by_cases hdrop : inlining key = .drop
      · have hserving : key ∈ servingKeywords := mem_servingKeywords_iff.mpr hdrop
        simp only [hdrop, ne_eq, not_true_eq_false, decide_false, Bool.false_eq_true, if_false]
        rw [← ih]
        constructor
        · intro h
          cases h with
          | serving _ hrest => exact hrest
          | other hother => exact absurd hserving hother
        · intro h
          exact .serving hserving h
      · have hother : key ∉ servingKeywords := fun h => hdrop (mem_servingKeywords_iff.mp h)
        rw [if_pos (decide_eq_true hdrop), List.forall₂_cons_left_iff]
        constructor
        · intro h
          cases h with
          | serving hserving => exact absurd hserving hother
          | @other _ _ _ u _ us' _ hv hrest => exact ⟨(key, u), us', ⟨rfl, hv⟩, ih.mp hrest, rfl⟩
        · rintro ⟨⟨key', u⟩, us', ⟨rfl, hv⟩, hrest, rfl⟩
          exact .other hother hv (ih.mpr hrest)

theorem unfolds_object {members : List (String × Json)}
    (hnone : reference? (.object members) = none) :
    Unfolds set s (.object members) u ↔
      ∃ us, u = .object us ∧ UnfoldsMembers set s members us := by
  constructor
  · intro h
    cases h with
    | data hv => cases hv
    | reference hr =>
        rw [hnone] at hr
        cases hr
    | schema _ hmembers => exact ⟨_, rfl, hmembers⟩
  · rintro ⟨us, rfl, hmembers⟩
    exact .schema hnone hmembers

/-! ## §3  An unfolding of each part -/

theorem exists_forall₂ {α β : Type} {R : α → β → Prop} :
    ∀ {xs : List α}, (∀ x ∈ xs, ∃ y, R x y) → ∃ ys, List.Forall₂ R xs ys
  | [], _ => ⟨[], .nil⟩
  | x :: rest, h => by
      obtain ⟨y, hy⟩ := h x List.mem_cons_self
      obtain ⟨ys, hys⟩ := exists_forall₂ fun x hx => h x (List.mem_cons_of_mem _ hx)
      exact ⟨y :: ys, .cons hy hys⟩

theorem exists_unfoldsEach {items : List Json} (h : ∀ c ∈ items, ∃ u, Unfolds set s c u) :
    ∃ us, UnfoldsEach set s items us := by
  obtain ⟨us, hus⟩ := exists_forall₂ h
  exact ⟨us, unfoldsEach_iff.mpr hus⟩

theorem exists_unfoldsUnder {key : String} (hkey : inlining key ≠ .drop)
    (h : ∀ c ∈ insideKeyword key v, ∃ u, Unfolds set s c u) :
    ∃ u, UnfoldsUnder set s (holds key) v u := by
  have hheld : ∀ c ∈ heldUnder key v, ∃ u, Unfolds set s c u := fun c hc =>
    h c (mem_insideKeyword_of_heldUnder hkey hc)
  unfold heldUnder at hheld
  cases hholds : holds key with
  | data => exact ⟨v, .data⟩
  | schema =>
      simp only [hholds] at hheld
      obtain ⟨u, hu⟩ := hheld v List.mem_cons_self
      exact ⟨u, .schema hu⟩
  | named =>
      cases v with
      | object entries =>
          simp only [hholds] at hheld
          have hentries : ∀ e ∈ entries, ∃ e' : String × Json,
              e'.1 = e.1 ∧ Unfolds set s e.2 e'.2 := by
            intro e he
            obtain ⟨u, hu⟩ := hheld e.2 (List.mem_map_of_mem he)
            exact ⟨(e.1, u), rfl, hu⟩
          obtain ⟨us, hus⟩ := exists_forall₂ hentries
          exact ⟨.object us, .named (unfoldsNamed_iff.mpr hus)⟩
      | _ => exact ⟨_, .unnamed rfl⟩
  | list =>
      cases v with
      | array items =>
          simp only [hholds] at hheld
          obtain ⟨us, hus⟩ := exists_unfoldsEach hheld
          exact ⟨.array us, .list hus⟩
      | _ => exact ⟨_, .unlisted rfl⟩
  | either =>
      cases v with
      | array items =>
          simp only [hholds] at hheld
          obtain ⟨us, hus⟩ := exists_unfoldsEach hheld
          exact ⟨.array us, .items hus⟩
      | _ =>
          simp only [hholds] at hheld
          obtain ⟨u, hu⟩ := hheld _ List.mem_cons_self
          exact ⟨u, .item rfl hu⟩

theorem exists_unfolds_object {members : List (String × Json)}
    (hnone : reference? (.object members) = none)
    (h : ∀ c ∈ inside members, ∃ u, Unfolds set s c u) :
    ∃ u, Unfolds set s (.object members) u := by
  have hmembers : ∀ m ∈ kept members, ∃ m' : String × Json,
      m'.1 = m.1 ∧ UnfoldsUnder set s (holds m.1) m.2 m'.2 := by
    intro m hm
    obtain ⟨hm, hkept⟩ := List.mem_filter.mp hm
    obtain ⟨u, hu⟩ := exists_unfoldsUnder (of_decide_eq_true hkept) fun c hc =>
      h c (List.mem_flatMap.mpr ⟨m, hm, hc⟩)
    exact ⟨(m.1, u), rfl, hu⟩
  obtain ⟨us, hus⟩ := exists_forall₂ hmembers
  exact ⟨.object us, .schema hnone (unfoldsMembers_iff.mpr hus)⟩

/-! ## §4  Where inlining makes the same -/

theorem eq_iff_of_forall₂ {α β : Type} {R S : α → β → Prop} {P : α → Prop} {xs : List α}
    {ys zs : List β} (h : List.Forall₂ R xs ys) (h' : List.Forall₂ S xs zs)
    (heq : ∀ x ∈ xs, ∀ y z, R x y → S x z → (y = z ↔ P x)) : ys = zs ↔ ∀ x ∈ xs, P x := by
  induction h generalizing zs with
  | nil =>
      cases h'
      exact ⟨fun _ => nofun, fun _ => rfl⟩
  | cons hR _ ih =>
      cases h' with
      | cons hS hrest =>
          rw [List.cons.injEq, heq _ List.mem_cons_self _ _ hR hS,
            ih hrest fun x hx => heq x (List.mem_cons_of_mem _ hx), List.forall_mem_cons]

section
variable {T : Json → Json → Prop} {P : Json → Prop}

/-- Under a keyword the same is made, if it is a map where it should be and the same is made of the
schemas inside. -/
theorem eq_iff_of_inlines {key : String} {v' : Json} (h : Inlines T key v v')
    (hu : UnfoldsUnder set s (holds key) v u)
    (heq : ∀ c ∈ insideKeyword key v, ∀ c' u, T c c' → Unfolds set s c u → (c' = u ↔ P c)) :
    v' = u ↔ (key ∈ mapKeywords → v.isObject = true) ∧ ∀ c ∈ insideKeyword key v, P c := by
  rw [mem_mapKeywords_iff]
  unfold Inlines at h
  unfold insideKeyword at heq ⊢
  rw [inlining_eq] at h heq ⊢
  -- Both sides go by how the keyword holds schemas, so the cases are those of `Holds`.
  cases hholds : holds key with
  | schema =>
      rw [hholds] at hu
      simp only [hholds] at h heq ⊢
      cases hu with
      | schema hu => simpa using heq v List.mem_cons_self _ _ h hu
  | named =>
      rw [hholds] at hu
      simp only [hholds] at h heq ⊢
      by_cases hdrop : key ∈ ["definitions", "$defs"]
      · simp only [if_pos hdrop] at h
      · simp only [if_neg hdrop] at h heq ⊢
        cases hu with
        | named hentries =>
            obtain ⟨entries', rfl, hentries'⟩ := h
            rw [Json.object.injEq,
              eq_iff_of_forall₂ (P := fun e => P e.2) hentries' (unfoldsNamed_iff.mp hentries) ?_]
            · rw [List.forall_mem_map]
              exact (and_iff_right fun _ => rfl).symm
            · rintro e he ⟨n', c'⟩ ⟨n, u⟩ ⟨rfl, hc'⟩ ⟨rfl, hu⟩
              rw [Prod.mk.injEq, heq e.2 (List.mem_map_of_mem he) c' u hc' hu]
              exact and_iff_right rfl
        | unnamed hv =>
            cases v with
            | object entries => cases hv
            | _ => simp [h, Json.isObject]
  | list =>
      rw [hholds] at hu
      simp only [hholds] at h heq ⊢
      cases hu with
      | list hitems =>
          obtain ⟨items', rfl, hitems'⟩ := h
          rw [Json.array.injEq, eq_iff_of_forall₂ hitems' (unfoldsEach_iff.mp hitems) heq]
          simp
      | unlisted hv =>
          cases v with
          | array items => cases hv
          | _ => simp [h]
  | either =>
      rw [hholds] at hu
      simp only [hholds] at h heq ⊢
      cases hu with
      | items hitems =>
          obtain ⟨items', rfl, hitems'⟩ := h
          rw [Json.array.injEq, eq_iff_of_forall₂ hitems' (unfoldsEach_iff.mp hitems) heq]
          simp
      | item hv hu =>
          cases v with
          | array items => cases hv
          | _ => simpa using heq _ List.mem_cons_self _ _ h hu
  | data =>
      rw [hholds] at hu
      simp only [hholds] at h heq ⊢
      cases hu
      by_cases hdrop : key ∈ ["$id", "$schema", "$anchor", "$comment"]
      · simp only [if_pos hdrop] at h
      · simp only [if_neg hdrop] at h ⊢
        simp [h]

theorem eq_iff_of_inlinesMembers {members members' us : List (String × Json)}
    (h : InlinesMembers T members members') (hus : UnfoldsMembers set s members us)
    (heq : ∀ c ∈ inside members, ∀ c' u, T c c' → Unfolds set s c u → (c' = u ↔ P c)) :
    members' = us ↔ HoldsMaps (.object members) ∧ ∀ c ∈ inside members, P c := by
  have hpointwise : members' = us ↔ ∀ m ∈ kept members,
      (m.1 ∈ mapKeywords → m.2.isObject = true) ∧ ∀ c ∈ insideKeyword m.1 m.2, P c := by
    refine eq_iff_of_forall₂ h (unfoldsMembers_iff.mp hus) ?_
    rintro m hm ⟨k', v'⟩ ⟨k, u⟩ ⟨rfl, hv'⟩ ⟨rfl, hu⟩
    rw [Prod.mk.injEq, eq_iff_of_inlines hv' hu fun c hc =>
      heq c (List.mem_flatMap.mpr ⟨m, List.mem_of_mem_filter hm, hc⟩)]
    exact and_iff_right rfl
  rw [hpointwise]
  -- a member that is dropped is no map, and nothing is replaced inside
  constructor
  · intro hall
    refine ⟨fun m hm hmap => ?_, fun c hc => ?_⟩
    · have hnamed : inlining m.1 = .named := mem_mapKeywords_iff.mp hmap
      exact (hall m (mem_kept hm (by rw [hnamed]; decide))).1 hmap
    · obtain ⟨m, hm, hc⟩ := List.mem_flatMap.mp hc
      exact (hall m (mem_kept hm (ne_drop_of_mem_insideKeyword hc))).2 c hc
  · rintro ⟨hmaps, hall⟩ m hm
    have hm : m ∈ members := List.mem_of_mem_filter hm
    exact ⟨hmaps m hm, fun c hc => hall c (List.mem_flatMap.mpr ⟨m, hm, hc⟩)⟩

end

end ReplySchema.Schema

import Mathlib.Data.List.Perm.Basic
import ReplySchema.Proofs.Response.Contents

/-! # Which schemas have a slot

A declaration should have one slot for each schema that it declares (`declaredSlots`), wherever the
keys of its content maps are written.  It has one for each schema that stands: a content map keeps a
single wildcard, the last key that stands for every media type, and what earlier ones declare is
gone, even if the last one declares nothing.

So a schema is lost where a wildcard that has one is followed by another wildcard, and nowhere else.
And to take away the wildcards without a schema changes nothing but where the last wildcard is one
of them and some other is not (`slots_enumerate`).
-/

set_option autoImplicit false

namespace ReplySchema.Response

/-! ## §1  The slots that are declared -/

/-- The slots of a member of a declaration, with one for each of the members of a content map that
are picked and have a schema. -/
def memberSlots (pick : List (String × Json) → List (String × Json)) (m : String × Json) :
    List Slot :=
  match Selector.read? m.1, contentOf? m.2 with
  | none, _ => []
  | some selector, none => [⟨selector, none, m.2⟩]
  | some selector, some content =>
      ((pick content).filterMap declared?).map fun p => ⟨selector, some p.1, p.2⟩

def slotsWith (pick : List (String × Json) → List (String × Json)) (declaration : Json) :
    List Slot :=
  declaration.members.flatMap (memberSlots pick)

/-- A slot for each plain schema and for each key of a content map that has a schema. -/
def declaredSlots (declaration : Json) : List Slot := slotsWith id declaration

/-- The members of a content map without the wildcards that another wildcard follows. -/
def standing : List (String × Json) → List (String × Json)
  | [] => []
  | m :: rest =>
      if IsWildcard m.1 ∧ wildcards rest ≠ [] then standing rest else m :: standing rest

/-- Whether no wildcard that has a schema is followed by another wildcard. -/
def KeepsSchemas (content : List (String × Json)) : Prop :=
  content.Pairwise fun m m' => IsWildcard m.1 → (schemaOf? m).isSome = true → ¬ IsWildcard m'.1

section
variable {m : String × Json} {content rest : List (String × Json)}

theorem standing_cons_of_pos (h : IsWildcard m.1 ∧ wildcards rest ≠ []) :
    standing (m :: rest) = standing rest :=
  if_pos h

theorem standing_cons_of_neg (h : ¬ (IsWildcard m.1 ∧ wildcards rest ≠ [])) :
    standing (m :: rest) = m :: standing rest :=
  if_neg h

theorem standing_sublist (content : List (String × Json)) : (standing content).Sublist content := by
  induction content with
  | nil => exact .slnil
  | cons m rest ih =>
      by_cases h : IsWildcard m.1 ∧ wildcards rest ≠ []
      · rw [standing_cons_of_pos h]
        exact ih.cons m
      · rw [standing_cons_of_neg h]
        exact ih.cons_cons m

/-- What stands are the keys of one media type each and the last wildcard. -/
theorem standing_perm (content : List (String × Json)) :
    (standing content).Perm (ordinary content ++ (wildcards content).getLast?.toList) := by
  induction content with
  | nil => exact .nil
  | cons m rest ih =>
      by_cases hw : IsWildcard m.1
      · rw [ordinary_cons_of_pos hw, wildcards_cons_of_pos hw]
        by_cases hrest : wildcards rest = []
        · rw [standing_cons_of_neg fun h => h.2 hrest]
          rw [hrest, List.getLast?_nil, Option.toList_none, List.append_nil] at ih
          rw [hrest, List.getLast?_singleton, Option.toList_some]
          exact (ih.cons m).trans (List.perm_append_singleton m _).symm
        · rw [standing_cons_of_pos ⟨hw, hrest⟩, List.getLast?_cons_of_ne_nil hrest]
          exact ih
      · rw [standing_cons_of_neg fun h => hw h.1, ordinary_cons_of_neg hw, wildcards_cons_of_neg hw]
        exact ih.cons m

theorem wildcards_eq_nil_iff : wildcards rest = [] ↔ ∀ m ∈ rest, ¬ IsWildcard m.1 := by
  simp [wildcards]

/-- **All that is declared stands**, if no wildcard that has a schema is followed by another. -/
theorem filterMap_standing_iff :
    (standing content).filterMap declared? = content.filterMap declared? ↔
      KeepsSchemas content := by
  unfold KeepsSchemas
  induction content with
  | nil => exact iff_of_true rfl .nil
  | cons m rest ih =>
      rw [List.pairwise_cons]
      by_cases h : IsWildcard m.1 ∧ wildcards rest ≠ []
      · rw [standing_cons_of_pos h, List.filterMap_cons]
        cases hschema : schemaOf? m with
        | none =>
            rw [declared?, hschema, Option.map_none]
            simpa using ih
        | some schema =>
            rw [declared?, hschema, Option.map_some]
            constructor
            · intro heq
              have hlength := ((standing_sublist rest).filterMap declared?).length_le
              rw [heq, List.length_cons] at hlength
              exact absurd hlength (Nat.not_succ_le_self _)
            · rintro ⟨hnone, -⟩
              exact absurd (wildcards_eq_nil_iff.mpr fun m' hm' => hnone m' hm' h.1 rfl) h.2
      · have hnone : ∀ m' ∈ rest, IsWildcard m.1 → (schemaOf? m).isSome = true →
            ¬ IsWildcard m'.1 := by
          intro m' hm' hw _
          exact wildcards_eq_nil_iff.mp (not_not.mp fun hne => h ⟨hw, hne⟩) m' hm'
        rw [standing_cons_of_neg h, List.filterMap_cons, List.filterMap_cons, and_iff_right hnone,
          ← ih]
        cases declared? m with
        | none => exact Iff.rfl
        | some p => exact List.cons_inj_right p

end

/-! ## §2  The slots of the entries -/

theorem ContentMap.slots_perm {content : List (String × Json)} {map : ContentMap}
    (h : ContentMap.ofMembers content = .ok map) :
    map.slots.Perm ((standing content).filterMap declared?) := by
  obtain ⟨-, hentries, hwildcard⟩ := ContentMap.ofMembers_eq_ok_iff.mp h
  have hlast : (map.wildcard.map fun s => (MediaType.wildcard, s)).toList =
      (wildcards content).getLast?.toList.filterMap declared? := by
    rw [hwildcard]
    cases hlast : (wildcards content).getLast? with
    | none => rfl
    | some m =>
        have hw : IsWildcard m.1 :=
          of_decide_eq_true (List.mem_filter.mp (List.mem_of_getLast? hlast)).2
        rw [Option.bind_some, Option.toList_some, List.filterMap_cons, declared?,
          normalize_of_isWildcard hw]
        cases schemaOf? m <;> rfl
  unfold ContentMap.slots
  rw [hlast, hentries, ← List.filterMap_append]
  exact ((standing_perm content).filterMap declared?).symm

theorem entrySlots_perm {m : String × Json} {e : Entry} (h : Entry.ofMember m.1 m.2 = .ok e) :
    (Declaration.entrySlots e).Perm (memberSlots standing m) := by
  obtain ⟨hread, hbody⟩ := Entry.ofMember_eq_ok_iff.mp h
  unfold Declaration.entrySlots memberSlots
  rw [hread]
  rcases Body.ofJson_eq_ok_iff.mp hbody with ⟨hcontent, heq⟩ | ⟨content, map, hcontent, hmap, heq⟩
  · rw [heq, hcontent]
  · rw [heq, hcontent]
    exact (ContentMap.slots_perm hmap).map _

namespace Declaration

/-- **A declaration has a slot for each schema that stands.** -/
theorem slots_perm_standing {declaration : Json} {d : Declaration}
    (h : ofJson declaration = .ok d) : d.slots.Perm (slotsWith standing declaration) := by
  obtain ⟨entries, hentries, rfl⟩ := ofJson_eq_ok_iff.mp h
  refine ((sorted_perm entries).flatMap_right entrySlots).trans ?_
  unfold slotsWith
  generalize declaration.members = members at hentries ⊢
  have hread := Result.forall₂_of_mapM_eq_ok hentries
  clear h hentries
  induction hread with
  | nil => exact .nil
  | cons he _ ih =>
      rw [List.flatMap_cons, List.flatMap_cons]
      exact (entrySlots_perm he).append ih

end Declaration

theorem length_flatMap_le {α β : Type} {f g : α → List β} {xs : List α}
    (h : ∀ x ∈ xs, (f x).Sublist (g x)) : (xs.flatMap f).length ≤ (xs.flatMap g).length := by
  induction xs with
  | nil => exact Nat.le_refl _
  | cons x rest ih =>
      rw [List.flatMap_cons, List.flatMap_cons, List.length_append, List.length_append]
      exact Nat.add_le_add (h x List.mem_cons_self).length_le
        (ih fun y hy => h y (List.mem_cons_of_mem _ hy))

/-- Where parts are taken out of the pieces of a list, nothing is lost but by taking out less than a
whole piece. -/
theorem flatMap_perm_iff {α β : Type} {f g : α → List β} {xs : List α}
    (h : ∀ x ∈ xs, (f x).Sublist (g x)) :
    (xs.flatMap f).Perm (xs.flatMap g) ↔ ∀ x ∈ xs, f x = g x := by
  constructor
  · intro hperm
    have hlength := hperm.length_eq
    clear hperm
    induction xs with
    | nil => exact nofun
    | cons x rest ih =>
        rw [List.flatMap_cons, List.flatMap_cons, List.length_append, List.length_append] at hlength
        have hrest : ∀ y ∈ rest, (f y).Sublist (g y) := fun y hy =>
          h y (List.mem_cons_of_mem _ hy)
        have hhead := (h x List.mem_cons_self).length_le
        have htail := length_flatMap_le hrest
        rw [List.forall_mem_cons]
        exact ⟨(h x List.mem_cons_self).eq_of_length (by omega), ih hrest (by omega)⟩
  · intro heq
    rw [List.flatMap_congr heq]

section
variable {m : String × Json}

theorem memberSlots_sublist : (memberSlots standing m).Sublist (memberSlots id m) := by
  unfold memberSlots
  cases Selector.read? m.1 with
  | none => exact .refl _
  | some selector =>
      cases contentOf? m.2 with
      | none => exact .refl _
      | some content => exact ((standing_sublist content).filterMap declared?).map _

theorem memberSlots_standing_iff {e : Entry} (h : Entry.ofMember m.1 m.2 = .ok e) :
    memberSlots standing m = memberSlots id m ↔
      ∀ content, contentOf? m.2 = some content → KeepsSchemas content := by
  obtain ⟨hread, -⟩ := Entry.ofMember_eq_ok_iff.mp h
  unfold memberSlots
  rw [hread]
  cases hcontent : contentOf? m.2 with
  | none => exact iff_of_true rfl nofun
  | some content =>
      have hinjective : Function.Injective fun p : String × Json =>
          (⟨e.selector, some p.1, p.2⟩ : Slot) := by
        rintro ⟨key, schema⟩ ⟨key', schema'⟩ heq
        cases heq
        rfl
      rw [(List.map_injective_iff.mpr hinjective).eq_iff, id_eq, filterMap_standing_iff]
      simp

end

/-! ## §3  Wildcards without a schema -/

/-- Whether a member of a content map is a wildcard without a schema. -/
def IsIdle (m : String × Json) : Prop := IsWildcard m.1 ∧ schemaOf? m = none

instance : DecidablePred IsIdle := fun m =>
  decidable_of_iff (IsWildcard m.1 ∧ (schemaOf? m).isNone = true) (by simp [IsIdle])

/-- A content map without the idle wildcards. -/
def withoutIdle (content : List (String × Json)) : List (String × Json) :=
  content.filter fun m => decide (¬ IsIdle m)

/-- A value with the idle wildcards taken out of its content map, if it has one. -/
def cleared (value : Json) : Json :=
  match contentOf? value with
  | none => value
  | some content =>
      .object (Table.insert "content" (.object (withoutIdle content)) value.members)

/-- A declaration with the idle wildcards taken out of its content maps. -/
def withoutIdleWildcards : Json → Json
  | .object members => .object (members.map fun m => (m.1, cleared m.2))
  | v => v

/-- Whether the last wildcard has a schema if any of them has one. -/
def LastCounts (content : List (String × Json)) : Prop :=
  (∃ m ∈ wildcards content, (schemaOf? m).isSome = true) →
    ((wildcards content).getLast?.bind schemaOf?).isSome = true

section
variable {content : List (String × Json)}

theorem contentOf?_cleared {value : Json} (h : contentOf? value = some content) :
    contentOf? (cleared value) = some (withoutIdle content) := by
  unfold cleared
  rw [h]
  rw [contentOf?, Json.get?, Table.find?_insert_self]
  rfl

theorem ordinary_withoutIdle : ordinary (withoutIdle content) = ordinary content := by
  unfold ordinary withoutIdle
  rw [List.filter_filter]
  refine List.filter_congr fun m _ => ?_
  by_cases hw : IsWildcard m.1 <;> simp [IsIdle, hw]

theorem wildcards_withoutIdle : wildcards (withoutIdle content) =
    (wildcards content).filter fun m => (schemaOf? m).isSome := by
  unfold wildcards withoutIdle
  rw [List.filter_filter, List.filter_filter]
  refine List.filter_congr fun m _ => ?_
  by_cases hw : IsWildcard m.1 <;> cases hschema : schemaOf? m <;> simp [IsIdle, hw, hschema]

theorem getLast?_withoutIdle_iff :
    (wildcards (withoutIdle content)).getLast?.bind schemaOf? =
      (wildcards content).getLast?.bind schemaOf? ↔ LastCounts content := by
  unfold LastCounts
  rw [wildcards_withoutIdle]
  rcases List.eq_nil_or_concat (wildcards content) with hnil | ⟨front, m, hlast⟩
  · simp [hnil]
  · rw [hlast, List.concat_eq_append, List.filter_append, List.getLast?_concat, Option.bind_some]
    cases hschema : schemaOf? m with
    | some schema => simp [hschema]
    | none =>
        -- so only a wildcard in front can have a schema, and it is the last one that is left
        have hgone : [m].filter (fun m => (schemaOf? m).isSome) = [] := by simp [hschema]
        rw [hgone, List.append_nil]
        cases hleft : (front.filter fun m => (schemaOf? m).isSome).getLast? with
        | none =>
            refine iff_of_true rfl ?_
            rintro ⟨m', hm', hsome⟩
            rw [List.getLast?_eq_none_iff, List.filter_eq_nil_iff] at hleft
            rcases List.mem_append.mp hm' with hfront | hm'
            · exact absurd hsome (hleft m' hfront)
            · rw [List.mem_singleton.mp hm', hschema] at hsome
              cases hsome
        | some m' =>
            obtain ⟨hfront, hsome⟩ := List.mem_filter.mp (List.mem_of_getLast? hleft)
            rw [Option.bind_some]
            refine iff_of_false (fun hnone => ?_) fun hcounts => ?_
            · rw [hnone] at hsome
              cases hsome
            · cases hcounts ⟨m', List.mem_append_left _ hfront, hsome⟩

end

/-- A member is read as before without the idle wildcards, if the last wildcard counts. -/
theorem ofMember_cleared_iff {m : String × Json} {e : Entry}
    (h : Entry.ofMember m.1 m.2 = .ok e) :
    Entry.ofMember m.1 (cleared m.2) = .ok e ↔
      ∀ content, contentOf? m.2 = some content → LastCounts content := by
  obtain ⟨hread, hbody⟩ := Entry.ofMember_eq_ok_iff.mp h
  rw [Entry.ofMember_eq_ok_iff, and_iff_right hread]
  rcases Body.ofJson_eq_ok_iff.mp hbody with ⟨hcontent, heq⟩ | ⟨content, map, hcontent, hmap, heq⟩
  · rw [cleared, hcontent]
    exact iff_of_true hbody nofun
  · have hcleared : contentOf? (cleared m.2) = some (withoutIdle content) :=
      contentOf?_cleared hcontent
    obtain ⟨hall, hentries, hwildcard⟩ := ContentMap.ofMembers_eq_ok_iff.mp hmap
    have hsame : ContentMap.ofMembers (withoutIdle content) = .ok map ↔ LastCounts content := by
      rw [ContentMap.ofMembers_eq_ok_iff, ordinary_withoutIdle, and_iff_right hall,
        and_iff_right hentries, hwildcard, eq_comm, getLast?_withoutIdle_iff]
    rw [Body.ofJson_eq_ok_iff, heq, hcleared]
    simp [hcontent, ← hsame]

namespace Declaration

theorem members_withoutIdleWildcards (declaration : Json) :
    (withoutIdleWildcards declaration).members =
      declaration.members.map fun m => (m.1, cleared m.2) := by
  cases declaration with
  | object members => rfl
  | _ => rfl

theorem mapM_ofMember_cleared (members : List (String × Json)) :
    (members.map fun m => (m.1, cleared m.2)).mapM (fun m => Entry.ofMember m.1 m.2) =
      members.mapM fun m => Entry.ofMember m.1 (cleared m.2) := by
  rw [List.mapM_map, Function.comp_def]

/-- **Idle wildcards can be taken out of a declaration** where the last wildcards count. -/
theorem ofJson_withoutIdleWildcards_iff {declaration : Json} {d : Declaration}
    (h : ofJson declaration = .ok d) : ofJson (withoutIdleWildcards declaration) = .ok d ↔
      ∀ m ∈ declaration.members, ∀ content, contentOf? m.2 = some content →
        LastCounts content := by
  obtain ⟨entries, hentries, rfl⟩ := ofJson_eq_ok_iff.mp h
  rw [ofJson_eq_ok_iff, members_withoutIdleWildcards]
  constructor
  · rintro ⟨entries', hentries', heq⟩ m hm
    have hselectors := map_read?_of_mapM hentries'
    simp only [List.map_map, Function.comp_def] at hselectors
    have hsame : entries = entries' :=
      sorted_injective ((map_read?_of_mapM hentries).symm.trans hselectors)
        (Declaration.mk.inj heq)
    rw [← hsame, mapM_ofMember_cleared] at hentries'
    obtain ⟨e, he, he'⟩ := Result.exists_of_mapM_eq_mapM hentries hentries' m hm
    exact (ofMember_cleared_iff he).mp he'
  · intro hcounts
    refine ⟨entries, ?_, rfl⟩
    rw [mapM_ofMember_cleared, ← hentries]
    refine Result.mapM_congr fun m hm => ?_
    obtain ⟨e, he⟩ := exists_ofMember h hm
    rw [he]
    exact (ofMember_cleared_iff he).mpr (hcounts m hm)

/-! ## §4  All declared schemas -/

/-- **Which schemas of a declaration have a slot.**  There is one slot for each plain schema and for
each key of a content map that has a schema, except for the wildcards that another wildcard follows.
So none is missing, if and only if no wildcard that has a schema is followed by another.  And what
the declaration is read as does not change without the wildcards that have no schema, if and only if
the last wildcard of each content map has one where any of them has. -/
theorem slots_enumerate {declaration : Json} {d : Declaration} (h : ofJson declaration = .ok d) :
    d.slots.Perm (slotsWith standing declaration) ∧
    (d.slots.Perm (declaredSlots declaration) ↔
      ∀ m ∈ declaration.members, ∀ content, contentOf? m.2 = some content →
        KeepsSchemas content) ∧
    (ofJson (withoutIdleWildcards declaration) = .ok d ↔
      ∀ m ∈ declaration.members, ∀ content, contentOf? m.2 = some content →
        LastCounts content) := by
  have hstanding := slots_perm_standing h
  refine ⟨hstanding, ?_, ofJson_withoutIdleWildcards_iff h⟩
  have hflat : (slotsWith standing declaration).Perm (declaredSlots declaration) ↔
      ∀ m ∈ declaration.members, memberSlots standing m = memberSlots id m :=
    flatMap_perm_iff fun _ _ => memberSlots_sublist
  have hboth : d.slots.Perm (declaredSlots declaration) ↔
      (slotsWith standing declaration).Perm (declaredSlots declaration) := by
    constructor
    · intro hperm
      exact hstanding.symm.trans hperm
    · intro hperm
      exact hstanding.trans hperm
  rw [hboth, hflat]
  refine forall₂_congr fun m hm => ?_
  obtain ⟨e, he⟩ := exists_ofMember h hm
  exact memberSlots_standing_iff he

end Declaration

/-! ## §5  Two declarations with wildcards -/

/-- A member of a content map with a schema of one type. -/
def typedMember (key type : String) : String × Json :=
  (key, .object [("schema", .object [("type", .string type)])])

def noteContent : List (String × Json) :=
  [typedMember "text/plain" "string", typedMember "*/*" "object"]

def noteDeclaration : Json := .object [("200", .object [("content", .object noteContent)])]

/-- The keys of a content map with two wildcards; the second one declares nothing. -/
def countContent : List (String × Json) := [typedMember "*/*" "integer", (" */*", .object [])]

def countDeclaration : Json := .object [("200", .object [("content", .object countContent)])]

namespace Declaration

/-- A declaration of one content map is accepted if each key of one media type has a schema. -/
theorem exists_ofJson_single {content : List (String × Json)}
    (h : ∀ m ∈ ordinary content, (schemaOf? m).isSome = true) :
    ∃ d, ofJson (.object [("200", .object [("content", .object content)])]) = .ok d := by
  obtain ⟨map, hmap⟩ := ContentMap.exists_ofMembers h
  have hread : Selector.read? "200" = some (.exact 200) := by decide +kernel
  refine exists_ofJson fun m hm => ⟨⟨.exact 200, .content map⟩, ?_⟩
  rw [List.mem_singleton.mp hm]
  exact Entry.ofMember_eq_ok_iff.mpr
    ⟨hread, Body.ofJson_eq_ok_iff.mpr (Or.inr ⟨content, map, rfl, hmap, rfl⟩)⟩

theorem slots_enumerate_note : ∃ d, ofJson noteDeclaration = .ok d ∧
    d.slots.Perm (declaredSlots noteDeclaration) ∧
    ofJson (withoutIdleWildcards noteDeclaration) = .ok d := by
  obtain ⟨d, hd⟩ : ∃ d, ofJson noteDeclaration = .ok d := exists_ofJson_single (by decide +kernel)
  obtain ⟨-, hslots, hidle⟩ := slots_enumerate hd
  have honly : ∀ m ∈ noteDeclaration.members, ∀ content, contentOf? m.2 = some content →
      content = noteContent := by
    intro m hm content hcontent
    rw [List.mem_singleton.mp hm] at hcontent
    exact (Option.some.inj hcontent).symm
  refine ⟨d, hd, hslots.mpr fun m hm content hcontent => ?_,
    hidle.mpr fun m hm content hcontent => ?_⟩
  · rw [honly m hm content hcontent]
    have hplain : ¬ IsWildcard (typedMember "text/plain" "string").1 := by decide +kernel
    exact List.pairwise_pair.mpr fun hw => absurd hw hplain
  · rw [honly m hm content hcontent]
    exact fun _ => by decide +kernel

/-- **A declared schema can be lost**: the second wildcard has none, and takes away that of the
first; without it, the schema of the first has a slot. -/
theorem not_slots_enumerate : ∃ d, ofJson countDeclaration = .ok d ∧
    ¬ d.slots.Perm (declaredSlots countDeclaration) ∧
    ofJson (withoutIdleWildcards countDeclaration) ≠ .ok d := by
  obtain ⟨d, hd⟩ : ∃ d, ofJson countDeclaration = .ok d :=
    exists_ofJson_single (by decide +kernel)
  refine ⟨d, hd, fun hslots => ?_, fun hidle => ?_⟩
  · have hlength := (slots_perm_standing hd).symm.trans hslots |>.length_eq
    exact absurd hlength (by decide +kernel)
  · have hcounts : LastCounts countContent :=
      (ofJson_withoutIdleWildcards_iff hd).mp hidle _ List.mem_cons_self _ rfl
    have hwild : IsWildcard (typedMember "*/*" "integer").1 := by decide +kernel
    have hmem : typedMember "*/*" "integer" ∈ wildcards countContent :=
      List.mem_filter.mpr ⟨List.mem_cons_self, decide_eq_true hwild⟩
    have hsome := hcounts ⟨_, hmem, rfl⟩
    exact absurd hsome (by decide +kernel)

end Declaration

end ReplySchema.Response

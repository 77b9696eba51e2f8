import ReplySchema.Proofs.Response.FirstSlot
import ReplySchema.Proofs.Text.Ends

/-! # What is read of a declaration

Reading a declaration goes over selectors, and inside their content maps over media types.  Here
is in one piece what it comes to: the schemas of a content map stand under the media types of
their keys, and the wildcard is the last of the keys that stand for every media type
(`ContentMap.ofMembers_eq_ok_iff`).  The entries are those of the members, ordered by the rank of
their selectors (`Declaration.ofJson_eq_ok_iff`), and no two orders of entries with the same
selectors lead to the same (`Declaration.sorted_injective`).
-/

set_option autoImplicit false

namespace ReplySchema.Response

/-! ## §1  Content maps -/

def contentOf? (value : Json) : Option (List (String × Json)) :=
  (value.get? "content").bind Json.asObject?

/-- Whether a key of a content map stands for every media type. -/
def IsWildcard (key : String) : Prop := Text.trim key = MediaType.wildcard

instance : DecidablePred IsWildcard := fun key =>
  inferInstanceAs (Decidable (Text.trim key = MediaType.wildcard))

/-- The members of a content map that stand for every media type. -/
def wildcards (content : List (String × Json)) : List (String × Json) :=
  content.filter fun m => decide (IsWildcard m.1)

def ordinary (content : List (String × Json)) : List (String × Json) :=
  content.filter fun m => decide (¬ IsWildcard m.1)

def schemaOf? (m : String × Json) : Option Json := m.2.get? "schema"

/-- The schema of a member with the media type that it stands under. -/
def declared? (m : String × Json) : Option (String × Json) :=
  (schemaOf? m).map fun schema => (MediaType.normalize m.1, schema)

theorem normalize_of_isWildcard {key : String} (h : IsWildcard key) :
    MediaType.normalize key = MediaType.wildcard := by
  have hmark : ';' ∉ key.toList := by
    intro hmem
    have hstays : ';' ∈ (Text.trim key).toList := by
      rw [Text.trim, String.toList_ofList]
      exact Text.mem_stripWhile hmem (by decide)
    rw [h] at hstays
    exact absurd hstays (by decide)
  rw [MediaType.normalize, Text.cutAt_of_notMem hmark, String.ofList_toList, h]
  decide

section
variable {m : String × Json} {content : List (String × Json)}

theorem wildcards_cons_of_pos (h : IsWildcard m.1) :
    wildcards (m :: content) = m :: wildcards content :=
  List.filter_cons_of_pos (decide_eq_true h)

theorem wildcards_cons_of_neg (h : ¬ IsWildcard m.1) :
    wildcards (m :: content) = wildcards content :=
  List.filter_cons_of_neg (by rw [decide_eq_true_eq]; exact h)

theorem ordinary_cons_of_pos (h : IsWildcard m.1) : ordinary (m :: content) = ordinary content :=
  List.filter_cons_of_neg (by rw [decide_eq_true_eq, not_not]; exact h)

theorem ordinary_cons_of_neg (h : ¬ IsWildcard m.1) :
    ordinary (m :: content) = m :: ordinary content :=
  List.filter_cons_of_pos (decide_eq_true h)

end

namespace ContentMap

theorem add_wildcard {map : ContentMap} {m : String × Json} (h : IsWildcard m.1) :
    map.add m.1 m.2 = .ok { map with wildcard := schemaOf? m } :=
  if_pos h

theorem add_ordinary_eq_ok_iff {map after : ContentMap} {m : String × Json}
    (h : ¬ IsWildcard m.1) : map.add m.1 m.2 = .ok after ↔
      ∃ schema, schemaOf? m = some schema ∧
        { map with entries := map.entries ++ [(MediaType.normalize m.1, schema)] } = after := by
  have hkey : ¬ Text.trim m.1 = MediaType.wildcard := h
  unfold add schemaOf?
  rw [if_neg hkey]
  cases m.2.get? "schema" with
  | none => simp
  | some schema => simp

/-- What adding members to a content map comes to. -/
theorem foldlM_add_eq_ok_iff {content : List (String × Json)} {before after : ContentMap} :
    content.foldlM (fun map m => map.add m.1 m.2) before = .ok after ↔
      (∀ m ∈ ordinary content, (schemaOf? m).isSome = true) ∧
      after.entries = before.entries ++ (ordinary content).filterMap declared? ∧
      after.wildcard = ((wildcards content).getLast?.map schemaOf?).getD before.wildcard := by
  induction content generalizing before with
  | nil =>
      rw [List.foldlM_nil, Result.pure_eq_ok]
      obtain ⟨entries, wildcard⟩ := before
      obtain ⟨entries', wildcard'⟩ := after
      simp only [mk.injEq, ordinary, wildcards, List.filter_nil, List.filterMap_nil,
        List.append_nil, List.getLast?_nil, Option.map_none, Option.getD_none, List.not_mem_nil,
        false_implies, implies_true, true_and]
      exact and_congr eq_comm eq_comm
  | cons m rest ih =>
      rw [List.foldlM_cons, Result.bind_eq_ok]
      by_cases hw : IsWildcard m.1
      · have hlast : ((wildcards (m :: rest)).getLast?.map schemaOf?).getD before.wildcard =
            ((wildcards rest).getLast?.map schemaOf?).getD (schemaOf? m) := by
          rw [wildcards_cons_of_pos hw, List.getLast?_cons]
          cases (wildcards rest).getLast? <;> rfl
        rw [hlast, ordinary_cons_of_pos hw, add_wildcard hw]
        constructor
        · rintro ⟨_, heq, h⟩
          cases heq
          exact ih.mp h
        · intro h
          exact ⟨_, rfl, ih.mpr h⟩
      · rw [wildcards_cons_of_neg hw, ordinary_cons_of_neg hw, List.forall_mem_cons,
          List.filterMap_cons]
        constructor
        · rintro ⟨_, hadd, h⟩
          obtain ⟨schema, hschema, rfl⟩ := (add_ordinary_eq_ok_iff hw).mp hadd
          obtain ⟨hall, hentries, hwildcard⟩ := ih.mp h
          refine ⟨⟨by rw [hschema]; rfl, hall⟩, ?_, hwildcard⟩
          simp [hentries, declared?, hschema]
        · rintro ⟨⟨hsome, hall⟩, hentries, hwildcard⟩
          obtain ⟨schema, hschema⟩ := Option.isSome_iff_exists.mp hsome
          refine ⟨_, (add_ordinary_eq_ok_iff hw).mpr ⟨schema, hschema, rfl⟩,
            ih.mpr ⟨hall, ?_, hwildcard⟩⟩
          simp [hentries, declared?, hschema]

/-- **What a content map is read as.** -/
theorem ofMembers_eq_ok_iff {content : List (String × Json)} {map : ContentMap} :
    ofMembers content = .ok map ↔
      (∀ m ∈ ordinary content, (schemaOf? m).isSome = true) ∧
      map.entries = (ordinary content).filterMap declared? ∧
      map.wildcard = (wildcards content).getLast?.bind schemaOf? := by
  unfold ofMembers
  rw [foldlM_add_eq_ok_iff, List.nil_append]
  cases (wildcards content).getLast? <;> rfl

/-- A content map is accepted if no key of one media type lacks its schema. -/
theorem exists_ofMembers {content : List (String × Json)}
    (h : ∀ m ∈ ordinary content, (schemaOf? m).isSome = true) :
    ∃ map, ofMembers content = .ok map :=
  ⟨⟨_, _⟩, ofMembers_eq_ok_iff.mpr ⟨h, rfl, rfl⟩⟩

end ContentMap

/-! ## §2  Entries -/

theorem Body.ofJson_eq_ok_iff {value : Json} {body : Body} : Body.ofJson value = .ok body ↔
    (contentOf? value = none ∧ body = .schema value) ∨
    ∃ content map, contentOf? value = some content ∧ ContentMap.ofMembers content = .ok map ∧
      body = .content map := by
  unfold Body.ofJson contentOf?
  cases (value.get? "content").bind Json.asObject? with
  | none => simp [eq_comm]
  | some content =>
      simp only [Result.map_eq_ok, reduceCtorEq, false_and, false_or, Option.some.injEq]
      constructor
      · rintro ⟨map, hmap, rfl⟩
        exact ⟨content, map, rfl, hmap, rfl⟩
      · rintro ⟨_, map, rfl, hmap, rfl⟩
        exact ⟨map, hmap, rfl⟩

theorem Entry.ofMember_eq_ok_iff {key : String} {value : Json} {e : Entry} :
    Entry.ofMember key value = .ok e ↔
      Selector.read? key = some e.selector ∧ Body.ofJson value = .ok e.body := by
  unfold Entry.ofMember
  cases Selector.read? key with
  | none => simp
  | some selector =>
      obtain ⟨selector', body⟩ := e
      simp only [Result.map_eq_ok, Entry.mk.injEq, Option.some.injEq]
      constructor
      · rintro ⟨_, hbody, rfl, rfl⟩
        exact ⟨rfl, hbody⟩
      · rintro ⟨rfl, hbody⟩
        exact ⟨_, hbody, rfl, rfl⟩

/-! ## §3  The order of the entries -/

namespace Declaration

theorem ofJson_eq_ok_iff {declaration : Json} {d : Declaration} :
    ofJson declaration = .ok d ↔ ∃ entries,
      declaration.members.mapM (fun m => Entry.ofMember m.1 m.2) = .ok entries ∧
        d = ⟨sorted entries⟩ := by
  unfold ofJson
  rw [Result.bind_eq_ok]
  constructor
  · rintro ⟨entries, hentries, heq⟩
    exact ⟨entries, hentries, (Result.pure_eq_ok.mp heq).symm⟩
  · rintro ⟨entries, hentries, rfl⟩
    exact ⟨entries, hentries, Result.pure_eq_ok.mpr rfl⟩

theorem exists_ofMember {declaration : Json} {d : Declaration} (h : ofJson declaration = .ok d)
    {m : String × Json} (hm : m ∈ declaration.members) : ∃ e, Entry.ofMember m.1 m.2 = .ok e := by
  obtain ⟨entries, hentries, -⟩ := ofJson_eq_ok_iff.mp h
  exact Result.exists_of_mapM_eq_ok hentries m hm

theorem exists_ofJson {declaration : Json}
    (h : ∀ m ∈ declaration.members, ∃ e, Entry.ofMember m.1 m.2 = .ok e) :
    ∃ d, ofJson declaration = .ok d := by
  obtain ⟨entries, hentries⟩ := Result.exists_mapM_eq_ok h
  exact ⟨_, ofJson_eq_ok_iff.mpr ⟨entries, hentries, rfl⟩⟩

theorem map_read?_of_mapM {members : List (String × Json)} {entries : List Entry}
    (h : members.mapM (fun m => Entry.ofMember m.1 m.2) = .ok entries) :
    members.map (fun m => Selector.read? m.1) = entries.map fun e => some e.selector := by
  have hread := Result.forall₂_of_mapM_eq_ok h
  clear h
  induction hread with
  | nil => rfl
  | cons he _ ih =>
      rw [List.map_cons, List.map_cons, ih, (Entry.ofMember_eq_ok_iff.mp he).1]

theorem rank_cases (selector : Selector) :
    selector.rank = 0 ∨ selector.rank = 1 ∨ selector.rank = 2 := by
  cases selector with
  | exact code => exact Or.inl rfl
  | hundred digit => exact Or.inr (Or.inl rfl)
  | rest => exact Or.inr (Or.inr rfl)

theorem ranked_cons (e : Entry) (rest : List Entry) (rank : Nat) : ranked (e :: rest) rank =
    if e.selector.rank = rank then e :: ranked rest rank else ranked rest rank := by
  unfold ranked
  rw [List.filter_cons]
  simp only [beq_iff_eq]

/-- Ordering entries loses none of them. -/
theorem sorted_perm (entries : List Entry) : (sorted entries).Perm entries := by
  induction entries with
  | nil => exact .nil
  | cons e rest ih =>
      unfold sorted at ih ⊢
      simp only [ranked_cons]
      rcases rank_cases e.selector with h | h | h
      · rw [if_pos h, if_neg (by omega), if_neg (by omega)]
        exact ih.cons e
      · have hmiddle : (ranked rest 0 ++ (e :: ranked rest 1 ++ ranked rest 2)).Perm
            (e :: (ranked rest 0 ++ (ranked rest 1 ++ ranked rest 2))) := List.perm_middle
        rw [if_neg (by omega), if_pos h, if_neg (by omega), List.append_assoc]
        refine hmiddle.trans ?_
        rw [← List.append_assoc]
        exact ih.cons e
      · rw [if_neg (by omega), if_neg (by omega), if_pos h]
        exact List.perm_middle.trans (ih.cons e)

theorem mem_entries_iff {declaration : Json} {d : Declaration} (h : ofJson declaration = .ok d)
    {e : Entry} : e ∈ d.entries ↔ ∃ m ∈ declaration.members, Entry.ofMember m.1 m.2 = .ok e := by
  obtain ⟨entries, hentries, rfl⟩ := ofJson_eq_ok_iff.mp h
  rw [(sorted_perm entries).mem_iff]
  constructor
  · exact Result.mem_of_mapM_eq_ok hentries e
  · rintro ⟨m, hm, he⟩
    exact Result.mem_mapM_of_mem hentries hm he

theorem ranked_ranked (entries : List Entry) (rank rank' : Nat) :
    ranked (ranked entries rank) rank' = if rank = rank' then ranked entries rank else [] := by
  unfold ranked
  rw [List.filter_filter]
  by_cases h : rank = rank'
  · rw [if_pos h, h]
    simp only [Bool.and_self]
  · rw [if_neg h, List.filter_eq_nil_iff]
    intro e _ hboth
    rw [Bool.and_eq_true, beq_iff_eq, beq_iff_eq] at hboth
    exact h (hboth.2.symm.trans hboth.1)

theorem ranked_sorted (entries : List Entry) (selector : Selector) :
    ranked (sorted entries) selector.rank = ranked entries selector.rank := by
  have happend : ∀ xs ys : List Entry, ∀ rank, ranked (xs ++ ys) rank =
      ranked xs rank ++ ranked ys rank := fun xs ys rank => List.filter_append _ _
  unfold sorted
  rw [happend, happend, ranked_ranked, ranked_ranked, ranked_ranked]
  rcases rank_cases selector with h | h | h <;> rw [h] <;> simp

/-- Entries with the same selectors are ordered alike, so that each keeps its place. -/
theorem sorted_injective {entries entries' : List Entry}
    (hselectors : entries.map (fun e => some e.selector) = entries'.map fun e => some e.selector)
    (h : sorted entries = sorted entries') : entries = entries' := by
  have hranked : ∀ selector : Selector,
      ranked entries selector.rank = ranked entries' selector.rank := by
    intro selector
    rw [← ranked_sorted entries, h, ranked_sorted]
  clear h
  induction entries generalizing entries' with
  | nil => exact (List.map_eq_nil_iff.mp hselectors.symm).symm
  | cons e rest ih =>
      cases entries' with
      | nil => cases hselectors
      | cons e' rest' =>
          obtain ⟨hsome, hrest⟩ := List.cons.inj hselectors
          have hselector : e.selector = e'.selector := Option.some.inj hsome
          have hhead := hranked e.selector
          rw [ranked_cons, ranked_cons, if_pos rfl, if_pos (by rw [hselector])] at hhead
          obtain ⟨heq, htail⟩ := List.cons.inj hhead
          have hranked' : ∀ selector : Selector,
              ranked rest selector.rank = ranked rest' selector.rank := by
            intro selector
            by_cases hrank : e.selector.rank = selector.rank
            · rw [← hrank]
              exact htail
            · have hboth := hranked selector
              rwa [ranked_cons, ranked_cons, if_neg hrank, if_neg (by rwa [← hselector])] at hboth
          rw [heq, ih hrest hranked']

end Declaration

end ReplySchema.Response

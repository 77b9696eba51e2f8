import Mathlib.Data.List.Nodup
import ReplySchema.Proofs.Response.Contents
import ReplySchema.Proofs.Response.MediaType
import ReplySchema.Proofs.Response.Separation

/-! # Negotiation

Which slot applies to a status and a media type can be said of the declaration as it is written,
without an order of its keys (`Negotiates`).  Among the selectors that cover the status the most
specific one counts that has something for the media type, and where a content map has nothing, the
policy says whether the less specific ones are asked at all.

A lookup finds that slot, if no two keys are read as the same selector, or as the same media type
within one content map.  So it does not matter in which order the keys are declared
(`resolve?_iff_negotiates`).
-/

set_option autoImplicit false

namespace ReplySchema.Response

/-! ## §1  What a declaration says -/

def Offers (content : List (String × Json)) (mediaType : String) (schema : Json) : Prop :=
  ∃ m ∈ content, ¬ IsWildcard m.1 ∧ MediaType.normalize m.1 = mediaType ∧
    schemaOf? m = some schema

/-- Whether a content map has a schema for every media type. -/
def OffersAny (content : List (String × Json)) (schema : Json) : Prop :=
  ∃ m ∈ content, IsWildcard m.1 ∧ schemaOf? m = some schema

/-- `Settles value mediaType key schema`: what stands under a selector has this schema for a media
type, and has it under this key. -/
inductive Settles (value : Json) (mediaType : String) : Option String → Json → Prop where
  /-- A plain schema is for all media types. -/
  | plain (h : contentOf? value = none) : Settles value mediaType none value
  | media {content : List (String × Json)} {schema : Json} (h : contentOf? value = some content)
      (hoffers : Offers content mediaType schema) : Settles value mediaType (some mediaType) schema
  | wildcard {content : List (String × Json)} {schema : Json}
      (h : contentOf? value = some content) (hnone : ∀ other, ¬ Offers content mediaType other)
      (hoffers : OffersAny content schema) :
      Settles value mediaType (some MediaType.wildcard) schema

/-- Whether what stands under a selector has nothing for a media type. -/
def Lacks (value : Json) (mediaType : String) : Prop :=
  ∀ key schema, ¬ Settles value mediaType key schema

/-- The slot that a declaration has for a status and a media type: it is that of a selector that
covers the status, and every more specific one that does so has nothing and lets the search go
on. -/
def Negotiates (declaration : Json) (policy : Fallthrough) (status : Nat) (mediaType : String)
    (slot : Slot) : Prop :=
  ∃ m ∈ declaration.members, Selector.read? m.1 = some slot.selector ∧
    slot.selector.covers status = true ∧ Settles m.2 mediaType slot.mediaType slot.schema ∧
    ∀ m' ∈ declaration.members, ∀ selector, Selector.read? m'.1 = some selector →
      selector.covers status = true → selector.rank < slot.selector.rank →
      policy = .next ∧ Lacks m'.2 mediaType

/-- Whether the keys of a content map are read as different media types. -/
def MediaAreDistinct (content : List (String × Json)) : Prop :=
  (content.map fun m => MediaType.normalize m.1).Nodup

/-- Whether the keys of a declaration are read as different selectors, and those of its content maps
as different media types. -/
structure KeysAreDistinct (declaration : Json) : Prop where
  selectors : (declaration.members.map fun m => Selector.read? m.1).Nodup
  media : ∀ m ∈ declaration.members, ∀ content, contentOf? m.2 = some content →
    MediaAreDistinct content

/-! ## §2  Content maps -/

section
variable {content : List (String × Json)} {map : ContentMap} {mediaType : String}

theorem wildcards_of_distinct (h : MediaAreDistinct content) :
    wildcards content = [] ∨ ∃ m, wildcards content = [m] := by
  have hnodup : ((wildcards content).map fun m => MediaType.normalize m.1).Nodup :=
    h.sublist (List.filter_sublist.map _)
  have hsame : ∀ m ∈ wildcards content, MediaType.normalize m.1 = MediaType.wildcard := by
    intro m hm
    exact normalize_of_isWildcard (of_decide_eq_true (List.mem_filter.mp hm).2)
  rw [List.map_eq_replicate_iff.mpr hsame, List.nodup_replicate] at hnodup
  cases hwild : wildcards content with
  | nil => exact Or.inl rfl
  | cons m rest =>
      rw [hwild, List.length_cons] at hnodup
      have hrest : rest = [] := List.eq_nil_of_length_eq_zero (by omega)
      exact Or.inr ⟨m, by rw [hrest]⟩

theorem offers_iff (h : ContentMap.ofMembers content = .ok map) {schema : Json} :
    Offers content mediaType schema ↔ (mediaType, schema) ∈ map.entries := by
  obtain ⟨-, hentries, -⟩ := ContentMap.ofMembers_eq_ok_iff.mp h
  rw [hentries, List.mem_filterMap]
  constructor
  · rintro ⟨m, hm, hw, rfl, hschema⟩
    exact ⟨m, List.mem_filter.mpr ⟨hm, decide_eq_true hw⟩, by rw [declared?, hschema]; rfl⟩
  · rintro ⟨m, hm, hdeclared⟩
    obtain ⟨hm, hw⟩ := List.mem_filter.mp hm
    obtain ⟨schema', hschema, heq⟩ := Option.map_eq_some_iff.mp hdeclared
    obtain ⟨rfl, rfl⟩ := Prod.mk.inj heq
    exact ⟨m, hm, of_decide_eq_true hw, rfl, hschema⟩

theorem offersAny_iff (h : ContentMap.ofMembers content = .ok map)
    (hdistinct : MediaAreDistinct content) {schema : Json} :
    OffersAny content schema ↔ map.wildcard = some schema := by
  obtain ⟨-, -, hwildcard⟩ := ContentMap.ofMembers_eq_ok_iff.mp h
  have hmem : OffersAny content schema ↔ ∃ m ∈ wildcards content, schemaOf? m = some schema := by
    simp [OffersAny, wildcards, and_assoc]
  rw [hmem, hwildcard]
  rcases wildcards_of_distinct hdistinct with hwild | ⟨m, hwild⟩ <;> rw [hwild] <;> simp

/-- An entry is found by its media type. -/
theorem find?_entries_iff (h : ContentMap.ofMembers content = .ok map)
    (hdistinct : MediaAreDistinct content) {e : String × Json} :
    map.entries.find? (fun e => e.1 == mediaType) = some e ↔
      e.1 = mediaType ∧ Offers content mediaType e.2 := by
  have hnodup : (map.entries.map (·.1)).Nodup := by
    obtain ⟨hall, hentries, -⟩ := ContentMap.ofMembers_eq_ok_iff.mp h
    have hkeys : map.entries.map (·.1) =
        (ordinary content).map fun m => MediaType.normalize m.1 := by
      rw [hentries, List.map_filterMap, ← List.filterMap_eq_map]
      refine List.filterMap_congr fun m hm => ?_
      obtain ⟨schema, hschema⟩ := Option.isSome_iff_exists.mp (hall m hm)
      rw [declared?, hschema]
      rfl
    rw [hkeys]
    exact hdistinct.sublist (List.filter_sublist.map _)
  rw [offers_iff h]
  constructor
  · intro hfind
    have hkey : e.1 = mediaType := by simpa using List.find?_some hfind
    exact ⟨hkey, hkey ▸ List.mem_of_find?_eq_some hfind⟩
  · rintro ⟨rfl, hmem⟩
    cases hfind : map.entries.find? fun e' => e'.1 == e.1 with
    | none =>
        have hnot := List.find?_eq_none.mp hfind _ hmem
        simp at hnot
    | some e' =>
        have hkey : e'.1 = e.1 := by simpa using List.find?_some hfind
        rw [List.inj_on_of_nodup_map hnodup (List.mem_of_find?_eq_some hfind) hmem hkey]

theorem ContentMap.find?_iff (h : ContentMap.ofMembers content = .ok map)
    (hdistinct : MediaAreDistinct content) {key : String} {schema : Json} :
    map.find? mediaType = some (key, schema) ↔
      (key = mediaType ∧ Offers content mediaType schema) ∨
      (key = MediaType.wildcard ∧ (∀ other, ¬ Offers content mediaType other) ∧
        OffersAny content schema) := by
  have hentry : ∀ {e}, map.entries.find? (fun e => e.1 == mediaType) = some e ↔
      e.1 = mediaType ∧ Offers content mediaType e.2 := find?_entries_iff h hdistinct
  rw [offersAny_iff h hdistinct]
  unfold ContentMap.find?
  cases hfind : map.entries.find? fun e => e.1 == mediaType with
  | some e =>
      have hoffers := hentry.mp hfind
      constructor
      · intro heq
        cases heq
        exact Or.inl hoffers
      · rintro (⟨rfl, hschema⟩ | ⟨-, hnone, -⟩)
        · exact hfind.symm.trans (hentry.mpr ⟨rfl, hschema⟩)
        · exact absurd hoffers.2 (hnone e.2)
  | none =>
      have hnone : ∀ other, ¬ Offers content mediaType other := by
        intro other hoffers
        have hsome : map.entries.find? (fun e => e.1 == mediaType) = some (mediaType, other) :=
          hentry.mpr ⟨rfl, hoffers⟩
        rw [hfind] at hsome
        cases hsome
      constructor
      · intro heq
        obtain ⟨w, hw, heq⟩ := Option.map_eq_some_iff.mp heq
        cases heq
        exact Or.inr ⟨rfl, hnone, hw⟩
      · rintro (⟨-, hoffers⟩ | ⟨rfl, -, hw⟩)
        · exact absurd hoffers (hnone schema)
        · exact Option.map_eq_some_iff.mpr ⟨schema, hw, rfl⟩

/-- **An entry has for a media type what is settled under its selector.** -/
theorem Entry.answer?_iff {m : String × Json} {e : Entry} (he : Entry.ofMember m.1 m.2 = .ok e)
    (hdistinct : ∀ content, contentOf? m.2 = some content → MediaAreDistinct content)
    {slot : Slot} : e.answer? mediaType = some slot ↔
      slot.selector = e.selector ∧ Settles m.2 mediaType slot.mediaType slot.schema := by
  obtain ⟨-, hbody⟩ := Entry.ofMember_eq_ok_iff.mp he
  obtain ⟨selector, key, schema⟩ := slot
  unfold Entry.answer?
  rcases Body.ofJson_eq_ok_iff.mp hbody with ⟨hcontent, heq⟩ | ⟨content, map, hcontent, hmap, heq⟩
  · simp only [heq, Option.some.injEq, Slot.mk.injEq]
    constructor
    · rintro ⟨rfl, rfl, rfl⟩
      exact ⟨rfl, .plain hcontent⟩
    · rintro ⟨rfl, hsettles⟩
      cases hsettles with
      | plain => exact ⟨rfl, rfl, rfl⟩
      | media h => cases hcontent.symm.trans h
      | wildcard h => cases hcontent.symm.trans h
  · simp only [heq, Option.map_eq_some_iff]
    constructor
    · rintro ⟨⟨key', schema'⟩, hfind, hslot⟩
      cases hslot
      refine ⟨rfl, ?_⟩
      rcases (ContentMap.find?_iff hmap (hdistinct content hcontent)).mp hfind with
        ⟨rfl, hoffers⟩ | ⟨rfl, hnone, hoffers⟩
      · exact .media hcontent hoffers
      · exact .wildcard hcontent hnone hoffers
    · rintro ⟨rfl, hsettles⟩
      cases hsettles with
      | plain h => cases hcontent.symm.trans h
      | media h hoffers =>
          cases hcontent.symm.trans h
          exact ⟨(mediaType, schema), (ContentMap.find?_iff hmap (hdistinct _ hcontent)).mpr
            (Or.inl ⟨rfl, hoffers⟩), rfl⟩
      | wildcard h hnone hoffers =>
          cases hcontent.symm.trans h
          exact ⟨(MediaType.wildcard, schema), (ContentMap.find?_iff hmap
            (hdistinct _ hcontent)).mpr (Or.inr ⟨rfl, hnone, hoffers⟩), rfl⟩

theorem Entry.answer?_eq_none_iff {m : String × Json} {e : Entry}
    (he : Entry.ofMember m.1 m.2 = .ok e)
    (hdistinct : ∀ content, contentOf? m.2 = some content → MediaAreDistinct content) :
    e.answer? mediaType = none ↔ Lacks m.2 mediaType := by
  rw [Option.eq_none_iff_forall_ne_some]
  constructor
  · intro h key schema hsettles
    exact h ⟨e.selector, key, schema⟩ ((Entry.answer?_iff he hdistinct).mpr ⟨rfl, hsettles⟩)
  · intro h slot hanswer
    exact h _ _ ((Entry.answer?_iff he hdistinct).mp hanswer).2

end

/-! ## §3  The order of the entries -/

theorem Selector.eq_of_rank_eq {selector selector' : Selector} {status : Nat}
    (h : selector.covers status = true) (h' : selector'.covers status = true)
    (hrank : selector.rank = selector'.rank) : selector = selector' := by
  cases selector <;> cases selector' <;> simp_all [Selector.covers, Selector.rank]

namespace Declaration

theorem pairwise_sorted (entries : List Entry) :
    (sorted entries).Pairwise fun e e' => e.selector.rank ≤ e'.selector.rank := by
  have hranked : ∀ rank, (ranked entries rank).Pairwise fun e e' =>
      e.selector.rank ≤ e'.selector.rank := by
    intro rank
    refine List.pairwise_of_forall_mem_list fun e he e' he' => ?_
    rw [(mem_ranked.mp he).2, (mem_ranked.mp he').2]
  unfold sorted
  simp only [List.pairwise_append, hranked, List.mem_append, mem_ranked, true_and]
  constructor
  · rintro e ⟨-, h⟩ e' ⟨-, h'⟩
    omega
  · rintro e (⟨-, h⟩ | ⟨-, h⟩) e' ⟨-, h'⟩ <;> omega

/-- The entries that cover a status stand from the more specific to the less specific, each of them
of a rank of its own. -/
theorem pairwise_covering {declaration : Json} {d : Declaration} (h : ofJson declaration = .ok d)
    (hdistinct : (declaration.members.map fun m => Selector.read? m.1).Nodup) (status : Nat) :
    (d.entries.filter fun e => e.selector.covers status).Pairwise fun e e' =>
      e.selector.rank < e'.selector.rank := by
  obtain ⟨entries, hentries, rfl⟩ := ofJson_eq_ok_iff.mp h
  rw [map_read?_of_mapM hentries] at hdistinct
  have hdifferent : (sorted entries).Pairwise fun e e' => e.selector ≠ e'.selector := by
    have hnodup : ((sorted entries).map fun e => some e.selector).Nodup :=
      ((sorted_perm entries).map _).nodup_iff.mpr hdistinct
    exact (List.pairwise_map.mp hnodup).imp fun hne heq => hne (congrArg some heq)
  have hboth := ((pairwise_sorted entries).and hdifferent).filter
    fun e => e.selector.covers status
  refine hboth.imp_of_mem fun he he' hpair => ?_
  obtain ⟨-, hcovers⟩ := List.mem_filter.mp he
  obtain ⟨-, hcovers'⟩ := List.mem_filter.mp he'
  refine Nat.lt_of_le_of_ne hpair.1 fun hrank => hpair.2 ?_
  exact Selector.eq_of_rank_eq hcovers hcovers' hrank

theorem mem_front_of_rank_lt {front back : List Entry} {e e' : Entry}
    (h : (front ++ e :: back).Pairwise fun e e' => e.selector.rank < e'.selector.rank)
    (hmem : e' ∈ front ++ e :: back) (hrank : e'.selector.rank < e.selector.rank) :
    e' ∈ front := by
  obtain ⟨-, hback, -⟩ := List.pairwise_append.mp h
  rcases List.mem_append.mp hmem with hin | hin
  · exact hin
  · rcases List.mem_cons.mp hin with rfl | hin
    · exact absurd hrank (Nat.lt_irrefl _)
    · exact absurd ((List.pairwise_cons.mp hback).1 e' hin) (Nat.lt_asymm hrank)

theorem select?_cons (policy : Fallthrough) (mediaType : String) (e : Entry) (rest : List Entry) :
    select? policy mediaType (e :: rest) =
      match e.answer? mediaType with
      | some slot => some slot
      | none => if policy = .next then select? policy mediaType rest else none := by
  obtain ⟨selector, body⟩ := e
  rw [select?.eq_def]
  unfold Entry.answer?
  cases body with
  | schema schema => rfl
  | content map =>
      dsimp only
      cases map.find? mediaType with
      | some found => rfl
      | none => cases policy <;> rfl

/-- What is selected is what the first entry has that has something, if the policy lets the search
come to it. -/
theorem select?_iff {policy : Fallthrough} {mediaType : String} {slot : Slot}
    {entries : List Entry} : select? policy mediaType entries = some slot ↔
      ∃ front e back, entries = front ++ e :: back ∧ e.answer? mediaType = some slot ∧
        ∀ f ∈ front, policy = .next ∧ f.answer? mediaType = none := by
  induction entries with
  | nil => simp [select?]
  | cons e rest ih =>
      rw [select?_cons]
      cases hanswer : e.answer? mediaType with
      | some slot' =>
          constructor
          · intro heq
            exact ⟨[], e, rest, rfl, hanswer.trans heq, List.forall_mem_nil _⟩
          · rintro ⟨front, e', back, heq, hanswer', hfront⟩
            cases front with
            | nil =>
                cases heq
                exact hanswer.symm.trans hanswer'
            | cons f front =>
                cases heq
                have hnone := (hfront e List.mem_cons_self).2
                rw [hanswer] at hnone
                cases hnone
      | none =>
          constructor
          · intro h
            dsimp only at h
            split at h
            · next hnext =>
                obtain ⟨front, e', back, rfl, hanswer', hfront⟩ := ih.mp h
                exact ⟨e :: front, e', back, rfl, hanswer',
                  List.forall_mem_cons.mpr ⟨⟨hnext, hanswer⟩, hfront⟩⟩
            · cases h
          · rintro ⟨front, e', back, heq, hanswer', hfront⟩
            cases front with
            | nil =>
                cases heq
                cases hanswer.symm.trans hanswer'
            | cons f front =>
                cases heq
                obtain ⟨⟨hnext, -⟩, hfront⟩ := List.forall_mem_cons.mp hfront
                exact (if_pos hnext).trans (ih.mpr ⟨front, e', back, rfl, hanswer', hfront⟩)

/-! ## §4  Lookups -/

variable {declaration declaration' : Json} {d d' : Declaration}

/-- **A lookup finds what is negotiated.** -/
theorem resolve?_iff (h : ofJson declaration = .ok d) (hdistinct : KeysAreDistinct declaration)
    {status : Nat} {contentType : Option String} {policy : Fallthrough} {slot : Slot} :
    d.resolve? status contentType policy = some slot ↔
      Negotiates declaration policy status (asked contentType) slot := by
  have hpairwise := pairwise_covering h hdistinct.selectors status
  have hmem : ∀ {e}, e ∈ d.entries.filter (fun e => e.selector.covers status) ↔
      (∃ m ∈ declaration.members, Entry.ofMember m.1 m.2 = .ok e) ∧
        e.selector.covers status = true := by
    intro e
    rw [List.mem_filter, mem_entries_iff h]
  change select? policy (asked contentType) _ = _ ↔ _
  -- The entries that cover the status stand in strict order, so what precedes one is what outranks
  -- it.
  generalize d.entries.filter (fun e => e.selector.covers status) = covering at hpairwise hmem
  rw [select?_iff]
  constructor
  · rintro ⟨front, e, back, rfl, hanswer, hfront⟩
    obtain ⟨⟨m, hm, he⟩, hcovers⟩ := hmem.mp (List.mem_append_right front List.mem_cons_self)
    obtain ⟨hselector, hsettles⟩ := (Entry.answer?_iff he (hdistinct.media m hm)).mp hanswer
    obtain ⟨hread, -⟩ := Entry.ofMember_eq_ok_iff.mp he
    rw [← hselector] at hread hcovers
    refine ⟨m, hm, hread, hcovers, hsettles, fun m' hm' selector hread' hcovers' hrank => ?_⟩
    obtain ⟨e', he'⟩ := exists_ofMember h hm'
    have hselector' : selector = e'.selector :=
      Option.some.inj (hread'.symm.trans (Entry.ofMember_eq_ok_iff.mp he').1)
    rw [hselector'] at hcovers' hrank
    rw [hselector] at hrank
    have hfront' : e' ∈ front :=
      mem_front_of_rank_lt hpairwise (hmem.mpr ⟨⟨m', hm', he'⟩, hcovers'⟩) hrank
    obtain ⟨hnext, hnone⟩ := hfront e' hfront'
    exact ⟨hnext, (Entry.answer?_eq_none_iff he' (hdistinct.media m' hm')).mp hnone⟩
  · rintro ⟨m, hm, hread, hcovers, hsettles, hlower⟩
    obtain ⟨e, he⟩ := exists_ofMember h hm
    have hselector : slot.selector = e.selector :=
      Option.some.inj (hread.symm.trans (Entry.ofMember_eq_ok_iff.mp he).1)
    rw [hselector] at hcovers hlower
    obtain ⟨front, back, rfl⟩ := List.append_of_mem (hmem.mpr ⟨⟨m, hm, he⟩, hcovers⟩)
    refine ⟨front, e, back, rfl,
      (Entry.answer?_iff he (hdistinct.media m hm)).mpr ⟨hselector, hsettles⟩, fun f hf => ?_⟩
    obtain ⟨⟨m', hm', hf'⟩, hcovers'⟩ := hmem.mp (List.mem_append_left (e :: back) hf)
    have hrank : f.selector.rank < e.selector.rank :=
      (List.pairwise_append.mp hpairwise).2.2 f hf e List.mem_cons_self
    obtain ⟨hnext, hlacks⟩ :=
      hlower m' hm' f.selector (Entry.ofMember_eq_ok_iff.mp hf').1 hcovers' hrank
    exact ⟨hnext, (Entry.answer?_eq_none_iff hf' (hdistinct.media m' hm')).mpr hlacks⟩

end Declaration

/-! ## §5  Another order of the keys -/

/-- The same value, with the keys of its content map in another order if it has one. -/
inductive ContentRearranged : Json → Json → Prop where
  | same (value : Json) : ContentRearranged value value
  | content {members content content' : List (String × Json)}
      (h : Table.find? "content" members = some (.object content))
      (hperm : content.Perm content') :
      ContentRearranged (.object members)
        (.object (Table.insert "content" (.object content') members))

/-- Whether a declaration is another one with its selectors, and the keys of its content maps, in
another order. -/
def Rearranged (declaration declaration' : Json) : Prop :=
  ∃ (members members' : List (String × Json)) (value : String × Json → Json),
    declaration = .object members ∧ declaration' = .object members' ∧
    (∀ m ∈ members, ContentRearranged m.2 (value m)) ∧
    (members.map fun m => (m.1, value m)).Perm members'

section
variable {value value' : Json} {content content' : List (String × Json)} {mediaType : String}
  {key : Option String} {schema : Json}

theorem ContentRearranged.cases (h : ContentRearranged value value') : value' = value ∨
    ∃ content content', contentOf? value = some content ∧ contentOf? value' = some content' ∧
      content.Perm content' := by
  cases h with
  | same => exact Or.inl rfl
  | @content members content content' hfind hperm =>
      refine Or.inr ⟨content, content', ?_, ?_, hperm⟩
      · rw [contentOf?, Json.get?, hfind]
        rfl
      · rw [contentOf?, Json.get?, Table.find?_insert_self]
        rfl

theorem Offers.perm {schema : Json} (h : Offers content mediaType schema)
    (hperm : content.Perm content') : Offers content' mediaType schema := by
  obtain ⟨m, hm, hoffers⟩ := h
  exact ⟨m, hperm.mem_iff.mp hm, hoffers⟩

theorem OffersAny.perm (h : OffersAny content schema) (hperm : content.Perm content') :
    OffersAny content' schema := by
  obtain ⟨m, hm, hoffers⟩ := h
  exact ⟨m, hperm.mem_iff.mp hm, hoffers⟩

theorem Settles.perm (h : Settles value mediaType key schema)
    (hcontent : contentOf? value = some content) (hcontent' : contentOf? value' = some content')
    (hperm : content.Perm content') : Settles value' mediaType key schema := by
  cases h with
  | plain hplain => cases hplain.symm.trans hcontent
  | media h hoffers =>
      cases h.symm.trans hcontent
      exact .media hcontent' (hoffers.perm hperm)
  | wildcard h hnone hoffers =>
      cases h.symm.trans hcontent
      exact .wildcard hcontent' (fun other ho => hnone other (ho.perm hperm.symm))
        (hoffers.perm hperm)

theorem ContentRearranged.settles_iff (h : ContentRearranged value value') :
    Settles value mediaType key schema ↔ Settles value' mediaType key schema := by
  rcases h.cases with rfl | ⟨content, content', hcontent, hcontent', hperm⟩
  · exact Iff.rfl
  · constructor
    · intro hsettles
      exact hsettles.perm hcontent hcontent' hperm
    · intro hsettles
      exact hsettles.perm hcontent' hcontent hperm.symm

theorem ContentRearranged.exists_ofMember (h : ContentRearranged value value') {name : String}
    {e : Entry} (he : Entry.ofMember name value = .ok e) :
    ∃ e', Entry.ofMember name value' = .ok e' := by
  rcases h.cases with rfl | ⟨content, content', hcontent, hcontent', hperm⟩
  · exact ⟨e, he⟩
  · obtain ⟨hread, hbody⟩ := Entry.ofMember_eq_ok_iff.mp he
    have hall : ∀ m ∈ ordinary content, (schemaOf? m).isSome = true := by
      rcases Body.ofJson_eq_ok_iff.mp hbody with ⟨hnone, -⟩ | ⟨content, map, h, hmap, -⟩
      · cases hnone.symm.trans hcontent
      · cases h.symm.trans hcontent
        exact (ContentMap.ofMembers_eq_ok_iff.mp hmap).1
    have hall' : ∀ m ∈ ordinary content', (schemaOf? m).isSome = true := fun m hm =>
      hall m ((hperm.filter _).mem_iff.mpr hm)
    obtain ⟨map, hmap⟩ := ContentMap.exists_ofMembers hall'
    exact ⟨⟨e.selector, .content map⟩, Entry.ofMember_eq_ok_iff.mpr ⟨hread,
      Body.ofJson_eq_ok_iff.mpr (Or.inr ⟨content', map, hcontent', hmap, rfl⟩)⟩⟩

end

/-- Whether each member of a declaration has one in another with the same key, under which the same
is settled. -/
def IsMatched (declaration declaration' : Json) : Prop :=
  ∀ m ∈ declaration.members, ∃ m' ∈ declaration'.members, m'.1 = m.1 ∧
    ∀ mediaType key schema, Settles m.2 mediaType key schema ↔ Settles m'.2 mediaType key schema

theorem Negotiates.matched {declaration declaration' : Json}
    (hmatched : IsMatched declaration declaration') (hmatched' : IsMatched declaration' declaration)
    {policy : Fallthrough} {status : Nat} {mediaType : String} {slot : Slot}
    (h : Negotiates declaration policy status mediaType slot) :
    Negotiates declaration' policy status mediaType slot := by
  obtain ⟨m, hm, hread, hcovers, hsettles, hlower⟩ := h
  obtain ⟨m', hm', hkey, hiff⟩ := hmatched m hm
  refine ⟨m', hm', hkey ▸ hread, hcovers, (hiff _ _ _).mp hsettles,
    fun f' hf' selector hread' hcovers' hrank => ?_⟩
  obtain ⟨f, hf, hkey', hiff'⟩ := hmatched' f' hf'
  obtain ⟨hnext, hlacks⟩ := hlower f hf selector (hkey' ▸ hread') hcovers' hrank
  exact ⟨hnext, fun key schema hsettles => hlacks key schema ((hiff' _ _ _).mp hsettles)⟩

section
variable {declaration declaration' : Json}

theorem Rearranged.matched (h : Rearranged declaration declaration') :
    IsMatched declaration declaration' ∧ IsMatched declaration' declaration := by
  obtain ⟨members, members', value, rfl, rfl, hvalues, hperm⟩ := h
  constructor
  · intro m hm
    have hm' : (m.1, value m) ∈ members' := hperm.mem_iff.mp (List.mem_map.mpr ⟨m, hm, rfl⟩)
    exact ⟨_, hm', rfl, fun _ _ _ => (hvalues m hm).settles_iff⟩
  · intro m' hm'
    obtain ⟨m, hm, rfl⟩ := List.mem_map.mp (hperm.mem_iff.mpr hm')
    exact ⟨m, hm, rfl, fun _ _ _ => (hvalues m hm).settles_iff.symm⟩

theorem Rearranged.keysAreDistinct (h : Rearranged declaration declaration')
    (hdistinct : KeysAreDistinct declaration) : KeysAreDistinct declaration' := by
  obtain ⟨members, members', value, rfl, rfl, hvalues, hperm⟩ := h
  constructor
  · have hkeys := hperm.map fun m : String × Json => Selector.read? m.1
    simp only [List.map_map, Function.comp_def] at hkeys
    exact hkeys.nodup_iff.mp hdistinct.selectors
  · intro m' hm' content' hcontent'
    obtain ⟨m, hm, rfl⟩ := List.mem_map.mp (hperm.mem_iff.mpr hm')
    rcases (hvalues m hm).cases with heq | ⟨content, _, hcontent, h, hperm'⟩
    · exact hdistinct.media m hm content' (heq ▸ hcontent')
    · cases h.symm.trans hcontent'
      exact (hperm'.map _).nodup_iff.mp (hdistinct.media m hm content hcontent)

theorem Rearranged.exists_ofJson (h : Rearranged declaration declaration') {d : Declaration}
    (hd : Declaration.ofJson declaration = .ok d) :
    ∃ d', Declaration.ofJson declaration' = .ok d' := by
  obtain ⟨members, members', value, rfl, rfl, hvalues, hperm⟩ := h
  refine Declaration.exists_ofJson fun m' hm' => ?_
  obtain ⟨m, hm, rfl⟩ := List.mem_map.mp (hperm.mem_iff.mpr hm')
  obtain ⟨e, he⟩ := Declaration.exists_ofMember hd hm
  exact (hvalues m hm).exists_ofMember he

end

namespace Declaration

variable {declaration : Json} {d : Declaration}

theorem asked_of_alike {contentType contentType' : String}
    (h : MediaType.Alike contentType contentType') :
    asked (some contentType) = asked (some contentType') :=
  MediaType.normalize_of_alike h

/-- **A lookup depends only on what is declared.**  It finds the slot that the declaration has for
the status and the media type, whatever else is written of the content type; a reply without one
asks for JSON.  Another order of the keys changes nothing, and what is found where a content map
ends the search is found where it does not. -/
theorem resolve?_iff_negotiates (h : ofJson declaration = .ok d)
    (hdistinct : KeysAreDistinct declaration) :
    (∀ status contentType policy slot, d.resolve? status contentType policy = some slot ↔
      Negotiates declaration policy status (asked contentType) slot) ∧
    (∀ contentType contentType', MediaType.Alike contentType contentType' →
      asked (some contentType) = asked (some contentType')) ∧
    asked none = "application/json" ∧
    (∀ declaration', Rearranged declaration declaration' → ∃ d', ofJson declaration' = .ok d' ∧
      ∀ status contentType policy,
        d'.resolve? status contentType policy = d.resolve? status contentType policy) ∧
    ∀ status contentType slot, d.resolve? status contentType .stop = some slot →
      d.resolve? status contentType .next = some slot := by
  refine ⟨fun _ _ _ _ => resolve?_iff h hdistinct, fun _ _ => asked_of_alike, rfl,
    fun declaration' hrearranged => ?_, ?_⟩
  · obtain ⟨d', hd'⟩ := hrearranged.exists_ofJson h
    obtain ⟨hmatched, hmatched'⟩ := hrearranged.matched
    refine ⟨d', hd', fun status contentType policy => Option.ext fun slot => ?_⟩
    rw [resolve?_iff hd' (hrearranged.keysAreDistinct hdistinct), resolve?_iff h hdistinct]
    constructor
    · intro hslot
      exact hslot.matched hmatched' hmatched
    · intro hslot
      exact hslot.matched hmatched hmatched'
  · intro status contentType slot hstop
    obtain ⟨m, hm, hread, hcovers, hsettles, hlower⟩ := (resolve?_iff h hdistinct).mp hstop
    refine (resolve?_iff h hdistinct).mpr ⟨m, hm, hread, hcovers, hsettles, ?_⟩
    intro m' hm' selector hread' hcovers' hrank
    cases (hlower m' hm' selector hread' hcovers' hrank).1

end Declaration

/-- A report: a text if the status is 200, and an object otherwise. -/
def reportDeclaration : Json :=
  .object [("default", .object [("type", .string "object")]),
    ("200", .object [("content", .object [(" Text/Plain; charset=utf-8",
      .object [("schema", .object [("type", .string "string")])])])])]

namespace Declaration

theorem exists_ofJson_report : ∃ d, ofJson reportDeclaration = .ok d := by
  refine exists_ofJson fun m hm => ?_
  rcases List.mem_cons.mp hm with rfl | hm
  · exact ⟨⟨.rest, _⟩, Entry.ofMember_eq_ok_iff.mpr ⟨by decide +kernel, rfl⟩⟩
  · rw [List.mem_singleton.mp hm]
    exact ⟨⟨.exact 200, _⟩, Entry.ofMember_eq_ok_iff.mpr ⟨by decide +kernel, rfl⟩⟩

theorem keysAreDistinct_report : KeysAreDistinct reportDeclaration := by
  refine ⟨by decide +kernel, fun m hm content hcontent => ?_⟩
  rcases List.mem_cons.mp hm with rfl | hm
  · cases hcontent
  · rw [List.mem_singleton.mp hm] at hcontent
    cases hcontent
    exact List.nodup_singleton _

theorem resolve?_iff_negotiates_report :
    ∃ d, ofJson reportDeclaration = .ok d ∧ KeysAreDistinct reportDeclaration ∧
      d.resolve? 200 (some "text/plain") .next =
        some ⟨.exact 200, some "text/plain", .object [("type", .string "string")]⟩ := by
  obtain ⟨d, hd⟩ := exists_ofJson_report
  obtain ⟨hfinds, -, -, -, hnext⟩ := resolve?_iff_negotiates hd keysAreDistinct_report
  refine ⟨d, hd, keysAreDistinct_report, hnext 200 (some "text/plain") _ ?_⟩
  have hasked : asked (some "text/plain") = "text/plain" := by decide +kernel
  refine (hfinds 200 (some "text/plain") .stop _).mpr ?_
  rw [hasked]
  refine ⟨_, List.mem_cons_of_mem _ List.mem_cons_self, by decide +kernel, by decide, ?_, ?_⟩
  · exact .media rfl ⟨_, List.mem_cons_self, by decide +kernel, by decide +kernel, rfl⟩
  · intro m' hm' selector hread hcovers hrank
    exact absurd hrank (Nat.not_lt_zero _)

end Declaration

end ReplySchema.Response

import ReplySchema.Proofs.Response.FirstSlot

/-! # Lookups of one key

What a lookup finds does not depend on the status or the policy once the selector is known: it is
what the first entry of that selector has for the media type that is asked for (`answer?`).

Two lookups that find slots of one key therefore find the same slot, with one exception.  A key of
a content map that is brought to the text of the wildcard is found by who asks for `*/*` itself,
and the wildcard by everyone else; both stand under `*/*`.

Main statement: `resolve?_unique`.
-/

set_option autoImplicit false

namespace ReplySchema.Response

def asked (contentType : Option String) : String :=
  (contentType.map MediaType.normalize).getD MediaType.json

def Entry.answer? (e : Entry) (mediaType : String) : Option Slot :=
  match e.body with
  | .schema s => some ⟨e.selector, none, s⟩
  | .content map => (map.find? mediaType).map fun p => ⟨e.selector, some p.1, p.2⟩

theorem Entry.selector_of_answer? {e : Entry} {mediaType : String} {s : Slot}
    (h : e.answer? mediaType = some s) : s.selector = e.selector := by
  unfold answer? at h
  split at h
  · rw [← Option.some.inj h]
  · obtain ⟨p, -, rfl⟩ := Option.map_eq_some_iff.mp h
    rfl

/-- An entry of a content map that is found stands under the media type that is asked for, or it is
the wildcard. -/
theorem ContentMap.find?_cases {map : ContentMap} {mediaType key : String} {schema : Json}
    (h : map.find? mediaType = some (key, schema)) :
    (key = mediaType ∧ (key, schema) ∈ map.entries) ∨
      (key = MediaType.wildcard ∧ map.wildcard = some schema) := by
  unfold find? at h
  rcases Result.eq_some_of_orElse h with hentry | hwild
  · have hkey := List.find?_some hentry
    exact Or.inl ⟨by simpa using hkey, List.mem_of_find?_eq_some hentry⟩
  · obtain ⟨w, hw, heq⟩ := Option.map_eq_some_iff.mp hwild
    obtain ⟨rfl, rfl⟩ := Prod.mk.inj heq
    exact Or.inr ⟨rfl, hw⟩

theorem ContentMap.find?_ne_none {map : ContentMap} {schema : Json}
    (h : map.wildcard = some schema) (mediaType : String) : map.find? mediaType ≠ none := by
  unfold find?
  rw [h]
  cases map.entries.find? fun e => e.1 == mediaType with
  | some e => nofun
  | none => nofun

/-- Whether two media types that are asked for are both the wildcard itself or both not. -/
def AskAlike (mediaType mediaType' : String) : Prop :=
  mediaType = MediaType.wildcard ↔ mediaType' = MediaType.wildcard

/-- Two media types for which one entry of a content map stands under the same key: what is found
is the same. -/
theorem ContentMap.find?_unique {map : ContentMap} {mediaType mediaType' key : String}
    {schema schema' : Json} (hbare : map.IsBare ∨ AskAlike mediaType mediaType')
    (h : map.find? mediaType = some (key, schema))
    (h' : map.find? mediaType' = some (key, schema')) : schema = schema' := by
  have hsame : mediaType = mediaType' → schema = schema' := by
    rintro rfl
    rw [h] at h'
    exact (Prod.mk.inj (Option.some.inj h')).2
  rcases find?_cases h with ⟨rfl, hmem⟩ | ⟨rfl, hw⟩
  · rcases find?_cases h' with ⟨hkey, -⟩ | ⟨hkey, -⟩
    · exact hsame hkey
    · -- the second is found as the wildcard, the first as an entry under its text
      rcases hbare with hbare | halike
      · exact absurd hkey (hbare _ hmem)
      · exact hsame (hkey.trans (halike.mp hkey).symm)
  · rcases find?_cases h' with ⟨hkey, hmem⟩ | ⟨-, hw'⟩
    · rcases hbare with hbare | halike
      · exact absurd rfl (hbare _ hmem)
      · exact hsame ((halike.mpr hkey.symm).trans hkey)
    · rw [hw] at hw'
      exact Option.some.inj hw'

/-- An entry that has something for one media type and nothing for another has it under the first of
them, which is not the wildcard if the entry is bare. -/
theorem Entry.mediaType_of_answer? {e : Entry} {mediaType mediaType' : String} {s : Slot}
    (h : e.answer? mediaType = some s) (h' : e.answer? mediaType' = none) :
    s.mediaType = some mediaType ∧ (e.IsBare → mediaType ≠ MediaType.wildcard) := by
  unfold answer? at h h'
  cases hbody : e.body with
  | schema schema =>
      simp only [hbody] at h'
      cases h'
  | content map =>
      simp only [hbody, Option.map_eq_none_iff] at h h'
      obtain ⟨⟨key, schema⟩, hfind, rfl⟩ := Option.map_eq_some_iff.mp h
      rcases ContentMap.find?_cases hfind with ⟨rfl, hmem⟩ | ⟨-, hw⟩
      · exact ⟨rfl, fun hbare => hbare map hbody _ hmem⟩
      · exact absurd h' (ContentMap.find?_ne_none hw mediaType')

/-- What is found for a media type stands under it or under the wildcard, or is a plain schema. -/
theorem Entry.key_of_answer? {e : Entry} {mediaType key : String} {s : Slot}
    (h : e.answer? mediaType = some s) (hkey : s.mediaType = some key) :
    key = mediaType ∨ key = MediaType.wildcard := by
  unfold answer? at h
  split at h
  · rw [← Option.some.inj h] at hkey
    cases hkey
  · obtain ⟨⟨key', schema⟩, hfind, rfl⟩ := Option.map_eq_some_iff.mp h
    obtain rfl := Option.some.inj hkey
    exact (ContentMap.find?_cases hfind).imp And.left And.left

theorem Entry.answer?_unique {e : Entry} {mediaType mediaType' : String} {s s' : Slot}
    (hbare : e.IsBare ∨ AskAlike mediaType mediaType') (h : e.answer? mediaType = some s)
    (h' : e.answer? mediaType' = some s') (hmedia : s.mediaType = s'.mediaType) : s = s' := by
  unfold answer? at h h'
  cases hbody : e.body with
  | schema schema =>
      simp only [hbody] at h h'
      exact Option.some.inj (h.symm.trans h')
  | content map =>
      simp only [hbody] at h h'
      obtain ⟨⟨key, schema⟩, hfind, rfl⟩ := Option.map_eq_some_iff.mp h
      obtain ⟨⟨key', schema'⟩, hfind', rfl⟩ := Option.map_eq_some_iff.mp h'
      obtain rfl : key = key' := Option.some.inj hmedia
      have hschema : schema = schema' :=
        ContentMap.find?_unique (hbare.imp_left fun hbare => hbare map hbody) hfind hfind'
      rw [hschema]

/-- No entry is passed over by a search for one media type that another search ends at, if both find
slots of the same key. -/
theorem Entry.answer?_ne_none {e f : Entry} {mediaType mediaType' : String} {s s' : Slot}
    (hbare : e.IsBare ∨ AskAlike mediaType mediaType') (h : e.answer? mediaType = some s)
    (h' : f.answer? mediaType' = some s') (hmedia : s.mediaType = s'.mediaType) :
    e.answer? mediaType' ≠ none := by
  intro hnone
  obtain ⟨hkey, hwild⟩ := mediaType_of_answer? h hnone
  have hne : mediaType ≠ mediaType' := by
    rintro rfl
    rw [h] at hnone
    cases hnone
  rcases key_of_answer? h' (hmedia.symm.trans hkey) with heq | heq
  · exact hne heq
  · rcases hbare with hbare | halike
    · exact hwild hbare heq
    · exact hne (heq.trans (halike.mp heq).symm)

namespace Declaration

/-! ## §1  What a lookup finds -/

def foundUnder? (entries : List Entry) (selector : Selector) (mediaType : String) : Option Slot :=
  (entries.filter fun e => e.selector == selector).findSome? (Entry.answer? · mediaType)

/-- Whatever the policy, what is selected is what the first of the entries of its selector has. -/
theorem foundUnder?_of_select? {policy : Fallthrough} {mediaType : String} {s : Slot} :
    ∀ {entries : List Entry}, select? policy mediaType entries = some s →
      foundUnder? entries s.selector mediaType = some s
  | [], h => by cases h
  | e :: rest, h => by
      unfold foundUnder?
      cases hanswer : e.answer? mediaType with
      | some t =>
          have hts : t = s := by
            unfold select? at h
            unfold Entry.answer? at hanswer
            cases hbody : e.body with
            | schema schema =>
                simp only [hbody] at h hanswer
                exact Option.some.inj (hanswer.symm.trans h)
            | content map =>
                simp only [hbody] at h hanswer
                obtain ⟨⟨key, schema⟩, hfind, rfl⟩ := Option.map_eq_some_iff.mp hanswer
                simp only [hfind] at h
                exact Option.some.inj h
          subst hts
          have hselector := Entry.selector_of_answer? hanswer
          rw [List.filter_cons_of_pos (by rw [hselector, beq_self_eq_true]), List.findSome?_cons,
            hanswer]
      | none =>
          -- the entry has nothing, so the policy lets the search go on
          have hrest : select? policy mediaType rest = some s := by
            unfold select? at h
            unfold Entry.answer? at hanswer
            cases hbody : e.body with
            | schema schema =>
                simp only [hbody] at hanswer
                cases hanswer
            | content map =>
                simp only [hbody, Option.map_eq_none_iff] at h hanswer
                cases policy with
                | stop => simp only [hanswer, reduceCtorEq] at h
                | next => simpa only [hanswer] using h
          have hfound := foundUnder?_of_select? hrest
          unfold foundUnder? at hfound
          rw [List.filter_cons]
          split
          · rw [List.findSome?_cons, hanswer]
            exact hfound
          · exact hfound

/-- A lookup finds what the first entry of its selector has for the media type that is asked for:
every entry of that selector covers the status. -/
theorem foundUnder?_of_resolve? {d : Declaration} {status : Nat} {contentType : Option String}
    {policy : Fallthrough} {s : Slot} (h : d.resolve? status contentType policy = some s) :
    foundUnder? d.entries s.selector (asked contentType) = some s := by
  unfold resolve? at h
  have hselected := foundUnder?_of_select? h
  unfold foundUnder? at hselected ⊢
  rw [List.filter_filter] at hselected
  rw [← hselected]
  obtain ⟨e, he, hanswer⟩ := List.exists_of_findSome?_eq_some hselected
  obtain ⟨-, hboth⟩ := List.mem_filter.mp he
  rw [Bool.and_eq_true, beq_iff_eq] at hboth
  obtain ⟨hselector, hcovers⟩ := hboth
  -- entries of one selector cover the same statuses, so to filter by coverage changes nothing
  congr 1
  refine List.filter_congr fun f _ => ?_
  by_cases hf : f.selector = s.selector
  · rw [hf, ← hselector, hcovers, Bool.and_true]
  · rw [beq_eq_false_iff_ne.mpr hf, Bool.false_and]

/-! ## §2  Two lookups -/

/-- Two searches among some entries that find slots of one media type find the same slot. -/
theorem findSome?_answer_unique {mediaType mediaType' : String} {s s' : Slot}
    (hmedia : s.mediaType = s'.mediaType) : ∀ {entries : List Entry},
    ((∀ e ∈ entries, e.IsBare) ∨ AskAlike mediaType mediaType') →
      entries.findSome? (Entry.answer? · mediaType) = some s →
      entries.findSome? (Entry.answer? · mediaType') = some s' → s = s'
  | [], _, h, _ => by cases h
  | e :: rest, hbare, h, h' => by
      have hfirst : e.IsBare ∨ AskAlike mediaType mediaType' :=
        hbare.imp_left fun hbare => hbare e List.mem_cons_self
      obtain ⟨f, -, hf⟩ := List.exists_of_findSome?_eq_some h
      obtain ⟨f', -, hf'⟩ := List.exists_of_findSome?_eq_some h'
      rw [List.findSome?_cons] at h h'
      cases hanswer : e.answer? mediaType with
      | some t =>
          rw [hanswer] at h
          obtain rfl := Option.some.inj h
          cases hanswer' : e.answer? mediaType' with
          | some t' =>
              rw [hanswer'] at h'
              obtain rfl := Option.some.inj h'
              exact Entry.answer?_unique hfirst hanswer hanswer' hmedia
          | none => exact absurd hanswer' (Entry.answer?_ne_none hfirst hanswer hf' hmedia)
      | none =>
          rw [hanswer] at h
          cases hanswer' : e.answer? mediaType' with
          | some t' =>
              rw [hanswer'] at h'
              obtain rfl := Option.some.inj h'
              exact absurd hanswer
                (Entry.answer?_ne_none (hfirst.imp_right Iff.symm) hanswer' hf hmedia.symm)
          | none =>
              rw [hanswer'] at h'
              refine findSome?_answer_unique hmedia (hbare.imp_left fun hbare f hf => ?_) h h'
              exact hbare f (List.mem_cons_of_mem _ hf)

/-- **Two lookups of one key find the same slot**, whatever they ask for if no key is brought to the
text of the wildcard, and else if both ask for the wildcard itself or neither does. -/
theorem resolve?_unique {d : Declaration} {status status' : Nat}
    {contentType contentType' : Option String} {policy policy' : Fallthrough} {s s' : Slot}
    (hbare : (∀ e ∈ d.entries, e.IsBare) ∨ AskAlike (asked contentType) (asked contentType'))
    (h : d.resolve? status contentType policy = some s)
    (h' : d.resolve? status' contentType' policy' = some s')
    (hlabel : s.selector.label = s'.selector.label) (hmedia : s.mediaType = s'.mediaType) :
    s = s' := by
  have hfound := foundUnder?_of_resolve? h
  have hfound' := foundUnder?_of_resolve? h'
  rw [← Selector.label_injective hlabel] at hfound'
  refine findSome?_answer_unique hmedia (hbare.imp_left fun hbare e he => ?_) hfound hfound'
  exact hbare e (List.mem_filter.mp he).1

end Declaration

end ReplySchema.Response

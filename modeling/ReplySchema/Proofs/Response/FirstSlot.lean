import Mathlib.Data.List.Find
import ReplySchema.Proofs.Result
import ReplySchema.Response.Declaration

/-! # The slot that a lookup finds comes first

Serializers are kept under the label of the selector and the declared media type of
their slot.  Two slots of one declaration can share both: `2xx` and `2XX` have one label,
and media types are brought to small letters.  A lookup never sees the later one, for it
takes the first entry that covers the status, and within a content map the first key.

The exception is a key such as `*/*;q=1`, which is no wildcard but is brought to the text
of one.  `WildcardsAreBare` says that a declaration has no such key.  Main statement:
`resolve?_isFirst`.
-/

set_option autoImplicit false

namespace ReplySchema

/-! ## §1  A label tells its selector -/

namespace Selector

theorem toList_ofNat (n : Nat) : (Decimal.ofNat n).toList = Decimal.digits n := by
  simp [Decimal.ofNat]

theorem digits_injective {m n : Nat} (h : Decimal.digits m = Decimal.digits n) : m = n := by
  rw [← Decimal.ofDigits_digits m, h, Decimal.ofDigits_digits]

theorem digits_ne {m : Nat} {cs : List Char} {c : Char} (hmem : c ∈ cs)
    (hc : c.isDigit = false) : Decimal.digits m ≠ cs := by
  intro h
  rw [← h] at hmem
  rw [Decimal.isDigit_of_mem_digits hmem] at hc
  exact Bool.noConfusion hc

theorem label_injective {s t : Selector} (h : s.label = t.label) : s = t := by
  have hchars : s.label.toList = t.label.toList := by rw [h]
  cases s with
  | exact m =>
      cases t with
      | exact n =>
          simp only [label, toList_ofNat] at hchars
          rw [digits_injective hchars]
      | hundred n =>
          simp only [label, toList_ofNat, String.toList_append] at hchars
          exact absurd hchars (digits_ne (c := 'x') (by simp) rfl)
      | rest =>
          simp only [label, toList_ofNat] at hchars
          exact absurd hchars (digits_ne (c := 't') (by decide) rfl)
  | hundred m =>
      cases t with
      | exact n =>
          simp only [label, toList_ofNat, String.toList_append] at hchars
          exact absurd hchars.symm (digits_ne (c := 'x') (by simp) rfl)
      | hundred n =>
          simp only [label, toList_ofNat, String.toList_append] at hchars
          rw [digits_injective (List.append_cancel_right hchars)]
      | rest =>
          simp only [label, toList_ofNat, String.toList_append] at hchars
          have hlast := congrArg List.getLast? hchars
          simp at hlast
  | rest =>
      cases t with
      | exact n =>
          simp only [label, toList_ofNat] at hchars
          exact absurd hchars.symm (digits_ne (c := 't') (by decide) rfl)
      | hundred n =>
          simp only [label, toList_ofNat, String.toList_append] at hchars
          have hlast := congrArg List.getLast? hchars
          simp at hlast
      | rest => rfl

end Selector

namespace Response

/-! ## §2  Declarations without disguised wildcards -/

/-- No key of a content map but a wildcard itself is brought to the text of one. -/
def WildcardsAreBare (declaration : Json) : Prop :=
  ∀ entry ∈ declaration.members, ∀ content, entry.2.get? "content" = some (.object content) →
    ∀ key ∈ content, MediaType.normalize key.1 = MediaType.wildcard →
      Text.trim key.1 = MediaType.wildcard

/-- Whether no entry of a content map stands under the text of the wildcard. -/
def ContentMap.IsBare (map : ContentMap) : Prop :=
  ∀ e ∈ map.entries, e.1 ≠ MediaType.wildcard

def Entry.IsBare (e : Entry) : Prop := ∀ map, e.body = .content map → map.IsBare

theorem ContentMap.isBare_add {map map' : ContentMap} {key : String} {value : Json}
    (h : map.add key value = .ok map') (hbare : map.IsBare)
    (hkey : MediaType.normalize key = MediaType.wildcard → Text.trim key = MediaType.wildcard) :
    map'.IsBare := by
  unfold ContentMap.add at h
  by_cases hw : Text.trim key = MediaType.wildcard
  · rw [if_pos hw, Except.ok.injEq] at h
    exact h ▸ hbare
  · rw [if_neg hw] at h
    cases hs : value.get? "schema" with
    | none => simp [hs] at h
    | some s =>
        simp only [hs, Except.ok.injEq] at h
        subst h
        intro e he
        rcases List.mem_append.mp he with he | he
        · exact hbare e he
        · rw [List.mem_singleton.mp he]
          exact fun heq => hw (hkey heq)

theorem ContentMap.isBare_ofMembers {members : List (String × Json)} {map : ContentMap}
    (h : ContentMap.ofMembers members = .ok map)
    (hkeys : ∀ p ∈ members, MediaType.normalize p.1 = MediaType.wildcard →
      Text.trim p.1 = MediaType.wildcard) : map.IsBare := by
  refine Result.foldlM_eq_ok ContentMap.IsBare h ?_ ?_
  · intro e he
    cases he
  · intro p hp before after hadd hbare
    exact isBare_add hadd hbare (hkeys p hp)

theorem Entry.isBare_ofMember {key : String} {value : Json} {e : Entry}
    (h : Entry.ofMember key value = .ok e)
    (hkeys : ∀ content, value.get? "content" = some (.object content) →
      ∀ p ∈ content, MediaType.normalize p.1 = MediaType.wildcard →
        Text.trim p.1 = MediaType.wildcard) : e.IsBare := by
  intro map hmap
  unfold Entry.ofMember at h
  cases hsel : Selector.read? key with
  | none => simp [hsel] at h
  | some selector =>
      simp only [hsel] at h
      obtain ⟨body, hbody, rfl⟩ := Result.map_eq_ok.mp h
      simp only at hmap
      subst hmap
      unfold Body.ofJson at hbody
      cases hc : value.get? "content" with
      | none => simp [hc] at hbody
      | some content =>
          cases content with
          | object members =>
              simp only [hc, Option.bind_some, Json.asObject?] at hbody
              obtain ⟨read, hread, heq⟩ := Result.map_eq_ok.mp hbody
              cases heq
              exact ContentMap.isBare_ofMembers hread (hkeys members hc)
          | _ => simp [hc, Json.asObject?] at hbody

namespace Declaration

theorem mem_ranked {entries : List Entry} {rank : Nat} {e : Entry} :
    e ∈ ranked entries rank ↔ e ∈ entries ∧ e.selector.rank = rank := by
  simp [ranked]

theorem mem_of_mem_sorted {entries : List Entry} {e : Entry} (h : e ∈ sorted entries) :
    e ∈ entries := by
  simp only [sorted, List.mem_append, mem_ranked] at h
  rcases h with (h | h) | h <;> exact h.1

theorem isBare_ofJson {value : Json} {d : Declaration} (h : ofJson value = .ok d)
    (hw : WildcardsAreBare value) : ∀ e ∈ d.entries, e.IsBare := by
  intro e he
  obtain ⟨entries, hread, h⟩ := Result.bind_eq_ok.mp h
  rw [Result.pure_eq_ok] at h
  subst h
  obtain ⟨p, hp, hmember⟩ := Result.mem_of_mapM_eq_ok hread e (mem_of_mem_sorted he)
  exact Entry.isBare_ofMember hmember (hw p hp)

/-! ## §3  The first slot of a label and a media type -/

def firstUnder? (d : Declaration) (label : String) (mediaType : Option String) : Option Slot :=
  d.slots.find? fun s => s.selector.label == label && s.mediaType == mediaType

/-- Whether a slot comes first under its label and media type. -/
def IsFirst (d : Declaration) (s : Slot) : Prop :=
  d.firstUnder? s.selector.label s.mediaType = some s

/-- What a content map finds is the declared entry of the media type or the wildcard, and in a
bare map it is the first of the slots under its key. -/
theorem find?_slots_of_find? {map : ContentMap} (hbare : map.IsBare) {mediaType key : String}
    {schema : Json} (h : map.find? mediaType = some (key, schema)) :
    (key = mediaType ∨ key = MediaType.wildcard) ∧
      map.slots.find? (fun p => p.1 == key) = some (key, schema) := by
  unfold ContentMap.find? at h
  unfold ContentMap.slots
  rw [List.find?_append]
  cases hentry : map.entries.find? (fun e => e.1 == mediaType) with
  | some e =>
      simp only [hentry, Option.orElse_eq_orElse, Option.orElse_some, Option.some.injEq] at h
      subst h
      have hkey : key = mediaType := by simpa using List.find?_some hentry
      subst hkey
      exact ⟨Or.inl rfl, by rw [hentry, Option.some_or]⟩
  | none =>
      simp only [hentry, Option.orElse_eq_orElse, Option.orElse_none, Option.map_eq_some_iff,
        Prod.mk.injEq] at h
      obtain ⟨w, hw, rfl, rfl⟩ := h
      have hnone : map.entries.find? (fun p => p.1 == MediaType.wildcard) = none := by
        rw [List.find?_eq_none]
        intro e he
        simpa using hbare e he
      exact ⟨Or.inr rfl, by simp [hnone, hw]⟩

theorem key_ne_of_find?_eq_none {map : ContentMap} {mediaType : String}
    (h : map.find? mediaType = none) (hbare : map.IsBare) {p : String × Json}
    (hp : p ∈ map.slots) : p.1 ≠ mediaType ∧ p.1 ≠ MediaType.wildcard := by
  unfold ContentMap.find? at h
  cases hentry : map.entries.find? (fun e => e.1 == mediaType) with
  | some e => simp [hentry] at h
  | none =>
      simp only [hentry, Option.orElse_eq_orElse, Option.orElse_none,
        Option.map_eq_none_iff] at h
      have hmem : p ∈ map.entries := by simpa [ContentMap.slots, h] using hp
      rw [List.find?_eq_none] at hentry
      exact ⟨by simpa using hentry p hmem, hbare p hmem⟩

/-- A lookup takes the first slot of some entry under the media type, the wildcard or no key at
all, and the entries that it passes over have slots under other keys only. -/
theorem select?_eq_some {policy : Fallthrough} {mediaType : String} :
    ∀ {entries : List Entry} {s : Slot}, (∀ e ∈ entries, e.IsBare) →
      select? policy mediaType entries = some s →
      ∃ before e after, entries = before ++ e :: after ∧ s.selector = e.selector ∧
        (∀ key, s.mediaType = some key → key = mediaType ∨ key = MediaType.wildcard) ∧
        (entrySlots e).find? (fun t => t.mediaType == s.mediaType) = some s ∧
        ∀ f ∈ before, ∀ t ∈ entrySlots f,
          ∃ key, t.mediaType = some key ∧ key ≠ mediaType ∧ key ≠ MediaType.wildcard
  | [], s, _, h => by simp [select?] at h
  | e :: rest, s, hbare, h => by
      unfold select? at h
      cases hbody : e.body with
      | schema schema =>
          simp only [hbody, Option.some.injEq] at h
          subst h
          refine ⟨[], e, rest, rfl, rfl, ?_, ?_, fun f hf => by cases hf⟩
          · intro key hkey
            cases hkey
          · simp [entrySlots, hbody]
      | content map =>
          have hmap : map.IsBare := hbare e List.mem_cons_self map hbody
          simp only [hbody] at h
          cases hfind : map.find? mediaType with
          | some found =>
              obtain ⟨key, schema⟩ := found
              simp only [hfind, Option.some.injEq] at h
              subst h
              obtain ⟨hkey, hslot⟩ := find?_slots_of_find? hmap hfind
              refine ⟨[], e, rest, rfl, rfl, ?_, ?_, fun f hf => by cases hf⟩
              · intro k hk
                rw [Option.some.injEq] at hk
                exact hk ▸ hkey
              · simp only [entrySlots, hbody, List.find?_map, Function.comp_def,
                  Option.map_eq_some_iff]
                exact ⟨(key, schema), by simpa using hslot, rfl⟩
          -- the entry is passed over only if the policy goes on
          | none =>
              cases policy with
              | stop => simp [hfind] at h
              | next =>
                  simp only [hfind] at h
                  obtain ⟨before, e', after, rfl, hsel, hkeys, hfirst, hbefore⟩ :=
                    select?_eq_some (fun f hf => hbare f (List.mem_cons_of_mem _ hf)) h
                  refine ⟨e :: before, e', after, rfl, hsel, hkeys, hfirst, ?_⟩
                  intro f hf t ht
                  rcases List.mem_cons.mp hf with rfl | hf
                  · simp only [entrySlots, hbody] at ht
                    obtain ⟨p, hp, rfl⟩ := List.mem_map.mp ht
                    exact ⟨p.1, rfl, key_ne_of_find?_eq_none hfind hmap hp⟩
                  · exact hbefore f hf t ht

theorem selector_of_mem_entrySlots {e : Entry} {s : Slot} (h : s ∈ entrySlots e) :
    s.selector = e.selector := by
  unfold entrySlots at h
  split at h
  · rw [List.mem_singleton] at h
    rw [h]
  · obtain ⟨p, -, rfl⟩ := List.mem_map.mp h
    rfl

/-- **A lookup finds the first slot of its key**: entries in front with the same label cover the
status too, so they were tried before and have no slot under that media type. -/
theorem resolve?_isFirst {d : Declaration} (hbare : ∀ e ∈ d.entries, e.IsBare) {status : Nat}
    {contentType : Option String} {policy : Fallthrough} {s : Slot}
    (h : d.resolve? status contentType policy = some s) : d.IsFirst s := by
  unfold resolve? at h
  obtain ⟨before, e, after, hsplit, hsel, hkeys, hfirst, hbefore⟩ :=
    select?_eq_some (fun e he => hbare e (List.mem_filter.mp he).1) h
  obtain ⟨front, back, hentries, hfront, hback⟩ := List.filter_eq_append_iff.mp hsplit
  obtain ⟨skipped, rest, rfl, hskipped, hcovers, -⟩ := List.filter_eq_cons_iff.mp hback
  -- an entry in front either covers the status and was tried, or has another label
  have hpassed : ∀ f ∈ front ++ skipped, (entrySlots f).find?
      (fun t => t.selector.label == s.selector.label && t.mediaType == s.mediaType) = none := by
    intro f hf
    rw [List.find?_eq_none]
    intro t ht htrue
    simp only [Bool.and_eq_true, beq_iff_eq] at htrue
    obtain ⟨hlabel, hmedia⟩ := htrue
    have hselector : f.selector = e.selector := by
      rw [← selector_of_mem_entrySlots ht, Selector.label_injective hlabel, hsel]
    rcases List.mem_append.mp hf with hf | hf
    · have hmem : f ∈ before := by
        rw [← hfront]
        exact List.mem_filter.mpr ⟨hf, by rw [hselector]; exact hcovers⟩
      obtain ⟨key, hkey, hne, hwild⟩ := hbefore f hmem t ht
      rcases hkeys key (hmedia.symm.trans hkey) with heq | heq
      · exact hne heq
      · exact hwild heq
    · refine hskipped f hf ?_
      rw [hselector]
      exact hcovers
  have hfound : (entrySlots e).find?
      (fun t => t.selector.label == s.selector.label && t.mediaType == s.mediaType) = some s := by
    rw [← hfirst]
    refine List.find?_congr fun t ht => ?_
    rw [selector_of_mem_entrySlots ht, hsel]
    simp
  unfold IsFirst firstUnder? slots
  rw [hentries, ← List.append_assoc, List.find?_flatMap, List.findSome?_append,
    List.findSome?_eq_none_iff.mpr hpassed, List.findSome?_cons, hfound]
  rfl

end Declaration

end Response

end ReplySchema

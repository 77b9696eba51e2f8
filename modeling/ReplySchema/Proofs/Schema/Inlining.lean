import Mathlib.Data.List.Forall2
import ReplySchema.Schema.Bundle
import ReplySchema.Proofs.Schema.Occurrences
import ReplySchema.Proofs.Result

/-! # What bundling makes of a schema

Bundling keeps the members of a schema except for a few that it drops, and replaces the
schemas inside.  `Inlines` says that of one member, with a relation for the schemas inside,
and `inline_induct` is the induction that goes with it: what is shown of targets and of
schemas put together again holds of whatever bundling comes to (`Bundles.bundleBelow`).

First use: a bundled schema is as sound as the documents that it was taken from
(`isSound_bundleSchema`).
-/

set_option autoImplicit false

namespace ReplySchema.Schema

/-! ## §1  Member by member -/

section
variable (T : Json → Json → Prop)

/-- Whether inlining makes the second value of the first under a keyword that it keeps, if it
makes of the schemas inside what the relation says. -/
def Inlines (key : String) (v v' : Json) : Prop :=
  match inlining key, v with
  | .drop, _ => False
  | .named, .object entries => ∃ entries', v' = .object entries' ∧
      List.Forall₂ (fun e e' => e'.1 = e.1 ∧ T e.2 e'.2) entries entries'
  | .named, _ => v' = .object []
  | .list, .array items => ∃ items', v' = .array items' ∧ List.Forall₂ T items items'
  | .either, .array items => ∃ items', v' = .array items' ∧ List.Forall₂ T items items'
  | .either, v => T v v'
  | .schema, v => T v v'
  | .list, v => v' = v
  | .keep, v => v' = v

def kept (members : List (String × Json)) : List (String × Json) :=
  members.filter fun m => decide (inlining m.1 ≠ .drop)

def InlinesMembers (members members' : List (String × Json)) : Prop :=
  List.Forall₂ (fun m m' => m'.1 = m.1 ∧ Inlines T m.1 m.2 m'.2) (kept members) members'

end

/-- The schemas that inlining replaces under a keyword. -/
def insideKeyword (key : String) (value : Json) : List Json :=
  match inlining key, value with
  | .named, .object entries => entries.map (·.2)
  | .list, .array items => items
  | .either, .array items => items
  | .either, v => [v]
  | .schema, v => [v]
  | _, _ => []

def inside (members : List (String × Json)) : List Json :=
  members.flatMap fun m => insideKeyword m.1 m.2

/-- **Bundling treats a keyword as the check does**, except that it drops definitions and the
keywords that serve references. -/
theorem inlining_eq (key : String) : inlining key =
    match holds key with
    | .schema => .schema
    | .list => .list
    | .either => .either
    | .named => if key ∈ ["definitions", "$defs"] then .drop else .named
    | .data => if key ∈ ["$id", "$schema", "$anchor", "$comment"] then .drop else .keep := by
  by_cases hkey : key ∈ schemaKeywords ++ namedKeywords ++ listKeywords ++
      ["items", "$id", "$schema", "$anchor", "$comment"]
  · simp only [schemaKeywords, namedKeywords, listKeywords, List.cons_append, List.nil_append,
      List.mem_cons, List.not_mem_nil, or_false] at hkey
    rcases hkey with rfl | rfl | rfl | rfl | rfl | rfl | rfl | rfl | rfl | rfl | rfl | rfl | rfl |
      rfl | rfl | rfl | rfl | rfl | rfl | rfl | rfl | rfl | rfl | rfl <;> decide
  · simp only [schemaKeywords, namedKeywords, listKeywords, List.cons_append, List.nil_append,
      List.mem_cons, List.not_mem_nil, or_false, not_or] at hkey
    simp [inlining, holds, schemaKeywords, namedKeywords, listKeywords, hkey]

/-- What bundling replaces under a keyword is held by it. -/
theorem heldUnder_of_mem_insideKeyword {key : String} {value c : Json}
    (h : c ∈ insideKeyword key value) : c ∈ heldUnder key value := by
  unfold insideKeyword at h
  unfold heldUnder
  rw [inlining_eq] at h
  cases hkey : holds key with
  | schema => simpa only [hkey] using h
  | named =>
      simp only [hkey] at h ⊢
      by_cases hdrop : key ∈ ["definitions", "$defs"]
      · simp only [if_pos hdrop, List.not_mem_nil] at h
      · simp only [if_neg hdrop] at h
        cases value with
        | object entries => exact h
        | _ => cases h
  | list =>
      simp only [hkey] at h ⊢
      cases value with
      | array items => exact h
      | _ => cases h
  | either =>
      simp only [hkey] at h ⊢
      cases value with
      | array items => exact h
      | _ => exact h
  | data =>
      simp only [hkey] at h
      by_cases hdrop : key ∈ ["$id", "$schema", "$anchor", "$comment"]
      · simp only [if_pos hdrop, List.not_mem_nil] at h
      · simp only [if_neg hdrop, List.not_mem_nil] at h

theorem mem_insideKeyword_of_heldUnder {key : String} {v c : Json} (hkey : inlining key ≠ .drop)
    (hc : c ∈ heldUnder key v) : c ∈ insideKeyword key v := by
  unfold heldUnder at hc
  unfold insideKeyword
  rw [inlining_eq] at hkey ⊢
  cases hholds : holds key with
  | named =>
      simp only [hholds] at hkey hc ⊢
      by_cases hdrop : key ∈ ["definitions", "$defs"]
      · exact absurd (if_pos hdrop) hkey
      · simp only [if_neg hdrop]
        cases v with
        | object entries => exact hc
        | _ => cases hc
  | data =>
      simp only [hholds] at hc
      cases hc
  | schema =>
      simp only [hholds] at hc ⊢
      exact hc
  | list =>
      cases v with
      | array items => simpa only [hholds] using hc
      | _ => simp only [hholds, List.not_mem_nil] at hc
  | either => cases v <;> simpa only [hholds] using hc

theorem ne_drop_of_mem_insideKeyword {key : String} {v c : Json} (hc : c ∈ insideKeyword key v) :
    inlining key ≠ .drop := by
  intro hkey
  unfold insideKeyword at hc
  simp only [hkey, List.not_mem_nil] at hc

theorem mem_kept {members : List (String × Json)} {m : String × Json} (hm : m ∈ members)
    (hkey : inlining m.1 ≠ .drop) : m ∈ kept members :=
  List.mem_filter.mpr ⟨hm, decide_eq_true hkey⟩

theorem held_of_mem_inside {members : List (String × Json)} {c : Json} (h : c ∈ inside members) :
    c ∈ held (.object members) := by
  obtain ⟨m, hm, hc⟩ := List.mem_flatMap.mp h
  exact mem_held hm (heldUnder_of_mem_insideKeyword hc)

variable {T U : Json → Json → Prop}

theorem forall₂_mono_mem {α β : Type} {R S : α → β → Prop} {xs : List α} {ys : List β}
    (h : List.Forall₂ R xs ys) (himp : ∀ x ∈ xs, ∀ y, R x y → S x y) : List.Forall₂ S xs ys := by
  induction h with
  | nil => exact .nil
  | cons hxy _ ih =>
      exact .cons (himp _ List.mem_cons_self _ hxy)
        (ih fun x hx => himp x (List.mem_cons_of_mem _ hx))

theorem exists_of_forall₂ {α β : Type} {R : α → β → Prop} {xs : List α} {ys : List β}
    (h : List.Forall₂ R xs ys) {y : β} (hy : y ∈ ys) : ∃ x ∈ xs, R x y := by
  induction h with
  | nil => cases hy
  | cons hxy _ ih =>
      rcases List.mem_cons.mp hy with rfl | hy
      · exact ⟨_, List.mem_cons_self, hxy⟩
      · obtain ⟨x, hx, hR⟩ := ih hy
        exact ⟨x, List.mem_cons_of_mem _ hx, hR⟩

theorem exists_of_forall₂_left {α β : Type} {R : α → β → Prop} {xs : List α} {ys : List β}
    (h : List.Forall₂ R xs ys) {x : α} (hx : x ∈ xs) : ∃ y ∈ ys, R x y := by
  induction h with
  | nil => cases hx
  | cons hxy _ ih =>
      rcases List.mem_cons.mp hx with rfl | hx
      · exact ⟨_, List.mem_cons_self, hxy⟩
      · obtain ⟨y, hy, hR⟩ := ih hx
        exact ⟨y, List.mem_cons_of_mem _ hy, hR⟩

theorem keys_of_forall₂ {entries entries' : List (String × Json)}
    (h : List.Forall₂ (fun e e' => e'.1 = e.1 ∧ T e.2 e'.2) entries entries') :
    Table.keys entries' = Table.keys entries := by
  induction h with
  | nil => rfl
  | cons he _ ih =>
      unfold Table.keys at ih ⊢
      rw [List.map_cons, List.map_cons, ih, he.1]

theorem Inlines.mono {key : String} {v v' : Json} (h : Inlines T key v v')
    (himp : ∀ c ∈ insideKeyword key v, ∀ c', T c c' → U c c') : Inlines U key v v' := by
  unfold Inlines insideKeyword at *
  cases hkey : inlining key with
  | named =>
      cases v with
      | object entries =>
          simp only [hkey] at h himp ⊢
          obtain ⟨entries', rfl, hentries⟩ := h
          exact ⟨entries', rfl, forall₂_mono_mem hentries fun e he e' h =>
            ⟨h.1, himp e.2 (List.mem_map_of_mem he) _ h.2⟩⟩
      | _ => simpa only [hkey] using h
  | list =>
      cases v with
      | array items =>
          simp only [hkey] at h himp ⊢
          obtain ⟨items', rfl, hitems⟩ := h
          exact ⟨items', rfl, forall₂_mono_mem hitems himp⟩
      | _ => simpa only [hkey] using h
  | either =>
      cases v with
      | array items =>
          simp only [hkey] at h himp ⊢
          obtain ⟨items', rfl, hitems⟩ := h
          exact ⟨items', rfl, forall₂_mono_mem hitems himp⟩
      | _ =>
          simp only [hkey] at h himp ⊢
          exact himp _ List.mem_cons_self _ h
  | schema =>
      simp only [hkey] at h himp ⊢
      exact himp _ List.mem_cons_self _ h
  | drop => simp only [hkey] at h
  | keep => simpa only [hkey] using h

theorem InlinesMembers.mono {members members' : List (String × Json)}
    (h : InlinesMembers T members members') (himp : ∀ c ∈ inside members, ∀ c', T c c' → U c c') :
    InlinesMembers U members members' :=
  forall₂_mono_mem h fun m hm _ h => ⟨h.1, h.2.mono fun c hc c' =>
    himp c (List.mem_flatMap.mpr ⟨m, List.mem_of_mem_filter hm, hc⟩) c'⟩

/-- The names that are left stand in the order in which they stood. -/
theorem InlinesMembers.keys {members members' : List (String × Json)}
    (h : InlinesMembers T members members') : Table.keys members' = Table.keys (kept members) := by
  unfold InlinesMembers at h
  generalize kept members = before at h ⊢
  induction h with
  | nil => rfl
  | cons hm _ ih =>
      unfold Table.keys at ih ⊢
      rw [List.map_cons, List.map_cons, ih, hm.1]

theorem InlinesMembers.nodup {members members' : List (String × Json)}
    (h : InlinesMembers T members members') (hnodup : (Table.keys members).Nodup) :
    (Table.keys members').Nodup := by
  rw [h.keys]
  exact hnodup.sublist (List.filter_sublist.map _)

/-- What stands under a keyword afterwards comes from what stood there before. -/
theorem InlinesMembers.find? {members members' : List (String × Json)}
    (h : InlinesMembers T members members') (key : String) (hkey : inlining key ≠ .drop) :
    (Table.find? key members = none ∧ Table.find? key members' = none) ∨
      ∃ v v', Table.find? key members = some v ∧ Table.find? key members' = some v' ∧
        Inlines T key v v' := by
  have hkept : Table.find? key (kept members) = Table.find? key members := by
    clear h
    induction members with
    | nil => rfl
    | cons m rest ih =>
        obtain ⟨k, v⟩ := m
        unfold kept at ih ⊢
        rw [List.filter_cons, Table.find?_cons]
        by_cases hk : k = key
        · subst hk
          rw [if_pos (decide_eq_true hkey), Table.find?_cons, if_pos rfl, if_pos rfl]
        · rw [if_neg hk]
          split
          · rw [Table.find?_cons, if_neg hk, ih]
          · exact ih
  rw [← hkept]
  unfold InlinesMembers at h
  generalize kept members = before at h ⊢
  induction h with
  | nil => exact Or.inl ⟨rfl, rfl⟩
  | @cons m m' rest rest' hm _ ih =>
      obtain ⟨k, v⟩ := m
      obtain ⟨k', v'⟩ := m'
      obtain ⟨rfl, hv⟩ := hm
      rw [Table.find?_cons, Table.find?_cons]
      by_cases hk : k' = key
      · subst hk
        rw [if_pos rfl, if_pos rfl]
        exact Or.inr ⟨v, v', rfl, rfl, hv⟩
      · rw [if_neg hk, if_neg hk]
        exact ih

theorem InlinesMembers.find?_keep {members members' : List (String × Json)}
    (h : InlinesMembers T members members') {key : String} (hkey : inlining key = .keep) :
    Table.find? key members' = Table.find? key members := by
  rcases h.find? key (by rw [hkey]; decide) with ⟨h₁, h₂⟩ | ⟨v, v', h₁, h₂, hv⟩
  · rw [h₁, h₂]
  · unfold Inlines at hv
    simp only [hkey] at hv
    rw [h₁, h₂, hv]

theorem InlinesMembers.reference? {members members' : List (String × Json)}
    (h : InlinesMembers T members members') :
    reference? (.object members') = reference? (.object members) := by
  have hfind : Table.find? "$ref" members' = Table.find? "$ref" members := h.find?_keep (by decide)
  exact congrArg (·.bind Json.asString?) hfind

/-! ## §2  The induction -/

section
variable {follow : String → Except SchemaError Json}

/-- What inlining makes of the value of a keyword that it keeps. -/
def inlineValue (follow : String → Except SchemaError Json) (key : String) (value : Json) :
    Except SchemaError Json :=
  match inlining key, value with
  | .named, .object entries => do return .object (← inlineNamed follow entries)
  | .named, _ => return .object []
  | .list, .array items => do return .array (← inlineList follow items)
  | .either, .array items => do return .array (← inlineList follow items)
  | .either, v => inline follow v
  | .schema, v => inline follow v
  | _, v => return v

theorem inlineMembers_cons (key : String) (value : Json) (rest : List (String × Json)) :
    inlineMembers follow ((key, value) :: rest) =
      if inlining key = .drop then inlineMembers follow rest
      else do
        let inner ← inlineValue follow key value
        return (key, inner) :: (← inlineMembers follow rest) := by
  rw [inlineMembers.eq_def]
  unfold inlineValue
  cases hkey : inlining key <;> cases value <;> simp [hkey]

theorem forall₂_inlineNamed : ∀ {entries entries' : List (String × Json)},
    inlineNamed follow entries = .ok entries' →
    List.Forall₂ (fun e e' => e'.1 = e.1 ∧ inline follow e.2 = .ok e'.2) entries entries'
  | [], entries', h => by
      rw [inlineNamed, Result.pure_eq_ok] at h
      exact h ▸ .nil
  | (name, value) :: rest, entries', h => by
      rw [inlineNamed, Result.bind_eq_ok] at h
      obtain ⟨inner, hinner, h⟩ := h
      obtain ⟨more, hmore, h⟩ := Result.bind_eq_ok.mp h
      rw [Result.pure_eq_ok] at h
      exact h ▸ .cons ⟨rfl, hinner⟩ (forall₂_inlineNamed hmore)

theorem forall₂_inlineList : ∀ {items items' : List Json}, inlineList follow items = .ok items' →
    List.Forall₂ (fun c c' => inline follow c = .ok c') items items'
  | [], items', h => by
      rw [inlineList, Result.pure_eq_ok] at h
      exact h ▸ .nil
  | value :: rest, items', h => by
      rw [inlineList, Result.bind_eq_ok] at h
      obtain ⟨inner, hinner, h⟩ := h
      obtain ⟨more, hmore, h⟩ := Result.bind_eq_ok.mp h
      rw [Result.pure_eq_ok] at h
      exact h ▸ .cons hinner (forall₂_inlineList hmore)

theorem inlines_of_eq_ok {key : String} {value value' : Json} (hkept : inlining key ≠ .drop)
    (h : inlineValue follow key value = .ok value') :
    Inlines (fun c c' => inline follow c = .ok c') key value value' := by
  unfold inlineValue at h
  unfold Inlines
  cases hkey : inlining key with
  | drop => exact absurd hkey hkept
  | keep =>
      simp only [hkey, Result.pure_eq_ok] at h
      exact h.symm
  | schema =>
      simp only [hkey] at h
      exact h
  | named =>
      cases value with
      | object entries =>
          simp only [hkey, Result.bind_eq_ok, Result.pure_eq_ok] at h
          obtain ⟨entries', hentries, rfl⟩ := h
          exact ⟨entries', rfl, forall₂_inlineNamed hentries⟩
      | _ =>
          simp only [hkey, Result.pure_eq_ok] at h
          exact h.symm
  | list =>
      cases value with
      | array items =>
          simp only [hkey, Result.bind_eq_ok, Result.pure_eq_ok] at h
          obtain ⟨items', hitems, rfl⟩ := h
          exact ⟨items', rfl, forall₂_inlineList hitems⟩
      | _ =>
          simp only [hkey, Result.pure_eq_ok] at h
          exact h.symm
  | either =>
      cases value with
      | array items =>
          simp only [hkey, Result.bind_eq_ok, Result.pure_eq_ok] at h
          obtain ⟨items', hitems, rfl⟩ := h
          exact ⟨items', rfl, forall₂_inlineList hitems⟩
      | _ =>
          simp only [hkey] at h
          exact h

theorem inlinesMembers_of_eq_ok : ∀ {members members' : List (String × Json)},
    inlineMembers follow members = .ok members' →
    InlinesMembers (fun c c' => inline follow c = .ok c') members members'
  | [], members', h => by
      rw [inlineMembers, Result.pure_eq_ok] at h
      exact h ▸ .nil
  | (key, value) :: rest, members', h => by
      rw [inlineMembers_cons] at h
      unfold InlinesMembers kept
      rw [List.filter_cons]
      by_cases hdrop : inlining key = .drop
      · rw [if_pos hdrop] at h
        rw [if_neg (by simp [hdrop])]
        exact inlinesMembers_of_eq_ok h
      · rw [if_neg hdrop] at h
        obtain ⟨inner, hinner, h⟩ := Result.bind_eq_ok.mp h
        obtain ⟨more, hmore, h⟩ := Result.bind_eq_ok.mp h
        rw [Result.pure_eq_ok] at h
        rw [if_pos (decide_eq_true hdrop)]
        exact h ▸ .cons ⟨rfl, inlines_of_eq_ok hdrop hinner⟩ (inlinesMembers_of_eq_ok hmore)

end

/-- **The induction on a schema**: what is shown of the targets of its references, and passes to
schemas that are put together again, holds of a schema and of what inlining makes of it. -/
theorem inline_induct {follow : String → Except SchemaError Json} {H : Json → Prop}
    {Φ : Json → Json → Prop} (data : ∀ v, H v → v.isObject = false → Φ v v)
    (target : ∀ schema r j, H schema → reference? schema = some r → follow r = .ok j → Φ schema j)
    (object : ∀ members members', H (.object members) → reference? (.object members) = none →
      InlinesMembers (fun c c' => H c → Φ c c') members members' →
      Φ (.object members) (.object members')) :
    ∀ {schema j : Json}, H schema → inline follow schema = .ok j → Φ schema j := by
  intro schema
  induction hsize : sizeOf schema using Nat.strongRecOn generalizing schema with
  | _ n ih =>
      subst hsize
      intro j hschema h
      cases schema with
      | object members =>
          rw [inline] at h
          cases href : reference? (.object members) with
          | some r =>
              simp only [href] at h
              exact target _ r j hschema href h
          | none =>
              simp only [href] at h
              obtain ⟨members', hmembers, h⟩ := Result.bind_eq_ok.mp h
              rw [Result.pure_eq_ok] at h
              refine h ▸ object members members' hschema href ?_
              refine (inlinesMembers_of_eq_ok hmembers).mono fun c hc c' hinner hH => ?_
              exact ih (sizeOf c) (sizeOf_lt_of_held (held_of_mem_inside hc)) rfl hH hinner
      | _ =>
          rw [inline, Result.pure_eq_ok] at h
          · exact h ▸ data _ hschema rfl
          all_goals intro members h; cases h

namespace Set

/-- What is to be shown for an induction on bundling: `H` says what is known of a schema in a
document, and `Φ` what is shown of the schema and of what it is bundled to. -/
structure Bundles (set : Set) (H : Source → Json → Prop) (Φ : Source → Json → Json → Prop) :
    Prop where
  cut : ∀ s schema r, H s schema → reference? schema = some r → Φ s schema permissive
  data : ∀ s v, H s v → v.isObject = false → Φ s v v
  reference : ∀ s schema r t, H s schema → reference? schema = some r →
    set.resolve r s = .ok t → H t.source t.schema ∧ ∀ j, Φ t.source t.schema j → Φ s schema j
  object : ∀ s members members', H s (.object members) → reference? (.object members) = none →
    InlinesMembers (fun c c' => H s c → Φ s c c') members members' →
    Φ s (.object members) (.object members')

variable {set : Set} {H : Source → Json → Prop} {Φ : Source → Json → Json → Prop}

/-- What bundling puts in the place of a reference. -/
def replacement (set : Set) (room : Nat) (entered : List Key) (s : Source) (r : String) :
    Except SchemaError Json := do
  let t ← set.resolve r s
  if t.key ∈ entered then pure permissive
  else
    match room with
    | 0 => pure permissive
    | room + 1 => set.bundleBelow room (t.key :: entered) t.source t.schema

theorem bundleBelow_eq_inline (room : Nat) (entered : List Key) (s : Source) (schema : Json) :
    set.bundleBelow room entered s schema = inline (set.replacement room entered s) schema := by
  cases room with
  | zero => rfl
  | succ room => rfl

/-- It is the bundled target, or a schema that permits everything if the target is being bundled
already or there is no room. -/
theorem replacement_eq_ok {room : Nat} {entered : List Key} {s : Source} {r : String} {j : Json} :
    set.replacement room entered s r = .ok j ↔ ∃ t, set.resolve r s = .ok t ∧
      ((t.key ∈ entered ∨ room = 0) ∧ j = permissive ∨
        t.key ∉ entered ∧ ∃ m, room = m + 1 ∧
          set.bundleBelow m (t.key :: entered) t.source t.schema = .ok j) := by
  unfold replacement
  rw [Result.bind_eq_ok]
  refine exists_congr fun t => and_congr_right fun _ => ?_
  by_cases hentered : t.key ∈ entered
  · rw [if_pos hentered, Result.pure_eq_ok]
    simp [hentered, eq_comm]
  · rw [if_neg hentered]
    cases room with
    | zero =>
        rw [Result.pure_eq_ok]
        simp [hentered, eq_comm]
    | succ room => simp [hentered]

/-- **The induction on bundling.** -/
theorem Bundles.bundleBelow (b : set.Bundles H Φ) :
    ∀ (room : Nat) (entered : List Key) {s : Source} {schema j : Json}, H s schema →
      set.bundleBelow room entered s schema = .ok j → Φ s schema j := by
  intro room
  induction room using Nat.strongRecOn with
  | _ room ih =>
      intro entered s schema j hschema h
      rw [bundleBelow_eq_inline] at h
      refine inline_induct (b.data s) (fun schema r j hH href hj => ?_) (b.object s) hschema h
      obtain ⟨t, ht, ⟨-, rfl⟩ | ⟨-, m, rfl, hbundle⟩⟩ := replacement_eq_ok.mp hj
      · exact b.cut s schema r hH href
      · obtain ⟨htarget, hpasses⟩ := b.reference s schema r t hH href ht
        exact hpasses j (ih m (Nat.lt_succ_self m) _ htarget hbundle)

/-! ## §3  Soundness -/

theorem isSound_of_inlines {T : Json → Json → Prop} {key : String} {v v' : Json}
    (h : Inlines T key v v') (hv : v.IsSound)
    (hT : ∀ c c', c.IsSound → T c c' → c'.IsSound) : v'.IsSound := by
  have hlist : ∀ {items items' : List Json}, List.Forall₂ T items items' →
      (∀ x ∈ items, x.IsSound) → (Json.array items').IsSound := by
    intro items items' hitems hsound
    refine .array fun x' hx' => ?_
    obtain ⟨x, hx, hT'⟩ := exists_of_forall₂ hitems hx'
    exact hT x x' (hsound x hx) hT'
  unfold Inlines at h
  split at h
  · exact h.elim
  · next entries _ =>
      obtain ⟨entries', rfl, hentries⟩ := h
      refine .object ?_ fun e' he' => ?_
      · exact keys_of_forall₂ hentries ▸ hv.nodup
      · obtain ⟨e, he, -, hT'⟩ := exists_of_forall₂ hentries he'
        exact hT e.2 e'.2 (hv.member he) hT'
  · exact h ▸ .object List.nodup_nil fun _ hm => by cases hm
  · obtain ⟨items', rfl, hitems⟩ := h
    exact hlist hitems fun x hx => hv.item hx
  · obtain ⟨items', rfl, hitems⟩ := h
    exact hlist hitems fun x hx => hv.item hx
  · exact hT _ _ hv h
  · exact hT _ _ hv h
  · exact h ▸ hv
  · exact h ▸ hv

/-- **A bundled schema is as sound as the documents that it was taken from.** -/
theorem isSound_bundleSchema {base s : Source} (hset : set.IsSound base)
    (hs : s ∈ set.sources base) {schema j : Json} (hschema : schema.IsSound)
    (h : set.bundleSchema s schema = .ok j) : j.IsSound := by
  have hbundles : set.Bundles (fun s schema => s ∈ set.sources base ∧ schema.IsSound)
      (fun _ _ j => j.IsSound) := {
    cut := fun _ _ _ _ _ => .object List.nodup_nil fun _ hm => by cases hm
    data := fun s v hv _ => hv.2
    reference := fun s schema r t hschema _ ht =>
      have ht := source_mem_of_resolve hschema.1 ht
      ⟨⟨ht, hset.schema ht⟩, fun _ hj => hj⟩
    object := fun s members members' hmembers _ hinlines => by
      refine .object (hinlines.nodup hmembers.2.nodup) fun m' hm' => ?_
      obtain ⟨m, hm, -, hvalue⟩ := exists_of_forall₂ hinlines hm'
      exact isSound_of_inlines hvalue (hmembers.2.member (List.mem_of_mem_filter hm))
        fun c c' hc hT => hT ⟨hmembers.1, hc⟩ }
  exact hbundles.bundleBelow bundleDepth [] ⟨hs, hschema⟩ h

end Set

end ReplySchema.Schema

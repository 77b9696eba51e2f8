import ReplySchema.Proofs.Json.Every
import ReplySchema.Proofs.Result
import ReplySchema.Schema.Position
import ReplySchema.Schema.Set

/-! # The references that a schema set can follow

A reference is followed from a document, and its target lies in a document again: in the
same one, or in one of the set.  So from a base document only finitely many targets can be
met, at most one for each place where a reference stands.  `targetBound` counts these places;
here it is shown to be a bound (`length_possibleKeys_lt`).

Whatever goes over schemas enters some of their keywords, and looks at the value of a keyword as
a schema, as a map of names to schemas, or as a list of schemas.  `held` has all schemas that can
be found in this way one level down.  They are parts of the schema, so they are smaller, their
references are references of the schema, and what holds everywhere in the schema holds
everywhere in them.
-/

set_option autoImplicit false

namespace ReplySchema.Schema

namespace Set

/-! ## §1  Where references stand -/

mutual
/-- The string members `$ref` anywhere in a value. -/
def refsIn : Json → List String
  | .array items => refsInItems items
  | .object members => refsInMembers members
  | _ => []

def refsInItems : List Json → List String
  | [] => []
  | x :: rest => refsIn x ++ refsInItems rest

def refsInMembers : List (String × Json) → List String
  | [] => []
  | (k, x) :: rest =>
      (if k = "$ref" then x.asString?.toList else []) ++ refsIn x ++ refsInMembers rest
end

mutual
theorem length_refsIn : ∀ v, (refsIn v).length = referencesIn v
  | .array items => by rw [refsIn, referencesIn, length_refsInItems items]
  | .object members => by rw [refsIn, referencesIn, length_refsInMembers members]
  | .null | .bool _ | .number _ | .string _ => by simp [refsIn, referencesIn]

theorem length_refsInItems : ∀ items, (refsInItems items).length = referencesInItems items
  | [] => by simp [refsInItems, referencesInItems]
  | x :: rest => by
      rw [refsInItems, referencesInItems, List.length_append, length_refsIn x,
        length_refsInItems rest]

theorem length_refsInMembers : ∀ members,
    (refsInMembers members).length = referencesInMembers members
  | [] => by simp [refsInMembers, referencesInMembers]
  | (k, x) :: rest => by
      have hown : (if k = "$ref" then x.asString?.toList else []).length =
          if k = "$ref" ∧ x.asString?.isSome then 1 else 0 := by
        by_cases hk : k = "$ref"
        · cases x.asString? <;> simp [hk]
        · simp [hk]
      rw [refsInMembers, referencesInMembers, List.length_append, List.length_append,
        length_refsIn x, length_refsInMembers rest, hown]
end

theorem mem_refsIn_item {items : List Json} {x : Json} (hx : x ∈ items) {r : String}
    (hr : r ∈ refsIn x) : r ∈ refsIn (.array items) := by
  rw [refsIn]
  induction items with
  | nil => cases hx
  | cons y rest ih =>
      rw [refsInItems, List.mem_append]
      rcases List.mem_cons.mp hx with rfl | hx
      · exact Or.inl hr
      · exact Or.inr (ih hx)

theorem mem_refsIn_member {members : List (String × Json)} {m : String × Json} (hm : m ∈ members)
    {r : String} (hr : r ∈ refsIn m.2) : r ∈ refsIn (.object members) := by
  rw [refsIn]
  induction members with
  | nil => cases hm
  | cons p rest ih =>
      obtain ⟨k, x⟩ := p
      rw [refsInMembers, List.mem_append, List.mem_append]
      rcases List.mem_cons.mp hm with rfl | hm
      · exact Or.inl (Or.inr hr)
      · exact Or.inr (ih hm)

theorem mem_refsIn_of_reference? {schema : Json} {r : String} (h : reference? schema = some r) :
    r ∈ refsIn schema := by
  cases schema with
  | object members =>
      obtain ⟨v, hv, hr⟩ := Option.bind_eq_some_iff.mp h
      have hmem := Table.find?_mem hv
      rw [refsIn]
      clear h hv
      induction members with
      | nil => cases hmem
      | cons p rest ih =>
          obtain ⟨k, x⟩ := p
          rw [refsInMembers, List.mem_append, List.mem_append]
          rcases List.mem_cons.mp hmem with heq | hmem
          · cases heq
            exact Or.inl (Or.inl (by rw [if_pos rfl]; exact Option.mem_toList.mpr hr))
          · exact Or.inr (ih hmem)
  | _ => cases h

/-- What passes from an array to its items and from an object to its members passes along every
pointer. -/
theorem at?_induct {P : Json → Prop} (item : ∀ items, ∀ x ∈ items, P (.array items) → P x)
    (member : ∀ members, ∀ m ∈ members, P (.object members) → P m.2) {v w : Json}
    {pointer : String} (h : v.at? pointer = some w) (hv : P v) : P w := by
  have hstep : ∀ {token : List Char} {v w : Json}, Pointer.step? token v = some w → P v → P w := by
    intro token v w h hv
    cases v with
    | object members => exact member members _ (Table.find?_mem h) hv
    | array items =>
        obtain ⟨i, -, hi⟩ := Option.bind_eq_some_iff.mp h
        exact item items _ (List.mem_of_getElem? hi) hv
    | _ => cases h
  have hwalk : ∀ (tokens : List (List Char)) {v w : Json}, Pointer.walk? tokens v = some w →
      P v → P w := by
    intro tokens
    induction tokens with
    | nil =>
        intro v w h hv
        exact Option.some.inj h ▸ hv
    | cons token rest ih =>
        intro v w h hv
        obtain ⟨next, hnext, hrest⟩ := Option.bind_eq_some_iff.mp h
        exact ih hrest (hstep hnext hv)
  obtain ⟨tokens, -, h⟩ := Option.bind_eq_some_iff.mp h
  exact hwalk tokens h hv

theorem mem_refsIn_of_at? {v w : Json} {pointer : String} (h : v.at? pointer = some w) {r : String}
    (hr : r ∈ refsIn w) : r ∈ refsIn v :=
  at?_induct (P := fun x => r ∈ refsIn x → r ∈ refsIn v)
    (fun _ _ hx hv hr => hv (mem_refsIn_item hx hr))
    (fun _ _ hm hv hr => hv (mem_refsIn_member hm hr)) h id hr

theorem every_of_at? {number : Number → Prop} {names : List String → Prop} {v w : Json}
    {pointer : String} (h : v.at? pointer = some w) (hv : v.Every number names) :
    w.Every number names :=
  at?_induct (fun _ _ hx hv => hv.item hx) (fun _ _ hm hv => hv.member hm) h hv

/-! ## §2  Where targets lie -/

theorem source_of_targetAt? {s : Source} {pointer : String} {t : Target}
    (h : targetAt? s pointer = some t) : t.source = s := by
  unfold targetAt? at h
  split at h
  · cases h
    rfl
  · cases h

theorem source_of_targetOf? {place : Source × String} {fragment : String} {t : Target}
    (h : targetOf? place fragment = some t) : t.source = place.1 := by
  unfold targetOf? at h
  dsimp only at h
  split at h
  · exact source_of_targetAt? h
  · split at h
    · exact source_of_targetAt? h
    · obtain ⟨pointer, -, h⟩ := Option.bind_eq_some_iff.mp h
      exact source_of_targetAt? h

theorem target?_eq_some_of_resolve {set : Set} {r : String} {s : Source} {t : Target}
    (h : set.resolve r s = .ok t) : set.target? r s = some t := by
  unfold resolve at h
  split at h
  · next u hu =>
      cases h
      exact hu
  · cases h

/-- **A reference stays among the documents that can be met.** -/
theorem source_mem_of_resolve {set : Set} {base s : Source} (hs : s ∈ set.sources base)
    {r : String} {t : Target} (h : set.resolve r s = .ok t) : t.source ∈ set.sources base := by
  have hdocument : ∀ {key : String} {d : Source}, Table.find? key set.documents = some d →
      d ∈ set.sources base := fun hd =>
    List.mem_cons_of_mem _ (List.mem_append_left _ (List.mem_map_of_mem (Table.find?_mem hd)))
  have hembedded : ∀ {key : String} {place : Source × String},
      Table.find? key set.embedded = some place → place.1 ∈ set.sources base := fun hplace =>
    List.mem_cons_of_mem _ (List.mem_append_right _
      (List.mem_map_of_mem (f := fun e : String × Source × String => e.2.1)
        (Table.find?_mem hplace)))
  have htarget := target?_eq_some_of_resolve h
  unfold target? at htarget
  dsimp only at htarget
  split at htarget
  · rcases Result.eq_some_of_orElse htarget with htarget | htarget
    · rw [source_of_targetOf? htarget]
      exact hs
    · obtain ⟨d, hd, htarget⟩ := Option.bind_eq_some_iff.mp htarget
      rw [source_of_targetAt? htarget]
      exact hdocument hd
  · obtain ⟨place, hplace, htarget⟩ := Option.bind_eq_some_iff.mp htarget
    rw [source_of_targetOf? htarget]
    obtain ⟨candidate, -, hcandidate⟩ := List.exists_of_findSome?_eq_some hplace
    rcases Result.eq_some_of_orElse hcandidate with hcandidate | hcandidate
    · obtain ⟨d, hd, rfl⟩ := Option.map_eq_some_iff.mp hcandidate
      exact hdocument hd
    · rcases Result.eq_some_of_orElse hcandidate with hcandidate | hcandidate
      · exact hembedded hcandidate
      · split at hcandidate
        · cases hcandidate
          exact hs
        · cases hcandidate

/-- The references that stand in the documents that can be met. -/
def possibleRefs (set : Set) (base : Source) : List String :=
  (set.sources base).flatMap fun s => refsIn s.root

theorem mem_possibleRefs {set : Set} {base s : Source} (hs : s ∈ set.sources base) {r : String}
    (hr : r ∈ refsIn s.root) : r ∈ set.possibleRefs base :=
  List.mem_flatMap.mpr ⟨s, hs, hr⟩

theorem length_possibleRefs (set : Set) (base : Source) :
    (set.possibleRefs base).length = ((set.sources base).map fun s => referencesIn s.root).sum := by
  unfold possibleRefs
  rw [List.length_flatMap]
  simp only [length_refsIn]

/-- The identities of the targets of these references, followed from any of the documents. -/
def possibleKeys (set : Set) (base : Source) : List Key :=
  (set.sources base).flatMap fun s =>
    (set.possibleRefs base).filterMap fun r => (set.target? r s).map Target.key

theorem length_possibleKeys_lt (set : Set) (base : Source) :
    (set.possibleKeys base).length < set.targetBound base := by
  unfold possibleKeys targetBound
  refine Nat.lt_succ_of_le ?_
  rw [List.length_flatMap, ← length_possibleRefs]
  induction set.sources base with
  | nil => simp
  | cons s rest ih =>
      rw [List.map_cons, List.sum_cons, List.length_cons, Nat.succ_mul, Nat.add_comm]
      exact Nat.add_le_add ih (List.length_filterMap_le _ _)

/-- The target of such a reference, followed from one of the documents, has a possible key. -/
theorem mem_possibleKeys_of_mem_possibleRefs {set : Set} {base s : Source}
    (hs : s ∈ set.sources base) {r : String} (hr : r ∈ set.possibleRefs base) {t : Target}
    (h : set.resolve r s = .ok t) : t.key ∈ set.possibleKeys base := by
  refine List.mem_flatMap.mpr ⟨s, hs, List.mem_filterMap.mpr ⟨r, hr, ?_⟩⟩
  rw [target?_eq_some_of_resolve h]
  rfl

/-- The target of a reference that stands in a document that can be met has a possible key. -/
theorem mem_possibleKeys {set : Set} {base s : Source} (hs : s ∈ set.sources base) {r : String}
    (hr : r ∈ refsIn s.root) {t : Target} (h : set.resolve r s = .ok t) :
    t.key ∈ set.possibleKeys base :=
  mem_possibleKeys_of_mem_possibleRefs hs (mem_possibleRefs hs hr) h

/-- Whether all documents that references can lead into are sound. -/
def IsSound (set : Set) (base : Source) : Prop := ∀ s ∈ set.sources base, s.root.IsSound

theorem IsSound.schema {set : Set} {base : Source} (h : set.IsSound base) {t : Target}
    (ht : t.source ∈ set.sources base) : t.schema.IsSound :=
  every_of_at? t.found (h _ ht)

end Set

/-! ## §3  The schemas that a schema holds -/

def heldUnder (keyword : String) (value : Json) : List Json :=
  match holds keyword, value with
  | .schema, v => [v]
  | .named, .object entries => entries.map (·.2)
  | .list, .array items => items
  | .either, .array items => items
  | .either, v => [v]
  | _, _ => []

/-- The schemas that the keywords of a schema hold. -/
def held (v : Json) : List Json := v.members.flatMap fun m => heldUnder m.1 m.2

theorem mem_held {v c : Json} {m : String × Json} (hm : m ∈ v.members)
    (hc : c ∈ heldUnder m.1 m.2) : c ∈ held v :=
  List.mem_flatMap.mpr ⟨m, hm, hc⟩

theorem eq_items_of_holds {keyword : String} (h : holds keyword = .either) : keyword = "items" := by
  grind [holds]

/-- What passes from an array to its items and from an object to its members passes from the value
of a keyword to the schemas that it holds. -/
theorem heldUnder_induct {P : Json → Prop} (item : ∀ items, ∀ x ∈ items, P (.array items) → P x)
    (member : ∀ members, ∀ m ∈ members, P (.object members) → P m.2) {keyword : String}
    {value c : Json} (hc : c ∈ heldUnder keyword value) (h : P value) : P c := by
  unfold heldUnder at hc
  split at hc
  · exact List.mem_singleton.mp hc ▸ h
  · obtain ⟨m, hm, rfl⟩ := List.mem_map.mp hc
    exact member _ m hm h
  · exact item _ c hc h
  · exact item _ c hc h
  · exact List.mem_singleton.mp hc ▸ h
  · cases hc

theorem held_induct {P : Json → Prop} (item : ∀ items, ∀ x ∈ items, P (.array items) → P x)
    (member : ∀ members, ∀ m ∈ members, P (.object members) → P m.2) {v c : Json}
    (hc : c ∈ held v) (h : P v) : P c := by
  obtain ⟨m, hm, hunder⟩ := List.mem_flatMap.mp hc
  cases v with
  | object members => exact heldUnder_induct item member hunder (member members m hm h)
  | _ => cases hm

theorem sizeOf_lt_of_mem_members {members : List (String × Json)} {m : String × Json}
    (h : m ∈ members) : sizeOf m.2 < sizeOf (Json.object members) := by
  have hlt := List.sizeOf_lt_of_mem h
  obtain ⟨key, v⟩ := m
  simp at hlt ⊢
  omega

theorem sizeOf_lt_of_held {v c : Json} (hc : c ∈ held v) : sizeOf c < sizeOf v := by
  obtain ⟨m, hm, hunder⟩ := List.mem_flatMap.mp hc
  cases v with
  | object members =>
      have hmember : sizeOf m.2 < sizeOf (Json.object members) := sizeOf_lt_of_mem_members hm
      refine heldUnder_induct (P := fun x => sizeOf x < sizeOf (Json.object members))
        (fun items x hx h => ?_) (fun entries e he h => ?_) hunder hmember
      · have hlt := List.sizeOf_lt_of_mem hx
        simp at h ⊢
        omega
      · exact Nat.lt_trans (sizeOf_lt_of_mem_members he) h
  | _ => cases hm

theorem mem_refsIn_of_held {v c : Json} (hc : c ∈ held v) {r : String} (hr : r ∈ Set.refsIn c) :
    r ∈ Set.refsIn v :=
  held_induct (P := fun x => r ∈ Set.refsIn x → r ∈ Set.refsIn v)
    (fun _ _ hx hv hr => hv (Set.mem_refsIn_item hx hr))
    (fun _ _ hm hv hr => hv (Set.mem_refsIn_member hm hr)) hc id hr

theorem every_of_held {number : Number → Prop} {names : List String → Prop} {v c : Json}
    (hc : c ∈ held v) (h : v.Every number names) : c.Every number names :=
  held_induct (fun _ _ hx hv => hv.item hx) (fun _ _ hm hv => hv.member hm) hc h

end ReplySchema.Schema

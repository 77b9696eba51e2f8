import ReplySchema.Proofs.Schema.Inlining
import ReplySchema.Proofs.Schema.Walk

/-! # Bundling what can be followed

Bundling enters no keyword that the check does not enter.  So a schema whose references can all
be followed can be bundled (`exists_bundleSchema`).

One would expect that no reference is left.  Almost: a target that is no object is taken as it
stands, so where `items` is a reference to a list, the list comes in with whatever references its
entries are, and there a list counts as a list of schemas.  If such a list holds no references,
what bundling makes of a schema stands alone (`standsAlone_bundleSchema`).

What bundling makes of a schema depends on the visible schemas through the references alone that
one comes to.  Where these mean the same under two schema sets, bundling makes the same of the
schema, or fails alike (`bundle_congr`).
-/

set_option autoImplicit false

namespace ReplySchema.Schema

/-! ## §1  What a keyword holds afterwards -/

/-- What a keyword holds afterwards was put in for what was replaced there; but where one schema
stood for items, a list may have come in. -/
theorem held_of_inlines {T : Json → Json → Prop} {key : String} {v v' c' : Json}
    (h : Inlines T key v v') (hc : c' ∈ heldUnder key v') :
    (∃ c ∈ insideKeyword key v, T c c') ∨
      key = "items" ∧ v.asArray? = none ∧ ∃ entries, T v (.array entries) ∧ c' ∈ entries := by
  unfold Inlines at h
  unfold insideKeyword
  unfold heldUnder at hc
  rw [inlining_eq] at h ⊢
  cases hkey : holds key with
  | schema =>
      simp only [hkey] at h hc ⊢
      exact Or.inl ⟨v, List.mem_cons_self, List.mem_singleton.mp hc ▸ h⟩
  | named =>
      simp only [hkey] at h hc ⊢
      by_cases hdrop : key ∈ ["definitions", "$defs"]
      · simp only [if_pos hdrop] at h
      · simp only [if_neg hdrop] at h ⊢
        cases v with
        | object entries =>
            obtain ⟨entries', rfl, hentries⟩ := h
            obtain ⟨e', he', rfl⟩ := List.mem_map.mp hc
            obtain ⟨e, he, -, hT⟩ := exists_of_forall₂ hentries he'
            exact Or.inl ⟨e.2, List.mem_map_of_mem he, hT⟩
        | _ =>
            subst h
            cases hc
  | list =>
      simp only [hkey] at h hc ⊢
      cases v with
      | array items =>
          obtain ⟨items', rfl, hitems⟩ := h
          exact Or.inl (exists_of_forall₂ hitems hc)
      | _ =>
          subst h
          cases hc
  -- one schema for all items may become a list, if it is a reference to one
  | either =>
      have hitems : key = "items" := eq_items_of_holds hkey
      simp only [hkey] at h hc ⊢
      cases v with
      | array items =>
          obtain ⟨items', rfl, hforall⟩ := h
          exact Or.inl (exists_of_forall₂ hforall hc)
      | _ =>
          cases v' with
          | array entries => exact Or.inr ⟨hitems, rfl, entries, h, hc⟩
          | _ =>
              rw [List.mem_singleton.mp hc]
              exact Or.inl ⟨_, List.mem_cons_self, h⟩
  | data =>
      simp only [hkey] at hc
      cases hc

theorem held_of_inlinesMembers {T : Json → Json → Prop} {members members' : List (String × Json)}
    {c' : Json} (h : InlinesMembers T members members') (hc : c' ∈ held (.object members')) :
    (∃ c ∈ inside members, T c c') ∨ ∃ items entries, ("items", items) ∈ members ∧
      items.asArray? = none ∧ T items (.array entries) ∧ c' ∈ entries := by
  obtain ⟨m', hm', hc⟩ := List.mem_flatMap.mp hc
  obtain ⟨⟨key, v⟩, hm, hkey, hvalue⟩ := exists_of_forall₂ h hm'
  have hm : (key, v) ∈ members := List.mem_of_mem_filter hm
  rw [hkey] at hc
  rcases held_of_inlines hvalue hc with ⟨c, hc, hT⟩ | ⟨rfl, hsingle, entries, hT, hentry⟩
  · exact Or.inl ⟨c, List.mem_flatMap.mpr ⟨_, hm, hc⟩, hT⟩
  · exact Or.inr ⟨v, entries, hm, hsingle, hT, hentry⟩

/-! ## §2  What can be bundled -/

section
variable {follow : String → Except SchemaError Json} {E : SchemaError → Prop}

theorem failsOnly_inlineNamed : ∀ {entries : List (String × Json)},
    (∀ e ∈ entries, Result.FailsOnly E (inline follow e.2)) →
    Result.FailsOnly E (inlineNamed follow entries)
  | [], _ => Result.failsOnly_pure _
  | (name, value) :: rest, h => by
      have hrest := failsOnly_inlineNamed fun e he => h e (List.mem_cons_of_mem _ he)
      rw [inlineNamed]
      exact (h _ List.mem_cons_self).bind fun _ _ => hrest.bind fun _ _ => Result.failsOnly_pure _

theorem failsOnly_inlineList : ∀ {items : List Json},
    (∀ c ∈ items, Result.FailsOnly E (inline follow c)) →
    Result.FailsOnly E (inlineList follow items)
  | [], _ => Result.failsOnly_pure _
  | value :: rest, h => by
      have hrest := failsOnly_inlineList fun c hc => h c (List.mem_cons_of_mem _ hc)
      rw [inlineList]
      exact (h _ List.mem_cons_self).bind fun _ _ => hrest.bind fun _ _ => Result.failsOnly_pure _

theorem failsOnly_inlineValue {key : String} {value : Json}
    (h : ∀ c ∈ insideKeyword key value, Result.FailsOnly E (inline follow c)) :
    Result.FailsOnly E (inlineValue follow key value) := by
  unfold insideKeyword at h
  unfold inlineValue
  cases hkey : inlining key with
  | drop => exact Result.failsOnly_pure _
  | keep => exact Result.failsOnly_pure _
  | schema =>
      simp only [hkey] at h
      exact h value List.mem_cons_self
  | named =>
      cases value with
      | object entries =>
          simp only [hkey] at h
          exact (failsOnly_inlineNamed fun e he => h e.2 (List.mem_map_of_mem he)).bind
            fun _ _ => Result.failsOnly_pure _
      | _ => exact Result.failsOnly_pure _
  | list =>
      cases value with
      | array items =>
          simp only [hkey] at h
          exact (failsOnly_inlineList h).bind fun _ _ => Result.failsOnly_pure _
      | _ => exact Result.failsOnly_pure _
  | either =>
      cases value with
      | array items =>
          simp only [hkey] at h
          exact (failsOnly_inlineList h).bind fun _ _ => Result.failsOnly_pure _
      | _ =>
          simp only [hkey] at h
          exact h _ List.mem_cons_self

theorem failsOnly_inlineMembers : ∀ {members : List (String × Json)},
    (∀ c ∈ inside members, Result.FailsOnly E (inline follow c)) →
    Result.FailsOnly E (inlineMembers follow members)
  | [], _ => Result.failsOnly_pure _
  | (key, value) :: rest, h => by
      have hrest : Result.FailsOnly E (inlineMembers follow rest) :=
        failsOnly_inlineMembers fun c hc => h c (List.mem_append_right _ hc)
      have hvalue : Result.FailsOnly E (inlineValue follow key value) :=
        failsOnly_inlineValue fun c hc => h c (List.mem_append_left _ hc)
      rw [inlineMembers_cons]
      split
      · exact hrest
      · exact hvalue.bind fun _ _ => hrest.bind fun _ _ => Result.failsOnly_pure _

theorem failsOnly_inline {v : Json} (h : ∀ w ∈ schemasIn v, ∀ r, reference? w = some r →
    Result.FailsOnly E (follow r)) : Result.FailsOnly E (inline follow v) := by
  induction hsize : sizeOf v using Nat.strongRecOn generalizing v with
  | _ n ih =>
      subst hsize
      cases v with
      | object members =>
          rw [inline]
          cases hr : reference? (.object members) with
          | some r => exact h _ (mem_schemasIn_self _) r hr
          | none =>
              refine (failsOnly_inlineMembers fun c hc => ?_).bind fun _ _ => Result.failsOnly_pure _
              exact ih (sizeOf c) (sizeOf_lt_of_held (held_of_mem_inside hc))
                (fun w hw => h w (mem_schemasIn_of_held (held_of_mem_inside hc) hw)) rfl
      | _ =>
          rw [inline]
          · exact Result.failsOnly_pure _
          all_goals intro _ h; cases h

theorem exists_inlineMembers {members : List (String × Json)}
    (h : ∀ c ∈ inside members, ∃ j, inline follow c = .ok j) :
    ∃ members', inlineMembers follow members = .ok members' :=
  Result.exists_ok_of_failsOnly
    (failsOnly_inlineMembers fun c hc => Result.failsOnly_of_exists (h c hc))

end

namespace Set

variable {set : Set} {E : SchemaError → Prop}

theorem failsOnly_bundleBelow : ∀ (room : Nat) (entered : List Key) {s : Source} {v : Json},
    (∀ s' v', Walks set s v s' v' → ∀ r, reference? v' = some r →
      Result.FailsOnly E (set.resolve r s')) →
    Result.FailsOnly E (set.bundleBelow room entered s v) := by
  intro room
  induction room using Nat.strongRecOn with
  | _ room ih =>
      intro entered s v h
      rw [bundleBelow_eq_inline]
      refine failsOnly_inline fun w hw r hr => ?_
      have hwalk : Walks set s v s w := walks_of_mem_schemasIn hw
      refine (h s w hwalk r hr).bind fun t ht => ?_
      split
      · exact Result.failsOnly_pure _
      · cases room with
        | zero => exact Result.failsOnly_pure _
        | succ room =>
            exact ih room (Nat.lt_succ_self room) _ fun s' v' hwalk' =>
              h s' v' ((hwalk.target hr ht).trans hwalk')

/-- **Bundling fails only as following the references does that one comes to.** -/
theorem failsOnly_bundleSchema {s : Source} {v : Json}
    (h : ∀ s' v', Walks set s v s' v' → ∀ r, reference? v' = some r →
      Result.FailsOnly E (set.resolve r s')) : Result.FailsOnly E (set.bundleSchema s v) :=
  failsOnly_bundleBelow bundleDepth [] h

/-- **A schema whose references can all be followed can be bundled.** -/
theorem exists_bundleSchema {s : Source} {v : Json} (h : set.Followable s v) :
    ∃ j, set.bundleSchema s v = .ok j :=
  Result.exists_ok_of_failsOnly (failsOnly_bundleSchema fun s' v' hwalk r hr =>
    Result.failsOnly_of_exists (h s' v' hwalk r hr))

end Set

/-! ## §3  What stands alone -/

def StandsAlone (v : Json) : Prop := ∀ w ∈ schemasIn v, reference? w = none

theorem StandsAlone.held {v c : Json} (h : StandsAlone v) (hc : c ∈ held v) : StandsAlone c :=
  fun w hw => h w (mem_schemasIn_of_held hc hw)

namespace Set

variable {set : Set}

theorem StandsAlone.walk {s s' : Source} {v v' : Json} (h : StandsAlone v)
    (hwalk : Walks set s v s' v') : StandsAlone v' := by
  induction hwalk with
  | here => exact h
  | held _ hc ih => exact fun w hw => ih w (mem_schemasIn_of_held hc hw)
  | target _ hr _ ih =>
      rw [ih _ (mem_schemasIn_self _)] at hr
      cases hr

theorem followable_of_standsAlone {s : Source} {v : Json} (h : StandsAlone v) :
    set.Followable s v := by
  intro s' v' hwalk r hr
  rw [StandsAlone.walk h hwalk v' (mem_schemasIn_self v')] at hr
  cases hr

/-- Where one ends if references are followed as long as there are any. -/
inductive EndsAt (set : Set) : Source → Json → Json → Prop where
  | here {s : Source} {v : Json} (h : reference? v = none) : EndsAt set s v v
  | next {s : Source} {v w : Json} {r : String} {t : Target} (hr : reference? v = some r)
      (ht : set.resolve r s = .ok t) (h : EndsAt set t.source t.schema w) : EndsAt set s v w

theorem EndsAt.walks {s : Source} {v w : Json} (h : set.EndsAt s v w) :
    ∃ s', Walks set s v s' w := by
  induction h with
  | here => exact ⟨_, .here⟩
  | next hr ht _ ih =>
      obtain ⟨s', hwalk⟩ := ih
      exact ⟨s', (Walks.target .here hr ht).trans hwalk⟩

/-- Whether a list that items turn out to be holds no references, wherever one comes to from a
schema. -/
def ItemsStandAlone (set : Set) (s₀ : Source) (v₀ : Json) : Prop :=
  ∀ s v, Walks set s₀ v₀ s v → ∀ items, ("items", items) ∈ v.members → items.asArray? = none →
    ∀ entries, EndsAt set s items (.array entries) → ∀ c ∈ entries, StandsAlone c

theorem ItemsStandAlone.walk {s s' : Source} {v v' : Json} (h : set.ItemsStandAlone s v)
    (hwalk : Walks set s v s' v') : set.ItemsStandAlone s' v' :=
  fun s'' v'' h' => h s'' v'' (hwalk.trans h')

theorem mem_held_items {v items : Json} (hm : ("items", items) ∈ v.members)
    (h : items.asArray? = none) : items ∈ held v := by
  refine mem_held hm ?_
  unfold heldUnder
  rw [show holds "items" = .either by decide]
  cases items with
  | array xs => cases h
  | _ => exact List.mem_cons_self

theorem itemsStandAlone_of_standsAlone {s : Source} {v : Json} (h : StandsAlone v) :
    set.ItemsStandAlone s v := by
  intro s' v' hwalk items hm hsingle entries hends
  have hnone : reference? items = none := StandsAlone.walk h hwalk items
    (mem_schemasIn_of_held (mem_held_items hm hsingle) (mem_schemasIn_self items))
  cases hends with
  | here => cases hsingle
  | next hr =>
      rw [hnone] at hr
      cases hr

/-- **What bundling makes of a schema stands alone**, if no reference turns items into a list that
holds references. -/
theorem standsAlone_bundleSchema {s : Source} {v j : Json} (h : set.ItemsStandAlone s v)
    (hbundle : set.bundleSchema s v = .ok j) : StandsAlone j := by
  have hdata : ∀ {v : Json}, v.isObject = false → schemasIn v = [v] ∧ reference? v = none := by
    intro v hv
    cases v with
    | object members => cases hv
    | _ => exact ⟨by simp [schemasIn, positions], rfl⟩
  have hbundles : set.Bundles set.ItemsStandAlone fun s v j =>
      StandsAlone j ∧ ∀ entries, j = .array entries → EndsAt set s v j := {
    cut := fun _ _ _ _ _ => by
      refine ⟨fun w hw => ?_, nofun⟩
      rcases mem_schemasIn_iff.mp hw with rfl | ⟨c, hc, -⟩
      · rfl
      · cases hc
    data := fun s v _ hv => by
      obtain ⟨hself, hnone⟩ := hdata hv
      refine ⟨fun w hw => ?_, fun _ _ => .here hnone⟩
      rw [hself] at hw
      exact List.mem_singleton.mp hw ▸ hnone
    reference := fun s v r t hitems hr ht => ⟨hitems.walk (.target .here hr ht), fun j hj =>
      ⟨hj.1, fun entries hlist => .next hr ht (hj.2 entries hlist)⟩⟩
    object := fun s members members' hitems hnone hinlines => by
      refine ⟨fun w hw => ?_, nofun⟩
      rcases mem_schemasIn_iff.mp hw with rfl | ⟨c', hc', hw⟩
      · exact hinlines.reference?.trans hnone
      · obtain ⟨m', hm', hc'⟩ := List.mem_flatMap.mp hc'
        obtain ⟨⟨key, v⟩, hm, hkey, hvalue⟩ := exists_of_forall₂ hinlines hm'
        have hm : (key, v) ∈ (Json.object members).members := List.mem_of_mem_filter hm
        rw [hkey] at hc'
        rcases held_of_inlines hvalue hc' with ⟨c, hc, hT⟩ | ⟨rfl, hsingle, entries, hT, hentry⟩
        · have hc : c ∈ held (.object members) := mem_held hm (heldUnder_of_mem_insideKeyword hc)
          exact (hT (hitems.walk (.held .here hc))).1 w hw
        · -- the items have turned out to be a list
          have hheld : v ∈ held (.object members) := mem_held_items hm hsingle
          have hends := (hT (hitems.walk (.held .here hheld))).2 entries rfl
          exact hitems s _ .here v hm hsingle entries hends c' hentry w hw }
  exact (hbundles.bundleBelow bundleDepth [] h hbundle).1

end Set

/-! ## §4  Inlining by other references -/

section

variable {follow follow' : String → Except SchemaError Json}

theorem inlineNamed_congr : ∀ {entries : List (String × Json)},
    (∀ e ∈ entries, inline follow e.2 = inline follow' e.2) →
      inlineNamed follow entries = inlineNamed follow' entries
  | [], _ => by rw [inlineNamed, inlineNamed]
  | (name, value) :: rest, h => by
      have hrest : inlineNamed follow rest = inlineNamed follow' rest :=
        inlineNamed_congr fun e he => h e (List.mem_cons_of_mem _ he)
      rw [inlineNamed, inlineNamed, h _ List.mem_cons_self, hrest]

theorem inlineList_congr : ∀ {items : List Json},
    (∀ c ∈ items, inline follow c = inline follow' c) →
      inlineList follow items = inlineList follow' items
  | [], _ => by rw [inlineList, inlineList]
  | value :: rest, h => by
      have hrest : inlineList follow rest = inlineList follow' rest :=
        inlineList_congr fun c hc => h c (List.mem_cons_of_mem _ hc)
      rw [inlineList, inlineList, h _ List.mem_cons_self, hrest]

theorem inlineValue_congr {key : String} {value : Json}
    (h : ∀ c ∈ insideKeyword key value, inline follow c = inline follow' c) :
    inlineValue follow key value = inlineValue follow' key value := by
  unfold insideKeyword at h
  unfold inlineValue
  cases hkey : inlining key with
  | drop => rfl
  | keep => rfl
  | schema =>
      simp only [hkey] at h
      exact h value List.mem_cons_self
  | named =>
      cases value with
      | object entries =>
          simp only [hkey] at h
          have hentries : inlineNamed follow entries = inlineNamed follow' entries :=
            inlineNamed_congr fun e he => h e.2 (List.mem_map_of_mem he)
          simp only [hentries]
      | _ => rfl
  | list =>
      cases value with
      | array items =>
          simp only [hkey] at h
          simp only [inlineList_congr h]
      | _ => rfl
  | either =>
      cases value with
      | array items =>
          simp only [hkey] at h
          simp only [inlineList_congr h]
      | _ =>
          simp only [hkey] at h
          exact h _ List.mem_cons_self

theorem inlineMembers_congr : ∀ {members : List (String × Json)},
    (∀ c ∈ inside members, inline follow c = inline follow' c) →
      inlineMembers follow members = inlineMembers follow' members
  | [], _ => by rw [inlineMembers, inlineMembers]
  | (key, value) :: rest, h => by
      have hvalue : inlineValue follow key value = inlineValue follow' key value :=
        inlineValue_congr fun c hc => h c (List.mem_append_left _ hc)
      have hrest : inlineMembers follow rest = inlineMembers follow' rest :=
        inlineMembers_congr fun c hc => h c (List.mem_append_right _ hc)
      rw [inlineMembers_cons, inlineMembers_cons, hvalue, hrest]

theorem inline_congr {v : Json} (h : ∀ w ∈ schemasIn v, ∀ r, reference? w = some r →
    follow r = follow' r) : inline follow v = inline follow' v := by
  -- what is held inside is no constructor argument, so the induction is on the size
  induction hsize : sizeOf v using Nat.strongRecOn generalizing v with
  | _ n ih =>
      subst hsize
      cases v with
      | object members =>
          rw [inline, inline]
          cases hr : reference? (.object members) with
          | some r => exact h _ (mem_schemasIn_self _) r hr
          | none =>
              have hmembers : inlineMembers follow members = inlineMembers follow' members := by
                refine inlineMembers_congr fun c hc => ?_
                have hheld := held_of_mem_inside hc
                refine ih (sizeOf c) (sizeOf_lt_of_held hheld) (fun w hw => ?_) rfl
                exact h w (mem_schemasIn_of_held hheld hw)
              simp only [hmembers]
      | _ => rfl

end

namespace Set

/-! ## §5  Bundling under two schema sets -/

/-- Whether every reference that one comes to from a schema means the same under another set. -/
def MeansTheSame (set set' : Set) (s : Source) (v : Json) : Prop :=
  ∀ s' v', Walks set s v s' v' → ∀ r, reference? v' = some r →
    set'.resolve r s' = set.resolve r s'

theorem MeansTheSame.walk {set set' : Set} {s s' : Source} {v v' : Json}
    (h : MeansTheSame set set' s v) (hwalk : Walks set s v s' v') : MeansTheSame set set' s' v' :=
  fun s'' v'' h' => h s'' v'' (hwalk.trans h')

/-- Where there is nothing to follow, nothing can mean something else. -/
theorem meansTheSame_of_standsAlone {set set' : Set} {s : Source} {v : Json}
    (h : StandsAlone v) : MeansTheSame set set' s v := by
  intro s' v' hwalk r hr
  rw [StandsAlone.walk h hwalk v' (mem_schemasIn_self v')] at hr
  cases hr

theorem bundleBelow_congr {set set' : Set} : ∀ (room : Nat) (entered : List Key) {s : Source}
    {v : Json}, MeansTheSame set set' s v →
      set'.bundleBelow room entered s v = set.bundleBelow room entered s v := by
  -- the room is what bounds the recursion through references
  intro room
  induction room using Nat.strongRecOn with
  | _ room ih =>
      intro entered s v h
      rw [bundleBelow_eq_inline, bundleBelow_eq_inline]
      refine inline_congr fun w hw r hr => ?_
      have hwalk : Walks set s v s w := walks_of_mem_schemasIn hw
      unfold replacement
      rw [h s w hwalk r hr]
      cases ht : set.resolve r s with
      | error fault => rfl
      | ok t =>
          have htarget : MeansTheSame set set' t.source t.schema := h.walk (hwalk.target hr ht)
          cases room with
          | zero => rfl
          | succ room =>
              have hbelow : set'.bundleBelow room (t.key :: entered) t.source t.schema =
                  set.bundleBelow room (t.key :: entered) t.source t.schema :=
                ih room (Nat.lt_succ_self room) (t.key :: entered) htarget
              change (if t.key ∈ entered then pure permissive else
                set'.bundleBelow room (t.key :: entered) t.source t.schema) = _
              rw [hbelow]
              rfl

/-- **Bundling makes the same of a document** if every reference that one comes to means the
same. -/
theorem bundle_congr {set set' : Set} {base : Source} (h : MeansTheSame set set' base base.root) :
    set'.bundle base = set.bundle base :=
  bundleBelow_congr bundleDepth [] h

end Set

end ReplySchema.Schema

import Mathlib.Logic.Relation
import ReplySchema.Proofs.Serializer.Closed
import ReplySchema.Proofs.Serializer.Direct
import ReplySchema.Proofs.Serializer.MemberList

/-! # The parts of an object schema

A schema takes in the parts that its `allOf` lists.  Parts list parts of their own, and these
come in one layer after the other: of the parts in a layer the first that has an `allOf` hands
on what it lists, and what the others list is left behind (`TakesIn`).  So all that stands within
a schema counts for it if nowhere in it two parts have an `allOf` (`counts_of_within`).

All of this is said of the schemas as they stand in their documents.  Bundling makes outlines of
them that lie in layers in the same way (`Renders`, `lays_of_renders`), as long as it follows
every reference to a part (`Whole`).
-/

set_option autoImplicit false

namespace ReplySchema.Serializer

open Schema (Key Source Target reference?)

/-! ## §1  Parts where they stand -/

/-- A schema and the document in which it stands. -/
structure Standing where
  source : Source
  schema : Json

namespace Standing

/-- Where one ends if references are followed as long as there are any. -/
inductive Ends (set : Schema.Set) : Standing → Standing → Prop where
  | here {p : Standing} (hr : reference? p.schema = none) : Ends set p p
  | next {p q : Standing} {r : String} {t : Target} (hr : reference? p.schema = some r)
      (ht : set.resolve r p.source = .ok t) (h : Ends set ⟨t.source, t.schema⟩ q) : Ends set p q

def Lists (p : Standing) : Prop := Table.contains "allOf" p.schema.members = true

section
variable (set : Schema.Set)

/-- Whether a schema lists another among its parts, references followed. -/
def HasPart (p q : Standing) : Prop :=
  ∃ part ∈ Sketch.partsOf p.schema.members, Ends set ⟨p.source, part⟩ q

/-- Whether a schema stands within another: it is the same, or one of its parts, at any depth. -/
abbrev Within (p q : Standing) : Prop := Relation.ReflTransGen (HasPart set) p q

/-- Whether a schema is the first of a list that has an `allOf`. -/
inductive FirstListing (s : Source) : List Json → Standing → Prop where
  | here {part : Json} {rest : List Json} {q : Standing} (hq : Ends set ⟨s, part⟩ q)
      (h : q.Lists) : FirstListing s (part :: rest) q
  | behind {part : Json} {rest : List Json} {q : Standing}
      (hfree : ∀ q', Ends set ⟨s, part⟩ q' → ¬ q'.Lists) (h : FirstListing s rest q) :
      FirstListing s (part :: rest) q

/-- Whether a schema is the part of another that hands on what it lists. -/
def HandsOn (p q : Standing) : Prop :=
  FirstListing set p.source (Sketch.partsOf p.schema.members) q

/-- Whether a schema takes in another: its own parts, and what the first part that has an `allOf`
takes in. -/
inductive TakesIn : Standing → Standing → Prop where
  | part {p q : Standing} (h : HasPart set p q) : TakesIn p q
  | handedOn {p p' q : Standing} (hp : HandsOn set p p') (h : TakesIn p' q) : TakesIn p q

/-- Whether a schema counts for another: it is the same, or it is taken in. -/
def Counts (p q : Standing) : Prop := q = p ∨ TakesIn set p q

end

variable {set : Schema.Set} {p q q' : Standing}

theorem Ends.unique (h : Ends set p q) (h' : Ends set p q') : q = q' := by
  induction h with
  | here hr =>
      cases h' with
      | here => rfl
      | next hr' =>
          rw [hr] at hr'
          cases hr'
  | next hr ht _ ih =>
      cases h' with
      | here hr' =>
          rw [hr] at hr'
          cases hr'
      | next hr' ht' hends =>
          rw [hr] at hr'
          cases hr'
          rw [ht] at ht'
          cases ht'
          exact ih hends

theorem HasPart.lists (h : HasPart set p q) : p.Lists := by
  obtain ⟨part, hpart, -⟩ := h
  unfold Sketch.partsOf at hpart
  cases hfind : Table.find? "allOf" p.schema.members with
  | some value => exact Table.contains_of_find?_some hfind
  | none => simp [hfind] at hpart

theorem FirstListing.hasPart {s : Source} {parts : List Json} (h : FirstListing set s parts q) :
    q.Lists ∧ ∃ part ∈ parts, Ends set ⟨s, part⟩ q := by
  induction h with
  | here hq h => exact ⟨h, _, List.mem_cons_self, hq⟩
  | behind _ _ ih =>
      obtain ⟨hlists, part, hpart, hends⟩ := ih
      exact ⟨hlists, part, List.mem_cons_of_mem _ hpart, hends⟩

theorem exists_firstListing {s : Source} : ∀ {parts : List Json} {part : Json}, part ∈ parts →
    Ends set ⟨s, part⟩ q → q.Lists → ∃ q', FirstListing set s parts q'
  | first :: rest, part, hpart, hends, hlists => by
      by_cases hfirst : ∃ q', Ends set ⟨s, first⟩ q' ∧ q'.Lists
      · obtain ⟨q', hq', h⟩ := hfirst
        exact ⟨q', .here hq' h⟩
      · rcases List.mem_cons.mp hpart with rfl | hpart
        · exact absurd ⟨q, hends, hlists⟩ hfirst
        · obtain ⟨q', h⟩ := exists_firstListing hpart hends hlists
          exact ⟨q', .behind (fun q' hq' hl => hfirst ⟨q', hq', hl⟩) h⟩

theorem TakesIn.within (h : TakesIn set p q) : Within set p q := by
  induction h with
  | part h => exact .single h
  | handedOn hp _ ih => exact .head hp.hasPart.2 ih

/-- What counts for a schema stands within it. -/
theorem Counts.within (h : Counts set p q) : Within set p q := by
  rcases h with rfl | h
  · exact .refl
  · exact h.within

theorem takesIn_of_handsOn {p' : Standing} (h : Relation.ReflTransGen (HandsOn set) p p')
    (hpart : HasPart set p' q) : TakesIn set p q := by
  induction h using Relation.ReflTransGen.head_induction_on with
  | refl => exact .part hpart
  | head hp _ ih => exact .handedOn hp ih

/-- Whether no two parts of a schema have an `allOf`, and so on in all that stands within it. -/
def ListsOnce (set : Schema.Set) (p : Standing) : Prop :=
  ∀ p', Within set p p' → ∀ q q', HasPart set p' q → HasPart set p' q' → q.Lists → q'.Lists →
    q = q'

theorem listsOnce_of_not_lists (h : ¬ p.Lists) : ListsOnce set p := by
  intro p' hp'
  rcases Relation.ReflTransGen.cases_head hp' with rfl | ⟨q, hq, -⟩
  · exact fun q _ hq => absurd hq.lists h
  · exact absurd hq.lists h

theorem listsOnce_of_parts
    (hone : ∀ q q', HasPart set p q → HasPart set p q' → q.Lists → q'.Lists → q = q')
    (hparts : ∀ q, HasPart set p q → ListsOnce set q) : ListsOnce set p := by
  intro p' hp'
  rcases Relation.ReflTransGen.cases_head hp' with rfl | ⟨q, hq, hrest⟩
  · exact hone
  · exact hparts q hq p' hrest

/-- **All that stands within a schema counts for it**, if nowhere in it two parts have an
`allOf`. -/
theorem counts_of_within (hone : ListsOnce set p) (h : Within set p q) : Counts set p q := by
  -- what lists anything is handed on from part to part
  have hchain : ∀ {p'}, Within set p p' → p'.Lists → Relation.ReflTransGen (HandsOn set) p p' := by
    intro p' hp'
    induction hp' with
    | refl => exact fun _ => .refl
    | @tail m p' hm hpart ih =>
        intro hlists
        obtain ⟨part, hmem, hends⟩ := hpart
        obtain ⟨first, hfirst⟩ := exists_firstListing hmem hends hlists
        obtain ⟨hfirstLists, hfirstPart⟩ := hfirst.hasPart
        have heq := hone m hm first p' hfirstPart ⟨part, hmem, hends⟩ hfirstLists hlists
        exact .tail (ih (HasPart.lists ⟨part, hmem, hends⟩)) (heq ▸ hfirst)
  rcases Relation.ReflTransGen.cases_tail h with heq | ⟨m, hm, hpart⟩
  · exact Or.inl heq
  · exact Or.inr (takesIn_of_handsOn (hchain hm hpart.lists) hpart)

end Standing

/-! ## §2  Object schemas -/

/-- Whether a schema is one of objects: it names no other type, its keywords have values of the
right form, and nothing comes before its members. -/
structure IsObjectSchema (schema : Json) : Prop where
  object : schema.isObject = true
  type : ∀ v, schema.get? "type" = some v → v = .string "object" ∨ v = .array [.string "object"]
  properties : ∀ v, schema.get? "properties" = some v → v.isObject = true
  required : ∀ v, schema.get? "required" = some v → v.asArray?.isSome = true
  allOf : ∀ v, schema.get? "allOf" = some v → v.asArray?.isSome = true
  free : ∀ keyword ∈ ["const", "anyOf", "oneOf"], schema.get? keyword = none

/-- Whether a schema and its parts, at any depth, are schemas of objects, and bundling follows all
references to them: none leads to a target that is being followed already, and there is room. -/
inductive Whole (set : Schema.Set) : List Key → Standing → Prop where
  | reference {entered : List Key} {p : Standing} {r : String} {t : Target}
      (hr : reference? p.schema = some r) (ht : set.resolve r p.source = .ok t)
      (hnew : t.key ∉ entered) (hroom : entered.length < Schema.Set.bundleDepth)
      (h : Whole set (t.key :: entered) ⟨t.source, t.schema⟩) : Whole set entered p
  | object {entered : List Key} {p : Standing} (hr : reference? p.schema = none)
      (hobject : IsObjectSchema p.schema)
      (hparts : ∀ part ∈ Sketch.partsOf p.schema.members, Whole set entered ⟨p.source, part⟩) :
      Whole set entered p

namespace Outline

/-- Whether an outline is one of objects. -/
structure IsObject (o : Outline) : Prop where
  const : o.const = .absent
  anyOf : o.anyOf = .absent
  oneOf : o.oneOf = .absent
  type : o.type = .absent ∨ o.type = .given (.one "object") ∨
    o.type = .given (.several ["object"])
  properties : o.properties ≠ .unusable
  required : o.required ≠ .unusable

/-- Whether an outline is one of objects and has the declared and the required names of a schema, and
its `nullable`. -/
structure Says (o : Outline) (schema : Json) : Prop where
  object : o.IsObject
  declared : o.declared.map (·.name) = declaredNames schema
  required : o.requiredNames = Direct.required schema
  nullable : o.nullable = .given () → schema.get? "nullable" = some (.bool true)

theorem trueAt_eq_some {v : Json} : trueAt v = some () ↔ v = .bool true := by
  unfold trueAt
  split <;> simp_all

theorem facetAt_ne_unusable {α : Type} {read : Json → Option α} {keyword : String}
    {members : List (String × Json)}
    (h : ∀ v, Table.find? keyword members = some v → (read v).isSome = true) :
    facetAt read keyword members ≠ .unusable := by
  unfold facetAt
  cases hfind : Table.find? keyword members with
  | none => simp
  | some v =>
      obtain ⟨a, ha⟩ := Option.isSome_iff_exists.mp (h v hfind)
      simp [ha, Facet.ofOption]

theorem says_ofSchema {sketch : Json → Sketch} {members : List (String × Json)}
    (h : IsObjectSchema (.object members)) : (ofSchema sketch members).Says (.object members) := by
  refine ⟨⟨?_, ?_, ?_, ?_, ?_, ?_⟩, ?_, ?_, fun hgiven => ?_⟩
  · exact facetAt_eq_absent (h.free "const" (by decide))
  · exact facetAt_eq_absent (h.free "anyOf" (by decide))
  · exact facetAt_eq_absent (h.free "oneOf" (by decide))
  · cases hfind : Table.find? "type" members with
    | none => exact Or.inl (facetAt_eq_absent hfind)
    | some v =>
        rcases h.type v hfind with rfl | rfl
        · exact Or.inr (Or.inl (facetAt_eq_given.mpr ⟨_, hfind, rfl⟩))
        · exact Or.inr (Or.inr (facetAt_eq_given.mpr ⟨_, hfind, rfl⟩))
  · refine facetAt_ne_unusable fun v hfind => ?_
    cases v with
    | object entries => rfl
    | _ => cases h.properties _ hfind
  · exact facetAt_ne_unusable h.required
  · have hnames : declaredNames (.object members) =
      Table.keys ((Table.find? "properties" members).getD .null).members := rfl
    rw [hnames]
    unfold declared
    dsimp only [ofSchema]
    unfold facetAt
    cases hfind : Table.find? "properties" members with
    | none => rfl
    | some v =>
        cases v with
        | object entries => simp [propertiesAt, Json.asObject?, Facet.ofOption, Facet.value?,
            Table.keys, Json.members, Function.comp_def]
        | _ => cases h.properties _ hfind
  · have hrequired : Direct.required (.object members) =
      (((Table.find? "required" members).bind Json.asArray?).getD []).filterMap
        Json.asString? := rfl
    rw [hrequired]
    unfold requiredNames
    dsimp only [ofSchema]
    unfold facetAt
    cases hfind : Table.find? "required" members with
    | none => rfl
    | some v =>
        cases v with
        | array items => rfl
        | _ => cases h.required _ hfind
  · obtain ⟨v, hfind, htrue⟩ := facetAt_eq_given.mp hgiven
    rw [trueAt_eq_some] at htrue
    exact htrue ▸ hfind

end Outline

/-! ## §3  What bundling makes of them -/

section

variable {T : Json → Json → Prop} {members members' : List (String × Json)}

theorem get?_of_inlines (hinlines : Schema.InlinesMembers T members members') {keyword : String}
    (hkeyword : Schema.inlining keyword = .keep) :
    (Json.object members').get? keyword = (Json.object members).get? keyword :=
  hinlines.find?_keep hkeyword

theorem IsObjectSchema.of_inlines (h : IsObjectSchema (.object members))
    (hinlines : Schema.InlinesMembers T members members') : IsObjectSchema (.object members') := by
  refine ⟨rfl, ?_, fun v hv => ?_, ?_, fun v hv => ?_, fun keyword hkeyword => ?_⟩
  · rw [get?_of_inlines hinlines (by decide)]
    exact h.type
  · rcases hinlines.find? "properties" (by decide) with ⟨-, hnone⟩ | ⟨w, w', hw, hw', hform⟩
    · exact absurd (hnone.symm.trans hv) nofun
    · cases hw'.symm.trans hv
      have hobject := h.properties w hw
      unfold Schema.Inlines at hform
      rw [show Schema.inlining "properties" = .named by decide] at hform
      cases w with
      | object entries =>
          obtain ⟨entries', rfl, -⟩ := hform
          rfl
      | _ => cases hobject
  · rw [get?_of_inlines hinlines (by decide)]
    exact h.required
  · rcases hinlines.find? "allOf" (by decide) with ⟨-, hnone⟩ | ⟨w, w', hw, hw', hform⟩
    · exact absurd (hnone.symm.trans hv) nofun
    · cases hw'.symm.trans hv
      have hlist := h.allOf w hw
      unfold Schema.Inlines at hform
      rw [show Schema.inlining "allOf" = .list by decide] at hform
      cases w with
      | array items =>
          obtain ⟨items', rfl, -⟩ := hform
          rfl
      | _ => cases hlist
  · have hdrop : Schema.inlining keyword ≠ .drop := by
      simp only [List.mem_cons, List.not_mem_nil, or_false] at hkeyword
      rcases hkeyword with rfl | rfl | rfl <;> decide
    rcases hinlines.find? keyword hdrop with ⟨-, hnone⟩ | ⟨w, w', hw, -, -⟩
    · exact hnone
    · exact absurd ((h.free keyword hkeyword).symm.trans hw) nofun

/-- What says what a bundled schema says, says what the schema says before it is bundled. -/
theorem Outline.Says.of_inlines {o : Outline} (h : o.Says (.object members'))
    (hinlines : Schema.InlinesMembers T members members') : o.Says (.object members) := by
  refine ⟨h.object, h.declared.trans (declaredNames_of_inlinesMembers hinlines),
    h.required.trans ?_, fun hgiven => ?_⟩
  · unfold Direct.required
    rw [get?_of_inlines hinlines (by decide)]
  · rw [← get?_of_inlines hinlines (by decide)]
    exact h.nullable hgiven

end

open Standing

mutual
/-- Whether an outline is that of a schema at the end of references, and the parts that are to be
laid over it are those of the parts of the schema, if they could be had. -/
def Layered.Renders (set : Schema.Set) : Layered → Standing → Prop
  | .plain o, p => ∃ q, Ends set p q ∧ ¬ q.Lists ∧ o.Says q.schema
  | .failed o _, p => ∃ q, Ends set p q ∧ q.Lists ∧ o.Says q.schema
  | .composed o ls, p => ∃ q, Ends set p q ∧ q.Lists ∧ o.Says q.schema ∧
      RendersList set ls q.source (Sketch.partsOf q.schema.members)
  | _, _ => False

def Layered.RendersList (set : Schema.Set) : List Layered → Source → List Json → Prop
  | [], _, parts => parts = []
  | l :: ls, s, parts => ∃ part rest, parts = part :: rest ∧ Renders set l ⟨s, part⟩ ∧
      RendersList set ls s rest
end

section

variable {set : Schema.Set} {p : Standing}

theorem Layered.Renders.own {l : Layered} (h : l.Renders set p) :
    ∃ q, Ends set p q ∧ l.own.Says q.schema := by
  cases l with
  | plain o =>
      obtain ⟨q, hq, -, hsaid⟩ := h
      exact ⟨q, hq, hsaid⟩
  | blocked o => exact h.elim
  | failed o e =>
      obtain ⟨q, hq, -, hsaid⟩ := h
      exact ⟨q, hq, hsaid⟩
  | composed o ls =>
      obtain ⟨q, hq, -, hsaid, -⟩ := h
      exact ⟨q, hq, hsaid⟩

theorem Layered.Renders.of_target {r : String} {t : Target} (hr : reference? p.schema = some r)
    (ht : set.resolve r p.source = .ok t) {l : Layered}
    (h : l.Renders set ⟨t.source, t.schema⟩) : l.Renders set p := by
  cases l with
  | blocked o => exact h.elim
  | _ =>
      obtain ⟨q, hq, hrest⟩ := h
      exact ⟨q, .next hr ht hq, hrest⟩

theorem rendersList_layeredList {ready : Sketch.Ready} {s : Source} : ∀ {parts : List Json},
    (∀ part ∈ parts, ∃ l, Sketch.layered? ready part = some l ∧ l.Renders set ⟨s, part⟩) →
    Layered.RendersList set (Sketch.layeredList ready parts) s parts
  | [], _ => by
      rw [Sketch.layeredList]
      exact rfl
  | part :: rest, h => by
      obtain ⟨l, hl, hrenders⟩ := h part List.mem_cons_self
      rw [Sketch.layeredList, hl]
      exact ⟨_, _, rfl, hrenders, rendersList_layeredList fun c hc => h c (List.mem_cons_of_mem _ hc)⟩

theorem IsObjectSchema.withParts {members : List (String × Json)}
    (h : IsObjectSchema (.object members)) (ready : Sketch.Ready) (o : Outline) :
    (Table.contains "allOf" members = false ∧ Sketch.withParts ready o members = .plain o) ∨
      Table.contains "allOf" members = true ∧ Sketch.withParts ready o members =
        match ready with
        | none => .composed o (Sketch.layeredList none (Sketch.partsOf members))
        | some make =>
            match make (Sketch.partsOf members) with
            | .ok ls => .composed o ls
            | .error e => .failed o e := by
  rw [Sketch.withParts_eq]
  unfold Table.contains Sketch.partsOf
  cases hfind : Table.find? "allOf" members with
  | none => exact Or.inl ⟨rfl, rfl⟩
  | some value =>
      cases value with
      | array parts =>
          right
          cases ready <;> exact ⟨rfl, rfl⟩
      | _ => cases h.allOf _ hfind

theorem IsObjectSchema.renders {s : Source} {members : List (String × Json)}
    (h : IsObjectSchema (.object members)) (hr : reference? (.object members) = none)
    (hnodup : (Table.keys members).Nodup) {ready : Sketch.Ready}
    (hnone : ready = none → Layered.RendersList set
      (Sketch.layeredList ready (Sketch.partsOf members)) s (Sketch.partsOf members))
    (hmade : ∀ make, ready = some make → ∀ ls, make (Sketch.partsOf members) = .ok ls →
      Layered.RendersList set ls s (Sketch.partsOf members)) :
    (Sketch.withParts ready (.ofMembers (Sketch.inners ready members)) members).Renders set
      ⟨s, .object members⟩ := by
  rw [Outline.ofMembers_inners ready hnodup]
  have hsaid : (Outline.ofSchema (Sketch.sketch ready) members).Says (.object members) :=
    Outline.says_ofSchema h
  rcases h.withParts ready (.ofSchema (Sketch.sketch ready) members) with ⟨hlists, heq⟩ | ⟨hlists, heq⟩
  · rw [heq]
    exact ⟨_, .here hr, fun h => Bool.false_ne_true (hlists.symm.trans h), hsaid⟩
  · rw [heq]
    cases ready with
    | none => exact ⟨_, .here hr, hlists, hsaid, hnone rfl⟩
    | some make =>
        dsimp only
        cases hmake : make (Sketch.partsOf members) with
        | ok ls => exact ⟨_, .here hr, hlists, hsaid, hmade make rfl ls hmake⟩
        | error e => exact ⟨_, .here hr, hlists, hsaid⟩

/-- Whether a schema and its parts, at any depth, are schemas of objects, and none is a reference. -/
inductive IsObjectTree : Json → Prop where
  | intro {members : List (String × Json)} (hr : reference? (.object members) = none)
      (hobject : IsObjectSchema (.object members))
      (hparts : ∀ part ∈ Sketch.partsOf members, IsObjectTree part) :
      IsObjectTree (.object members)

/-- There is no reference that bundling would have to follow. -/
theorem IsObjectTree.whole {v : Json} (h : IsObjectTree v) (s : Source) : Whole set [] ⟨s, v⟩ := by
  induction h with
  | intro hr hobject _ ih => exact .object hr hobject ih

theorem IsObjectTree.exists_renders {s : Source} {ready : Sketch.Ready}
    (hmade : ∀ make, ready = some make → ∀ parts,
      (∀ part ∈ parts, IsObjectTree part ∧ part.IsSound) → ∀ ls, make parts = .ok ls →
      Layered.RendersList set ls s parts) {v : Json} (h : IsObjectTree v) :
    v.IsSound → ∃ l, Sketch.layered? ready v = some l ∧ l.Renders set ⟨s, v⟩ := by
  induction h with
  | @intro members hr hobject hparts ih =>
      intro hsound
      have hpart : ∀ part ∈ Sketch.partsOf members, part.IsSound :=
        fun part hpart => Sketch.every_of_mem_partsOf hsound hpart
      exact ⟨_, by rw [Sketch.layered?], hobject.renders hr hsound.nodup
        (fun _ => rendersList_layeredList fun part hmem => ih part hmem (hpart part hmem))
        fun make hmake => hmade make hmake _ fun part hmem => ⟨hparts part hmem, hpart part hmem⟩⟩

/-- Whether one schema can stand for another: outlines that render the one render the other. -/
def StandsFor (set : Schema.Set) (v : Json) (p : Standing) : Prop :=
  ∀ (s : Source) (l : Layered), l.Renders set ⟨s, v⟩ → l.Renders set p

theorem rendersList_of_standsFor {s s' : Source} {parts parts' : List Json}
    (h : List.Forall₂ (fun part j => StandsFor set j ⟨s, part⟩) parts parts') :
    ∀ {ls : List Layered}, Layered.RendersList set ls s' parts' →
      Layered.RendersList set ls s parts := by
  induction h with
  | nil =>
      intro ls hls
      cases ls with
      | nil => exact rfl
      | cons l ls =>
          obtain ⟨part, rest, hnil, -⟩ := hls
          cases hnil
  | @cons part j parts parts' hpart _ ih =>
      intro ls hls
      cases ls with
      | nil => cases hls
      | cons l ls =>
          obtain ⟨j', rest, heq, hl, hls⟩ := hls
          cases heq
          exact ⟨part, parts, rfl, hpart s' l hl, ih hls⟩

/-- A schema that is put together again stands for what it was, if its parts do. -/
theorem standsFor_of_inlines {s : Source} {T : Json → Json → Prop}
    {members members' : List (String × Json)} (hinlines : Schema.InlinesMembers T members members')
    (hr : reference? (.object members) = none)
    (hparts : List.Forall₂ (fun part j => StandsFor set j ⟨s, part⟩) (Sketch.partsOf members)
      (Sketch.partsOf members')) : StandsFor set (.object members') ⟨s, .object members⟩ := by
  have hr' : reference? (.object members') = none := hinlines.reference?.trans hr
  have hlists : Table.contains "allOf" members' = Table.contains "allOf" members :=
    (Sketch.forall₂_partsOf hinlines).1
  intro s' l h
  cases l with
  | plain o =>
      obtain ⟨q, hq, hnot, hsaid⟩ := h
      cases hq.unique (.here hr')
      exact ⟨_, .here hr, fun h => hnot (hlists.trans h), hsaid.of_inlines hinlines⟩
  | blocked o => exact h.elim
  | failed o e =>
      obtain ⟨q, hq, hlisted, hsaid⟩ := h
      cases hq.unique (.here hr')
      exact ⟨_, .here hr, hlists.symm.trans hlisted, hsaid.of_inlines hinlines⟩
  | composed o ls =>
      obtain ⟨q, hq, hlisted, hsaid, hls⟩ := h
      cases hq.unique (.here hr')
      exact ⟨_, .here hr, hlists.symm.trans hlisted, hsaid.of_inlines hinlines,
        rendersList_of_standsFor hparts hls⟩

/-- **What bundling makes of a schema of objects**: a schema that stands for it, without references
to parts. -/
theorem Whole.standsFor {entered : List Key} (h : Whole set entered p) : ∀ {room : Nat} {j : Json},
    room + entered.length = Schema.Set.bundleDepth →
    set.bundleBelow room entered p.source p.schema = .ok j → IsObjectTree j ∧ StandsFor set j p := by
  -- Induction on the walk, which keeps the number of entered targets and the room in balance.
  induction h with
  | @reference entered p r t hr ht hnew hroom _ ih =>
      intro room j hlength hbundle
      obtain ⟨s, schema⟩ := p
      have hfollow : set.replacement room entered s r = .ok j := by
        rw [Schema.Set.bundleBelow_eq_inline] at hbundle
        cases schema with
        | object members =>
            rw [Schema.inline] at hbundle
            simpa only [hr] using hbundle
        | _ => cases hr
      obtain ⟨t', ht', ⟨hcut, -⟩ | ⟨-, less, rfl, hbundle⟩⟩ :=
        Schema.Set.replacement_eq_ok.mp hfollow
      · rw [ht] at ht'
        cases ht'
        rcases hcut with hcut | hcut
        · exact absurd hcut hnew
        · omega
      · rw [ht] at ht'
        cases ht'
        obtain ⟨htree, hstands⟩ := ih (by rw [List.length_cons]; omega) hbundle
        exact ⟨htree, fun s l hl => (hstands s l hl).of_target hr ht⟩
  | @object entered p hr hobject hparts ih =>
      intro room j hlength hbundle
      obtain ⟨s, schema⟩ := p
      cases schema with
      | object members =>
          rw [Schema.Set.bundleBelow_eq_inline, Schema.inline] at hbundle
          simp only [hr] at hbundle
          obtain ⟨members', hmembers, hbundle⟩ := Result.bind_eq_ok.mp hbundle
          rw [Result.pure_eq_ok] at hbundle
          subst hbundle
          have hinlines := Schema.inlinesMembers_of_eq_ok hmembers
          have hforall : List.Forall₂ (fun part j => IsObjectTree j ∧ StandsFor set j ⟨s, part⟩)
              (Sketch.partsOf members) (Sketch.partsOf members') :=
            Schema.forall₂_mono_mem (Sketch.forall₂_partsOf hinlines).2 fun part hpart j hj =>
              ih part hpart hlength (by rwa [Schema.Set.bundleBelow_eq_inline])
          refine ⟨.intro (hinlines.reference?.trans hr) (hobject.of_inlines hinlines) ?_,
            standsFor_of_inlines hinlines hr (hforall.imp fun _ _ h => h.2)⟩
          intro j hj
          obtain ⟨part, -, htree, -⟩ := Schema.exists_of_forall₂ hforall hj
          exact htree
      | _ => cases hobject.object

/-- **Parts of objects are rendered by what bundling makes of them**, however often the parts inside
are bundled. -/
theorem rendersList_bundled {base s : Source} (hset : set.IsSound base) (hs : s ∈ set.sources base) :
    ∀ (room : Nat) {parts : List Json} {ls : List Layered},
      (∀ part ∈ parts, Whole set [] ⟨s, part⟩ ∧ part.IsSound) →
      Sketch.bundled (set.bundleSchema s) room parts = .ok ls →
      Layered.RendersList set ls s parts := by
  intro room
  induction room using Nat.strongRecOn with
  | _ room ih =>
      intro parts ls hparts h
      obtain ⟨parts', hmap, hls⟩ := Sketch.bundled_eq_ok h
      have hforall : List.Forall₂ (fun part j => (IsObjectTree j ∧ j.IsSound) ∧
          StandsFor set j ⟨s, part⟩) parts parts' := by
        refine Schema.forall₂_mono_mem (Result.forall₂_of_mapM_eq_ok hmap) fun part hpart j hj => ?_
        obtain ⟨hwhole, hsound⟩ := hparts part hpart
        obtain ⟨htree, hstands⟩ := hwhole.standsFor (Nat.add_zero _) hj
        exact ⟨⟨htree, Schema.Set.isSound_bundleSchema hset hs hsound hj⟩, hstands⟩
      have hready : ∀ j ∈ parts', IsObjectTree j ∧ j.IsSound := fun j hj => by
        obtain ⟨part, -, hj, -⟩ := Schema.exists_of_forall₂ hforall hj
        exact hj
      suffices hrenders : Layered.RendersList set ls s parts' from
        rendersList_of_standsFor (hforall.imp fun _ _ h => h.2) hrenders
      rcases hls with ⟨-, rfl⟩ | ⟨less, rfl, rfl⟩
      · exact rendersList_layeredList fun j hj =>
          (hready j hj).1.exists_renders (fun _ h => by cases h) (hready j hj).2
      · refine rendersList_layeredList fun j hj =>
          (hready j hj).1.exists_renders (fun make hmake parts hparts ls hls => ?_) (hready j hj).2
        cases hmake
        exact ih less (Nat.lt_succ_self less)
          (fun part hpart => ⟨(hparts part hpart).1.whole s, (hparts part hpart).2⟩) hls

/-! ## §4  Layer by layer -/

/-- Whether outlines are those of the schemas that have a property. -/
structure Covers (A : Standing → Prop) (outlines : List Outline) : Prop where
  all : ∀ q, A q → ∃ o ∈ outlines, o.Says q.schema
  only : ∀ o ∈ outlines, ∃ q, A q ∧ o.Says q.schema

theorem covers_nil {A : Standing → Prop} (h : ∀ q, ¬ A q) : Covers A [] :=
  ⟨fun q hq => absurd hq (h q), fun _ ho => by cases ho⟩

theorem Covers.congr {A B : Standing → Prop} {outlines : List Outline} (h : Covers A outlines)
    (heq : ∀ q, A q ↔ B q) : Covers B outlines :=
  ⟨fun q hq => h.all q ((heq q).mpr hq), fun o ho =>
    (h.only o ho).imp fun q hq => ⟨(heq q).mp hq.1, hq.2⟩⟩

theorem Covers.append {A B : Standing → Prop} {outlines more : List Outline}
    (h : Covers A outlines) (hmore : Covers B more) :
    Covers (fun q => A q ∨ B q) (outlines ++ more) := by
  constructor
  · rintro q (hq | hq)
    · obtain ⟨o, ho, hsaid⟩ := h.all q hq
      exact ⟨o, List.mem_append_left _ ho, hsaid⟩
    · obtain ⟨o, ho, hsaid⟩ := hmore.all q hq
      exact ⟨o, List.mem_append_right _ ho, hsaid⟩
  · intro o ho
    rcases List.mem_append.mp ho with ho | ho
    · exact (h.only o ho).imp fun q hq => ⟨Or.inl hq.1, hq.2⟩
    · exact (hmore.only o ho).imp fun q hq => ⟨Or.inr hq.1, hq.2⟩

theorem Covers.exists_mem_iff {A : Standing → Prop} {outlines : List Outline}
    (h : Covers A outlines) {names : Outline → List String} {names' : Json → List String}
    (hsaid : ∀ {o schema}, o.Says schema → names o = names' schema) (name : String) :
    (∃ o ∈ outlines, name ∈ names o) ↔ ∃ q, A q ∧ name ∈ names' q.schema := by
  constructor
  · rintro ⟨o, ho, hname⟩
    obtain ⟨q, hq, ho⟩ := h.only o ho
    exact ⟨q, hq, hsaid ho ▸ hname⟩
  · rintro ⟨q, hq, hname⟩
    obtain ⟨o, ho, hq⟩ := h.all q hq
    exact ⟨o, ho, hsaid hq ▸ hname⟩

theorem covers_own : ∀ {ls : List Layered} {s : Source} {parts : List Json},
    Layered.RendersList set ls s parts →
    Covers (fun q => ∃ part ∈ parts, Ends set ⟨s, part⟩ q) (ls.map Layered.own)
  | [], s, parts, h => by
      cases h
      exact covers_nil fun q ⟨part, hpart, _⟩ => by cases hpart
  | l :: ls, s, parts, h => by
      obtain ⟨part, rest, rfl, hl, hls⟩ := h
      obtain ⟨q, hq, hsaid⟩ := hl.own
      have hfirst : Covers (Ends set ⟨s, part⟩) [l.own] :=
        ⟨fun q' hq' => ⟨l.own, List.mem_cons_self, hq.unique hq' ▸ hsaid⟩,
          fun o ho => ⟨q, hq, List.mem_singleton.mp ho ▸ hsaid⟩⟩
      refine (hfirst.append (covers_own hls)).congr fun q' => ?_
      simp only [List.mem_cons, exists_eq_or_imp]

theorem takesIn_iff {q : Standing} : TakesIn set p q ↔
    HasPart set p q ∨ ∃ p', HandsOn set p p' ∧ TakesIn set p' q := by
  constructor
  · intro h
    cases h with
    | part h => exact Or.inl h
    | handedOn hp h => exact Or.inr ⟨_, hp, h⟩
  · rintro (h | ⟨p', hp, h⟩)
    · exact .part h
    · exact .handedOn hp h

theorem not_takesIn_of_not_lists {q : Standing} (h : ¬ p.Lists) : ¬ TakesIn set p q := by
  intro htakes
  cases htakes with
  | part hpart => exact h hpart.lists
  | handedOn hp _ => exact h (HasPart.lists hp.hasPart.2)

/-- Whether layers are made of the outlines of the schemas that have a property, unless parts could
not be had: then they come to an error, behind outlines of objects. -/
inductive Lays (A : Standing → Prop) : List (Except SchemaError (List Outline)) → Prop where
  | whole {groups : List (List Outline)} (h : Covers A groups.flatten) : Lays A (groups.map .ok)
  | broken {groups : List (List Outline)} {e : SchemaError}
      (h : ∀ o ∈ groups.flatten, o.IsObject) : Lays A (groups.map .ok ++ [.error e])

theorem lays_nil {A : Standing → Prop} (h : ∀ q, ¬ A q) : Lays A [] :=
  @Lays.whole A [] (covers_nil h)

theorem Lays.congr {A B : Standing → Prop} {layers : List (Except SchemaError (List Outline))}
    (h : Lays A layers) (heq : ∀ q, A q ↔ B q) : Lays B layers := by
  cases h with
  | whole h => exact .whole (h.congr heq)
  | broken h => exact .broken h

theorem Lays.cons {A B : Standing → Prop} {layers : List (Except SchemaError (List Outline))}
    {layer : List Outline} (hlayer : Covers A layer) (h : Lays B layers) :
    Lays (fun q => A q ∨ B q) (.ok layer :: layers) := by
  cases h with
  | @whole groups h => exact @Lays.whole _ (layer :: groups) (hlayer.append h)
  | @broken groups e h =>
      refine @Lays.broken _ (layer :: groups) e fun o ho => ?_
      rw [List.flatten_cons] at ho
      rcases List.mem_append.mp ho with ho | ho
      · obtain ⟨_, _, hsaid⟩ := hlayer.only o ho
        exact hsaid.object
      · exact h o ho

mutual
/-- **The layers over an outline are the outlines of what the schema takes in.** -/
theorem lays_of_renders : ∀ (l : Layered) {p q : Standing}, l.Renders set p → Ends set p q →
    Lays (TakesIn set q) l.layers
  | .plain o, p, q, h, hends => by
      obtain ⟨q', hq', hlists, -⟩ := h
      cases hq'.unique hends
      rw [Layered.layers]
      exact lays_nil fun _ => not_takesIn_of_not_lists hlists
  | .composed o ls, p, q, h, hends => by
      obtain ⟨q', hq', -, -, hls⟩ := h
      cases hq'.unique hends
      rw [Layered.layers]
      exact (Lays.cons (covers_own hls) (layersOfFirst_of_renders ls hls)).congr
        fun _ => takesIn_iff.symm
  | .blocked o, _, _, h, _ => h.elim
  | .failed o e, _, _, _, _ => by
      rw [Layered.layers]
      exact @Lays.broken _ [] e fun _ ho => by cases ho

theorem layersOfFirst_of_renders : ∀ (ls : List Layered) {s : Source} {parts : List Json},
    Layered.RendersList set ls s parts →
    Lays (fun q => ∃ p', FirstListing set s parts p' ∧ TakesIn set p' q) (Layered.layersOfFirst ls)
  | [], s, parts, h => by
      cases h
      rw [Layered.layersOfFirst]
      exact lays_nil fun q ⟨p', hp', _⟩ => by cases hp'
  | .plain o :: ls, s, parts, h => by
      obtain ⟨part, rest, rfl, ⟨q, hq, hlists, -⟩, hls⟩ := h
      rw [Layered.layersOfFirst]
      refine (layersOfFirst_of_renders ls hls).congr fun q' => ?_
      refine exists_congr fun p' => and_congr_left fun _ => ⟨fun h => ?_, fun h => ?_⟩
      · exact .behind (fun q'' hq'' => hq.unique hq'' ▸ hlists) h
      · cases h with
        | here hq' h => exact absurd (hq.unique hq' ▸ h) hlists
        | behind _ h => exact h
  | .composed o inner :: ls, s, parts, h => by
      obtain ⟨part, rest, rfl, hl, -⟩ := h
      have hl' := hl
      obtain ⟨q, hq, hlists, -⟩ := hl'
      have hlays := lays_of_renders (.composed o inner) hl hq
      simp only [Layered.layersOfFirst]
      refine hlays.congr fun q' => ⟨fun h => ⟨q, .here hq hlists, h⟩, ?_⟩
      rintro ⟨p', hp', h⟩
      cases hp' with
      | here hq' _ => exact hq.unique hq' ▸ h
      | behind hfree _ => exact absurd hlists (hfree q hq)
  | .blocked o :: _, _, _, ⟨_, _, _, hl, _⟩ => hl.elim
  | .failed o e :: _, _, _, _ => by
      simp only [Layered.layersOfFirst]
      rw [Layered.layers]
      exact @Lays.broken _ [] e fun _ ho => by cases ho
end

end

end ReplySchema.Serializer

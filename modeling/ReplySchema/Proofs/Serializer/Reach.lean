import ReplySchema.Proofs.Schema.Merging
import ReplySchema.Proofs.Schema.Places
import ReplySchema.Proofs.Serializer.Mirror

/-! # The schemas that a serializer can reach

From the root one reaches the schemas under some keywords, the parts of `allOf`, and the
targets of references, and so on from there (`Reaches`).  What is demanded of "all schemas" is
demanded of these.

Below the root each of them lies in a document, and so do its references (`Met`).  If the
sketches look no further, these are the schemas that building a plan meets (`visits_met`).
-/

set_option autoImplicit false

namespace ReplySchema.Serializer

open Schema (Key Source Target reference? referenceTo)

/-! ## §1  Reached schemas -/

/-- The schemas that can be reached from a root in a document: under the keywords `via`, among the
parts of `allOf`, and by references. -/
inductive Reaches (via : String → Prop) (set : Schema.Set) (base : Source) (root : Json) :
    Source → Json → Prop where
  | root : Reaches via set base root base root
  | inside {s : Source} {schema : Json} (h : Reaches via set base root s schema)
      (hnone : reference? schema = none) {key : String} {value c : Json} (hkey : via key)
      (hm : (key, value) ∈ schema.members) (hc : c ∈ Sketch.insideKeyword key value) :
      Reaches via set base root s c
  | part {s : Source} {schema c : Json} (h : Reaches via set base root s schema)
      (hnone : reference? schema = none) (hc : c ∈ Sketch.partsOf schema.members) :
      Reaches via set base root s c
  | target {s : Source} {schema : Json} {r : String} {t : Target}
      (h : Reaches via set base root s schema) (hr : reference? schema = some r)
      (ht : set.resolve r s = .ok t) : Reaches via set base root t.source t.schema

section

variable {via : String → Prop} {set : Schema.Set} {base : Source} {root : Json}

/-- A reached schema lies in a document that can be met. -/
theorem Reaches.source {s : Source} {schema : Json} (h : Reaches via set base root s schema) :
    s ∈ set.sources base := by
  induction h with
  | root => exact List.mem_cons_self
  | inside _ _ _ _ _ ih => exact ih
  | part _ _ _ ih => exact ih
  | target _ _ ht ih => exact Schema.Set.source_mem_of_resolve ih ht

theorem Reaches.every {number : Number → Prop} {names : List String → Prop}
    (hset : ∀ s ∈ set.sources base, s.root.Every number names) (hroot : root.Every number names)
    {s : Source} {schema : Json} (h : Reaches via set base root s schema) :
    schema.Every number names := by
  induction h with
  | root => exact hroot
  | inside _ _ _ hm hc ih =>
      exact Schema.every_of_held (Schema.mem_held hm (Sketch.heldUnder_of_mem_insideKeyword hc)) ih
  | part _ _ hc ih => exact Schema.every_of_held (Sketch.held_of_mem_partsOf hc) ih
  | @target s schema r t h _ ht _ =>
      exact Schema.Set.every_of_at? t.found (hset _ (Schema.Set.source_mem_of_resolve h.source ht))

theorem Reaches.isSound (hset : set.IsSound base) (hroot : root.IsSound) {s : Source}
    {schema : Json} (h : Reaches via set base root s schema) : schema.IsSound :=
  h.every hset hroot

/-- The reached schemas whose references stand in their document. -/
def Met (via : String → Prop) (set : Schema.Set) (base : Source) (root : Json) (s : Source)
    (schema : Json) : Prop :=
  Reaches via set base root s schema ∧
    ∀ r ∈ Schema.Set.refsIn schema, r ∈ Schema.Set.refsIn s.root

theorem Reaches.met_target {s : Source} {schema : Json} (h : Reaches via set base root s schema)
    {r : String} (hr : reference? schema = some r) {t : Target} (ht : set.resolve r s = .ok t) :
    Met via set base root t.source t.schema :=
  ⟨h.target hr ht, fun _ hmem => Schema.Set.mem_refsIn_of_at? t.found hmem⟩

/-! ## §2  The schemas that building meets -/

/-- Whether all references of a sketch that can be followed have a property. -/
abbrev Sketch.EveryReference (Q : String → Prop) (sketch : Sketch) : Prop :=
  sketch.Every fun x => ∀ r, x = .reference (.ok r) → Q r

/-- What a property of schemas in one document has to keep to: it holds of reached schemas only,
and passes to those under the keywords. -/
structure Spreads (via : String → Prop) (set : Schema.Set) (base : Source) (root : Json)
    (s : Source) (H : Json → Prop) : Prop where
  reaches : ∀ c, H c → Reaches via set base root s c
  inside : ∀ c, H c → reference? c = none → ∀ key value, via key → (key, value) ∈ c.members →
    ∀ d ∈ Sketch.insideKeyword key value, H d

/-- Whether the sketches look no further than that: each of their references is one of a schema
that has the property. -/
def LooksWithin (via : String → Prop) (set : Schema.Set) (base : Source) (root : Json) : Prop :=
  ∀ s H, Spreads via set base root s H → ∀ Q : String → Prop,
    (∀ c r, H c → reference? c = some r → Q r) →
    ∀ schema, H schema → Sketch.EveryReference Q (.ofSchema set s schema)

variable (hlooks : LooksWithin via set base root)
include hlooks

theorem leads_of_reaches {s : Source} {schema : Json} (h : Reaches via set base root s schema) :
    Plan.Leads set (Met via set base root) s (.ofSchema set s schema) := by
  have hevery := hlooks s (Reaches via set base root s)
    ⟨fun _ h => h, fun _ h hnone _ _ hkey hm _ hd => h.inside hnone hkey hm hd⟩
    (fun r => ∀ t, set.resolve r s = .ok t → Met via set base root t.source t.schema)
    (fun _ _ h hr _ ht => h.met_target hr ht) schema h
  exact hevery.mono fun x hx r t heq ht => hx r heq t ht

/-- **Building a plan meets the reached schemas whose references stand in their document.** -/
theorem visits_met (hidentified : set.IsIdentified base) :
    Plan.Visits set base (Met via set base root) where
  source _ _ h := h.1.source
  identified _ _ _ _ h h' := hidentified _ h.1.source _ h'.1.source
  references s schema h := by
    refine hlooks s (Met via set base root s) ⟨fun _ h => h.1, ?_⟩
      (fun r => r ∈ Schema.Set.refsIn s.root) ?_ schema h
    · intro c hc hnone key value hkey hm d hd
      have hheld := Schema.mem_held hm (Sketch.heldUnder_of_mem_insideKeyword hd)
      exact ⟨hc.1.inside hnone hkey hm hd, fun r hr => hc.2 r (Schema.mem_refsIn_of_held hheld hr)⟩
    · intro c r hc hr
      exact hc.2 r (Schema.Set.mem_refsIn_of_reference? hr)
  leads _ _ h := leads_of_reaches hlooks h.1

end

/-! ## §3  A schema that stands alone -/

theorem isSound_referenceTo (r : String) : (referenceTo r).IsSound :=
  Json.isSound_cons (by decide) (.string _) Json.isSound_nil

/-- Whether a reference of a schema on a route leads to a place in it, no document being shared. -/
def LeadsTo (root : Json) (r pointer : String) (d : Json) : Prop :=
  root.at? pointer = some d ∧
    ((Schema.Set.ofStores [] 0).resolve r (.ofInline root)).toOption.map Target.pointer =
      some pointer

theorem LeadsTo.target {root d : Json} {r pointer : String} (h : LeadsTo root r pointer d)
    {t : Target} (ht : (Schema.Set.ofStores [] 0).resolve r (.ofInline root) = .ok t) :
    t.source = .ofInline root ∧ t.schema = d := by
  obtain ⟨hat, hpointer⟩ := h
  have hin : Source.ofInline root ∈ (Schema.Set.ofStores [] 0).sources (.ofInline root) :=
    List.mem_cons_self
  have hsource : t.source = .ofInline root :=
    List.mem_singleton.mp (Schema.Set.source_mem_of_resolve hin ht)
  rw [ht] at hpointer
  cases hpointer
  have hfound := t.found
  rw [hsource] at hfound
  exact ⟨hsource, Option.some.inj (hfound.symm.trans hat)⟩

/-- A reference of a given schema on a route leads to a given one, if no document is shared and all
of them do. -/
theorem mem_target_ofInline {root : Json} {given : List Json}
    (htarget : ∀ c ∈ given, ∀ r, reference? c = some r → ∃ pointer, ∃ d ∈ given,
      LeadsTo root r pointer d) {c : Json} (hc : c ∈ given) {r : String} (hr : reference? c = some r)
    {t : Target} (ht : (Schema.Set.ofStores [] 0).resolve r (.ofInline root) = .ok t) :
    t.source = .ofInline root ∧ t.schema ∈ given := by
  obtain ⟨pointer, d, hd, hleads⟩ := htarget c hc r hr
  obtain ⟨hsource, hschema⟩ := hleads.target ht
  exact ⟨hsource, hschema ▸ hd⟩

/-- The schemas that are reached from a schema on a route are among the given ones, if no document
is shared and the given ones lead to each other only. -/
theorem mem_of_reaches_ofInline {via : String → Prop} {root : Json} {given : List Json}
    (hroot : root ∈ given)
    (hinside : ∀ c ∈ given, reference? c = none →
      ∀ d ∈ Sketch.inside c ++ Sketch.partsOf c.members, d ∈ given)
    (htarget : ∀ c ∈ given, ∀ r, reference? c = some r → ∃ pointer, ∃ d ∈ given,
      LeadsTo root r pointer d) {s : Source} {schema : Json}
    (h : Reaches via (.ofStores [] 0) (.ofInline root) root s schema) :
    s = .ofInline root ∧ schema ∈ given := by
  induction h with
  | root => exact ⟨rfl, hroot⟩
  | inside _ hnone _ hm hc ih =>
      have hmem : _ ∈ Sketch.inside _ := List.mem_flatMap.mpr ⟨_, hm, hc⟩
      exact ⟨ih.1, hinside _ ih.2 hnone _ (List.mem_append_left _ hmem)⟩
  | part _ hnone hc ih => exact ⟨ih.1, hinside _ ih.2 hnone _ (List.mem_append_right _ hc)⟩
  | target _ hr ht ih => exact mem_target_ofInline htarget ih.2 hr (ih.1 ▸ ht)

end ReplySchema.Serializer

import ReplySchema.Proofs.Schema.Places
import ReplySchema.Proofs.Serializer.Build
import ReplySchema.Proofs.Serializer.Concur
import ReplySchema.Proofs.Serializer.Linkable
import ReplySchema.Proofs.Serializer.Reach

/-! # What a passed check is good for

Before a document is compiled its references are checked.  After that, compiling it is not to
fail, and it does not as long as compiling comes to the same references as the check.  Bundling
does (`exists_bundleSchema`), and so does building a plan, with one exception: a part of `allOf`
is bundled before it is laid over the schema that lists it, and a list that came in where items
were a reference brings references of its own (`check_is_gate`, `not_check_is_gate`).

Building a plan passes over a test of a union that cannot be bundled.  So it is not enough to say
that a plan comes out; it comes out as well if such a test is an error (`buildStrictly`).
-/

set_option autoImplicit false

namespace ReplySchema.Serializer.Plan

open Schema (Key Source Target Store reference? held referenceTo)
open Schema.Set (Walks)

/-! ## §1  Building strictly -/

def linkWith (set : Schema.Set) (test : Source → Json → Linking (Option Validator)) :
    Nat → Source → Sketch → Linking Node
  | room, base, sketch =>
      sketch.link
        (fun reference => do
          let target ← (reference.bind fun r => set.resolve r base : Except SchemaError _)
          if Table.contains target.key (← get) then return .reference target.key
          else
            match room with
            | 0 => return .any
            | room + 1 => do
                modify (Table.insert target.key none)
                let shape ← linkWith set test room target.source
                  (.ofSchema set target.source target.schema)
                settle target.key shape
                return .reference target.key)
        (test base)

theorem linkBelow_eq_linkWith (set : Schema.Set) : ∀ room base sketch,
    linkBelow set room base sketch =
      linkWith set (fun base schema => pure (testOf set base schema)) room base sketch := by
  intro room
  induction room with
  | zero => exact fun _ _ => rfl
  | succ room ih =>
      intro base sketch
      unfold linkBelow linkWith
      simp only [ih]

/-- The test of an alternative; it is an error if its schema cannot be bundled. -/
def strictTestOf (set : Schema.Set) (base : Source) (schema : Json) : Linking (Option Validator) := do
  let _ ← (set.bundleSchema base schema : Except SchemaError _)
  return testOf set base schema

/-- The plan of a schema of `base`, if all its tests can be bundled. -/
def buildStrictly (set : Schema.Set) (base : Source) (schema : Json) (rounding : Rounding) :
    Except SchemaError Plan := do
  let room := set.targetBound base
  let (root, targets) ←
    linkWith set (strictTestOf set) room base (.ofSchema set base schema) |>.run []
  return { root, targets, rounding }

/-! ## §2  Building what can be compiled -/

variable {set : Schema.Set} {base : Source}

/-- Two ways to make tests come to one plan, if they concur on what can be bundled. -/
theorem concur_linkWith (hset : set.IsSound base)
    {test test' : Source → Json → Linking (Option Validator)}
    (htest : ∀ s c, (∃ j, set.bundleSchema s c = .ok j) → Concur (test s c) (test' s c)) :
    ∀ (room : Nat) {s : Source} {sketch : Sketch}, s ∈ set.sources base →
      Sketch.Linkable set s sketch →
      Concur (linkWith set test room s sketch) (linkWith set test' room s sketch) := by
  intro room
  induction room using Nat.strongRecOn with
  | _ room ih =>
      intro s sketch hs hsketch
      unfold linkWith
      refine Shape.concur_link sketch (hsketch.mono fun x hx =>
        ⟨fun reference heq => ?_, fun bs heq b hb c hc => htest s c (hx.tests bs heq b hb c hc)⟩)
      obtain ⟨r, t, rfl, ht, hcompilable⟩ := hx.reference reference heq
      have htarget : t.source ∈ set.sources base := Schema.Set.source_mem_of_resolve hs ht
      have hsketch : Sketch.Linkable set t.source (.ofSchema set t.source t.schema) :=
        Sketch.linkable_ofSchema hset htarget hcompilable (hset.schema htarget)
      have hresolve : ((.ok r : Except SchemaError String).bind fun r => set.resolve r s) = .ok t := ht
      simp only [hresolve]
      refine concur_lift (concur_bind concur_get fun targets => ?_)
      split
      · exact concur_pure _
      · cases room with
        | zero => exact concur_pure _
        | succ room =>
            refine concur_bind (concur_modify _) fun _ => ?_
            refine concur_bind (ih room (Nat.lt_succ_self room) htarget hsketch) fun shape => ?_
            exact concur_bind (concur_modify _) fun _ => concur_pure _

/-- **A sound schema that can be compiled has a plan**, and building it meets no test that cannot be
bundled. -/
theorem exists_build (hset : set.IsSound base) {v : Json} (h : Compilable set base v)
    (hsound : v.IsSound) (rounding : Rounding) : ∃ plan,
    build set base v rounding = .ok plan ∧ buildStrictly set base v rounding = .ok plan := by
  have hbase : base ∈ set.sources base := List.mem_cons_self
  have hsketch := Sketch.linkable_ofSchema hset hbase h hsound
  have htest : ∀ s c, (∃ j, set.bundleSchema s c = .ok j) →
      Concur (pure (testOf set s c) : Linking (Option Validator)) (strictTestOf set s c) := by
    rintro s c ⟨j, hj⟩
    unfold strictTestOf
    rw [hj]
    exact concur_pure _
  obtain ⟨⟨root, targets⟩, hlenient, hstrict⟩ :=
    concur_linkWith hset htest (set.targetBound base) hbase hsketch []
  refine ⟨⟨root, targets, rounding⟩, ?_, ?_⟩
  · unfold build
    simp only [linkBelow_eq_linkWith, hlenient]
    rfl
  · unfold buildStrictly
    simp only [hstrict]
    rfl

/-! ## §3  Two documents -/

/-- What one comes to from a schema on a route is among the given schemas, if no document is shared
and the given ones lead to each other only. -/
theorem mem_of_walks_ofInline {root : Json} {given : List Json} (hroot : root ∈ given)
    (hheld : ∀ v ∈ given, ∀ c ∈ held v, c ∈ given)
    (htarget : ∀ v ∈ given, ∀ r, reference? v = some r → ∃ pointer, ∃ d ∈ given,
      LeadsTo root r pointer d) {s : Source} {v : Json}
    (h : Walks (.ofStores [] 0) (.ofInline root) root s v) : s = .ofInline root ∧ v ∈ given := by
  induction h with
  | here => exact ⟨rfl, hroot⟩
  | held _ hc ih => exact ⟨ih.1, hheld _ ih.2 _ hc⟩
  | target _ hr ht ih => exact mem_target_ofInline htarget ih.2 hr (ih.1 ▸ ht)

def tagSchema : Json := .object [("type", .string "string")]

def tagsSchema : Json := .object [("items", referenceTo "#/definitions/tag")]

def tagsPart : Json := .object [("properties", .object [("tags", tagsSchema)])]

def childSchema : Json := .object [("anyOf", .array [referenceTo "#/definitions/tag", referenceTo "#"])]

def treeSchema : Json :=
  .object [("allOf", .array [tagsPart]), ("properties", .object [("child", childSchema)]),
    ("definitions", .object [("tag", tagSchema)])]

theorem isSound_treeSchema : treeSchema.IsSound := by
  have htags : tagsSchema.IsSound :=
    Json.isSound_cons (by decide) (isSound_referenceTo _) Json.isSound_nil
  have hpart : tagsPart.IsSound := Json.isSound_cons (by decide)
    (Json.isSound_cons (by decide) htags Json.isSound_nil) Json.isSound_nil
  have hchild : childSchema.IsSound := by
    refine Json.isSound_cons (by decide) (.array fun c hc => ?_) Json.isSound_nil
    simp only [List.mem_cons, List.not_mem_nil, or_false] at hc
    rcases hc with rfl | rfl <;> exact isSound_referenceTo _
  have htag : tagSchema.IsSound := Json.isSound_cons (by decide) (.string _) Json.isSound_nil
  refine Json.isSound_cons (by decide) (.array fun c hc => List.mem_singleton.mp hc ▸ hpart) ?_
  refine Json.isSound_cons (by decide) (Json.isSound_cons (by decide) hchild Json.isSound_nil) ?_
  exact Json.isSound_cons (by decide) (Json.isSound_cons (by decide) htag Json.isSound_nil)
    Json.isSound_nil

theorem mem_of_walks_tree {s : Source} {v : Json}
    (h : Walks (.ofStores [] 0) (.ofInline treeSchema) treeSchema s v) :
    v ∈ [treeSchema, tagsPart, tagsSchema, childSchema, tagSchema, referenceTo "#/definitions/tag",
      referenceTo "#"] := by
  refine (mem_of_walks_ofInline (by simp) (fun v hv c hc => ?_) (fun v hv r hr => ?_) h).2
  · simp only [List.mem_cons, List.not_mem_nil, or_false] at hv
    have htree : held treeSchema = [tagsPart, childSchema, tagSchema] := rfl
    have hpart : held tagsPart = [tagsSchema] := rfl
    have htags : held tagsSchema = [referenceTo "#/definitions/tag"] := rfl
    have hchild : held childSchema = [referenceTo "#/definitions/tag", referenceTo "#"] := rfl
    rcases hv with rfl | rfl | rfl | rfl | rfl | rfl | rfl
    · rw [htree] at hc
      simp only [List.mem_cons, List.not_mem_nil, or_false] at hc
      rcases hc with rfl | rfl | rfl <;> simp
    · rw [hpart] at hc
      simp only [List.mem_cons, List.not_mem_nil, or_false] at hc
      simp [hc]
    · rw [htags] at hc
      simp only [List.mem_cons, List.not_mem_nil, or_false] at hc
      simp [hc]
    · rw [hchild] at hc
      simp only [List.mem_cons, List.not_mem_nil, or_false] at hc
      rcases hc with rfl | rfl <;> simp
    · cases hc
    · cases hc
    · cases hc
  · simp only [List.mem_cons, List.not_mem_nil, or_false] at hv
    rcases hv with rfl | rfl | rfl | rfl | rfl | rfl | rfl <;> cases hr
    · exact ⟨"/definitions/tag", tagSchema, by simp, rfl, by decide +kernel⟩
    · exact ⟨"", treeSchema, by simp, rfl, by decide +kernel⟩

theorem isSound_treeSet : (Schema.Set.ofStores [] 0).IsSound (.ofInline treeSchema) := by
  intro s hs
  rw [List.mem_singleton.mp hs]
  exact isSound_treeSchema

theorem partItemsStandAlone_tree :
    PartItemsStandAlone (.ofStores [] 0) (.ofInline treeSchema) treeSchema := by
  intro s v hwalk part hpart s' v' hwalk' items hm hsingle entries hends
  -- one comes to no list at all
  obtain ⟨s'', hends⟩ := hends.walks
  have hitems := (hwalk.held (Sketch.held_of_mem_partsOf hpart)).trans hwalk'
  have hmem := mem_of_walks_tree
    ((hitems.held (Schema.Set.mem_held_items hm hsingle)).trans hends)
  simp only [List.mem_cons, List.not_mem_nil, or_false] at hmem
  rcases hmem with h | h | h | h | h | h | h <;> cases h

/-- A part whose items are a reference to examples, one of which looks like a reference. -/
def exampleSchema : Json :=
  .object [("allOf", .array [.object [("type", .string "array"), ("items", referenceTo "#/examples")]]),
    ("examples", .array [referenceTo "#/nowhere"])]

theorem isSound_exampleSchema : exampleSchema.IsSound := by
  refine Json.isSound_cons (by decide) (.array fun c hc => ?_) ?_
  · rw [List.mem_singleton.mp hc]
    exact Json.isSound_cons (by decide) (.string _)
      (Json.isSound_cons (by decide) (isSound_referenceTo _) Json.isSound_nil)
  · exact Json.isSound_cons (by decide)
      (.array fun c hc => List.mem_singleton.mp hc ▸ isSound_referenceTo _) Json.isSound_nil

/-! ## §4  The gate -/

/-- **After a check that passes, a document can be compiled.**  It can be bundled, and a reference
means no place where nothing stands.  A plan comes out, however numbers are rounded, if no
reference inside a part of `allOf` turns items into a list that holds references; then no test of a
union is passed over either. -/
theorem check_is_gate {stores : List Store} {generation : Nat} {base : Source}
    (hbase : base.origin = .inline ∨ base ∈ Schema.Set.sourcesOf stores)
    (hset : (Schema.Set.ofStores stores generation).IsSound base)
    (hcheck : (Schema.Set.ofStores stores generation).check base = .ok ()) :
    (∃ j, (Schema.Set.ofStores stores generation).bundle base = .ok j) ∧
    (PartItemsStandAlone (Schema.Set.ofStores stores generation) base base.root → ∀ rounding, ∃ plan,
      build (Schema.Set.ofStores stores generation) base base.root rounding = .ok plan ∧
      buildStrictly (Schema.Set.ofStores stores generation) base base.root rounding = .ok plan) ∧
    ∀ s r place, (Schema.Set.ofStores stores generation).place? r s = some place →
      ∃ t, (Schema.Set.ofStores stores generation).resolve r s = .ok t ∧ t.place = place ∧
        place.1.root.at? place.2 = some t.schema := by
  have hidentified := @Schema.Set.isIdentified_ofStores stores generation base hbase
  have hfollowable := Schema.Set.followable_of_check hidentified hcheck
  refine ⟨Schema.Set.exists_bundleSchema hfollowable, fun hparts rounding => ?_, fun s r place h => ?_⟩
  · exact exists_build hset ⟨hfollowable, hparts⟩ (hset base List.mem_cons_self) rounding
  · exact Schema.Set.exists_target_of_place? h

theorem check_is_gate_tree :
    (Schema.Set.ofStores [] 0).check (.ofInline treeSchema) = .ok () ∧
    PartItemsStandAlone (.ofStores [] 0) (.ofInline treeSchema) treeSchema ∧
    (∃ j, (Schema.Set.ofStores [] 0).bundle (.ofInline treeSchema) = .ok j) ∧
    ∃ plan, build (.ofStores [] 0) (.ofInline treeSchema) treeSchema .ceil = .ok plan ∧
      buildStrictly (.ofStores [] 0) (.ofInline treeSchema) treeSchema .ceil = .ok plan := by
  have hcheck : (Schema.Set.ofStores [] 0).check (.ofInline treeSchema) = .ok () :=
    Result.toOption_eq_some.mp (by decide +kernel)
  obtain ⟨hbundle, hbuild, -⟩ := check_is_gate (Or.inl rfl) isSound_treeSet hcheck
  exact ⟨hcheck, partItemsStandAlone_tree, hbundle, hbuild partItemsStandAlone_tree .ceil⟩

/-- **A check that passes does not keep a plan from failing** where items turn out to be a list of
examples: what looks like a reference there is followed. -/
theorem not_check_is_gate :
    (Schema.Set.ofStores [] 0).IsSound (.ofInline exampleSchema) ∧
    (Schema.Set.ofStores [] 0).check (.ofInline exampleSchema) = .ok () ∧
    ∀ rounding, build (.ofStores [] 0) (.ofInline exampleSchema) exampleSchema rounding =
      .error (.refNotFound "#/nowhere" none) := by
  refine ⟨fun s hs => ?_, Result.toOption_eq_some.mp (by decide +kernel), fun rounding => ?_⟩
  · rw [List.mem_singleton.mp hs]
    exact isSound_exampleSchema
  · have hrun : (match build (.ofStores [] 0) (.ofInline exampleSchema) exampleSchema rounding with
        | .ok _ => false
        | .error e => decide (e = .refNotFound "#/nowhere" none)) = true := by
      cases rounding <;> decide +kernel
    split at hrun
    · cases hrun
    · next e he => rw [he, of_decide_eq_true hrun]

end ReplySchema.Serializer.Plan

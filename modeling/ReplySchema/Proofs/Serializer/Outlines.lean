import ReplySchema.Proofs.Serializer.Links
import ReplySchema.Proofs.Serializer.Sketches

/-! # The sketches inside an outline

An outline holds sketches of inner schemas.  Laying a part over it adds those of the part
and no others; its shape is put together from them.  So a property of all shapes inside
passes from the inner schemas to the shape of the whole, if it holds of the few forms in
which they are put together (`every_shape`).
-/

set_option autoImplicit false

namespace ReplySchema.Serializer

namespace Facet

variable {α : Type}

theorem orElse_eq_given {own other : Facet α} {a : α} (h : own.orElse other = .given a) :
    own = .given a ∨ other = .given a := by
  cases own with
  | absent => exact Or.inr h
  | unusable => cases h
  | given b => exact Or.inl h

/-- Joined values: one of the two, or both added. -/
theorem join_eq_given {add : α → α → α} {own other : Facet α} {a : α}
    (h : own.join add other = .given a) :
    own = .given a ∨ other = .given a ∨
      ∃ x y, own = .given x ∧ other = .given y ∧ a = add x y := by
  cases own with
  | absent => exact Or.inr (Or.inl h)
  | unusable => cases h
  | given x =>
      cases other with
      | given y =>
          cases h
          exact Or.inr (Or.inr ⟨x, y, rfl, rfl, rfl⟩)
      | _ => exact Or.inl h

end Facet

namespace Outline

/-! ## §1  Which sketches there are -/

/-- Whether a sketch stands in an outline. -/
inductive Has (o : Outline) : Sketch → Prop where
  | anyOf {bs : List (Branch Json Sketch)} {b : Branch Json Sketch} (h : o.anyOf = .given bs)
      (hb : b ∈ bs) : Has o b.shape
  | oneOf {bs : List (Branch Json Sketch)} {b : Branch Json Sketch} (h : o.oneOf = .given bs)
      (hb : b ∈ bs) : Has o b.shape
  | property {ps : List (Property Sketch)} {p : Property Sketch} (h : o.properties = .given ps)
      (hp : p ∈ ps) : Has o p.shape
  | pattern {ps : List (String × Sketch)} {p : String × Sketch}
      (h : o.patternProperties = .given ps) (hp : p ∈ ps) : Has o p.2
  | others {s : Sketch} (h : o.additionalProperties = .given (.shaped s)) : Has o s
  | front {ss : List Sketch} {s : Sketch} (h : o.prefixItems = .given ss) (hs : s ∈ ss) : Has o s
  | each {s : Sketch} (h : o.items = .given (.each s)) : Has o s
  | listed {ss : List Sketch} {s : Sketch} (h : o.items = .given (.listed ss)) (hs : s ∈ ss) :
      Has o s
  | additional {s : Sketch} (h : o.additionalItems = .given s) : Has o s

theorem mem_addProperties {own more : List (Property Sketch)} {p : Property Sketch}
    (h : p ∈ addProperties own more) : p ∈ own ∨ p ∈ more := by
  unfold addProperties at h
  induction more generalizing own with
  | nil => exact Or.inl h
  | cons q rest ih =>
      rw [List.foldl_cons] at h
      rcases ih h with h | h
      · split at h
        · exact Or.inl h
        · rcases List.mem_append.mp h with h | h
          · exact Or.inl h
          · exact Or.inr (List.mem_singleton.mp h ▸ List.mem_cons_self)
      · exact Or.inr (List.mem_cons_of_mem _ h)

theorem mem_addPatterns {own more : List (String × Sketch)} {p : String × Sketch}
    (h : p ∈ addPatterns own more) : p ∈ own ∨ p ∈ more := by
  unfold addPatterns at h
  induction more generalizing own with
  | nil => exact Or.inl h
  | cons q rest ih =>
      rw [List.foldl_cons] at h
      rcases ih h with h | h
      · split at h
        · exact Or.inl h
        · rcases List.mem_append.mp h with h | h
          · exact Or.inl h
          · exact Or.inr (List.mem_singleton.mp h ▸ List.mem_cons_self)
      · exact Or.inr (List.mem_cons_of_mem _ h)

/-- A part that is laid over an outline brings its own sketches and no others. -/
theorem has_merge {o part : Outline} {s : Sketch} (h : (o.merge part).Has s) :
    o.Has s ∨ part.Has s := by
  cases h with
  | anyOf h hb =>
      exact (Facet.orElse_eq_given h).imp (fun h => .anyOf h hb) fun h => .anyOf h hb
  | oneOf h hb =>
      exact (Facet.orElse_eq_given h).imp (fun h => .oneOf h hb) fun h => .oneOf h hb
  | property h hp =>
      rcases Facet.join_eq_given h with h | h | ⟨x, y, hx, hy, rfl⟩
      · exact Or.inl (.property h hp)
      · exact Or.inr (.property h hp)
      · exact (mem_addProperties hp).imp (fun hp => .property hx hp) fun hp => .property hy hp
  | pattern h hp =>
      rcases Facet.join_eq_given h with h | h | ⟨x, y, hx, hy, rfl⟩
      · exact Or.inl (.pattern h hp)
      · exact Or.inr (.pattern h hp)
      · exact (mem_addPatterns hp).imp (fun hp => .pattern hx hp) fun hp => .pattern hy hp
  | others h => exact (Facet.orElse_eq_given h).imp (fun h => .others h) fun h => .others h
  | front h hs =>
      exact (Facet.orElse_eq_given h).imp (fun h => .front h hs) fun h => .front h hs
  | each h => exact (Facet.orElse_eq_given h).imp (fun h => .each h) fun h => .each h
  | listed h hs =>
      exact (Facet.orElse_eq_given h).imp (fun h => .listed h hs) fun h => .listed h hs
  | additional h =>
      exact (Facet.orElse_eq_given h).imp (fun h => .additional h) fun h => .additional h

theorem has_bare {o : Outline} {s : Sketch} (h : ({ o with nullable := .absent } : Outline).Has s) :
    o.Has s := by
  cases h with
  | anyOf h hb => exact .anyOf h hb
  | oneOf h hb => exact .oneOf h hb
  | property h hp => exact .property h hp
  | pattern h hp => exact .pattern h hp
  | others h => exact .others h
  | front h hs => exact .front h hs
  | each h => exact .each h
  | listed h hs => exact .listed h hs
  | additional h => exact .additional h

/-- Whether a schema tells an alternative of an outline apart. -/
inductive Tests (o : Outline) : Json → Prop where
  | anyOf {bs : List (Branch Json Sketch)} {b : Branch Json Sketch} {c : Json}
      (h : o.anyOf = .given bs) (hb : b ∈ bs) (hc : b.test = some c) : Tests o c
  | oneOf {bs : List (Branch Json Sketch)} {b : Branch Json Sketch} {c : Json}
      (h : o.oneOf = .given bs) (hb : b ∈ bs) (hc : b.test = some c) : Tests o c

theorem tests_merge {o part : Outline} {c : Json} (h : (o.merge part).Tests c) :
    o.Tests c ∨ part.Tests c := by
  cases h with
  | anyOf h hb hc =>
      exact (Facet.orElse_eq_given h).imp (fun h => .anyOf h hb hc) fun h => .anyOf h hb hc
  | oneOf h hb hc =>
      exact (Facet.orElse_eq_given h).imp (fun h => .oneOf h hb hc) fun h => .oneOf h hb hc

theorem tests_bare {o : Outline} {c : Json}
    (h : ({ o with nullable := .absent } : Outline).Tests c) : o.Tests c := by
  cases h with
  | anyOf h hb hc => exact .anyOf h hb hc
  | oneOf h hb hc => exact .oneOf h hb hc

/-! ## §2  The outline of a schema -/

theorem facetAt_eq_absent {α : Type} {read : Json → Option α} {keyword : String}
    {members : List (String × Json)} (h : Table.find? keyword members = none) :
    facetAt read keyword members = .absent := by
  unfold facetAt
  rw [h]

theorem facetAt_eq_given {α : Type} {read : Json → Option α} {keyword : String}
    {members : List (String × Json)} {a : α} :
    facetAt read keyword members = .given a ↔
      ∃ v, Table.find? keyword members = some v ∧ read v = some a := by
  unfold facetAt
  cases Table.find? keyword members with
  | none => simp
  | some v => cases hv : read v <;> simp [Facet.ofOption, hv]

theorem objectAt_eq_some {sketch : Json → Sketch} {v : Json} {s : Sketch}
    (h : objectAt sketch v = some s) : v.isObject = true ∧ s = sketch v := by
  unfold objectAt at h
  split at h
  · next hv => exact ⟨hv, (Option.some.inj h).symm⟩
  · cases h

theorem has_ofSchema {sketch : Json → Sketch} {members : List (String × Json)} {s : Sketch}
    (h : (ofSchema sketch members).Has s) :
    ∃ c ∈ Sketch.inside (.object members), s = sketch c := by
  cases h with
  | anyOf h hb =>
      obtain ⟨v, hv, hread⟩ := facetAt_eq_given.mp h
      obtain ⟨items, hitems, rfl⟩ := Option.map_eq_some_iff.mp hread
      obtain ⟨c, hc, rfl⟩ := List.mem_map.mp hb
      exact ⟨c, Sketch.mem_inside_of_asArray? (Or.inl rfl) hv hitems hc, rfl⟩
  | oneOf h hb =>
      obtain ⟨v, hv, hread⟩ := facetAt_eq_given.mp h
      obtain ⟨items, hitems, rfl⟩ := Option.map_eq_some_iff.mp hread
      obtain ⟨c, hc, rfl⟩ := List.mem_map.mp hb
      exact ⟨c, Sketch.mem_inside_of_asArray? (Or.inl rfl) hv hitems hc, rfl⟩
  | property h hp =>
      obtain ⟨v, hv, hread⟩ := facetAt_eq_given.mp h
      obtain ⟨entries, hentries, rfl⟩ := Option.map_eq_some_iff.mp hread
      obtain ⟨e, he, rfl⟩ := List.mem_map.mp hp
      exact ⟨e.2, Sketch.mem_inside_of_asObject? rfl hv hentries he, rfl⟩
  | pattern h hp =>
      obtain ⟨v, hv, hread⟩ := facetAt_eq_given.mp h
      obtain ⟨entries, hentries, rfl⟩ := Option.map_eq_some_iff.mp hread
      obtain ⟨e, he, rfl⟩ := List.mem_map.mp hp
      exact ⟨e.2, Sketch.mem_inside_of_asObject? rfl hv hentries he, rfl⟩
  | others h =>
      obtain ⟨v, hv, hread⟩ := facetAt_eq_given.mp h
      unfold othersAt at hread
      split at hread
      · cases hread
      · obtain ⟨s', hs', heq⟩ := Option.map_eq_some_iff.mp hread
        cases heq
        obtain ⟨hobject, rfl⟩ := objectAt_eq_some hs'
        exact ⟨_, Sketch.mem_inside_of_isObject (Or.inl rfl) hv hobject, rfl⟩
  | front h hs =>
      obtain ⟨v, hv, hread⟩ := facetAt_eq_given.mp h
      obtain ⟨items, hitems, rfl⟩ := Option.map_eq_some_iff.mp hread
      obtain ⟨c, hc, rfl⟩ := List.mem_map.mp hs
      exact ⟨c, Sketch.mem_inside_of_asArray? (Or.inl rfl) hv hitems hc, rfl⟩
  | each h =>
      obtain ⟨v, hv, hread⟩ := facetAt_eq_given.mp h
      unfold itemsAt at hread
      split at hread
      · cases hread
      · obtain ⟨s', hs', heq⟩ := Option.map_eq_some_iff.mp hread
        cases heq
        obtain ⟨hobject, rfl⟩ := objectAt_eq_some hs'
        exact ⟨_, Sketch.mem_inside_of_isObject (Or.inr rfl) hv hobject, rfl⟩
  | listed h hs =>
      obtain ⟨v, hv, hread⟩ := facetAt_eq_given.mp h
      unfold itemsAt at hread
      split at hread
      · cases hread
        obtain ⟨c, hc, rfl⟩ := List.mem_map.mp hs
        exact ⟨c, Sketch.mem_inside_of_asArray? (Or.inr rfl) hv rfl hc, rfl⟩
      · obtain ⟨s', -, heq⟩ := Option.map_eq_some_iff.mp hread
        cases heq
  | additional h =>
      obtain ⟨v, hv, hread⟩ := facetAt_eq_given.mp h
      obtain ⟨hobject, rfl⟩ := objectAt_eq_some hread
      exact ⟨v, Sketch.mem_inside_of_isObject (Or.inl rfl) hv hobject, rfl⟩

theorem tests_ofSchema {sketch : Json → Sketch} {members : List (String × Json)} {c : Json}
    (h : (ofSchema sketch members).Tests c) : c ∈ Sketch.inside (.object members) := by
  have hlist : ∀ {keyword : String} {bs : List (Branch Json Sketch)} {b : Branch Json Sketch},
      Sketch.holds keyword = .list →
      facetAt (branchesAt sketch) keyword members = .given bs → b ∈ bs → b.test = some c →
      c ∈ Sketch.inside (.object members) := by
    intro keyword bs b hkeyword h hb hc
    obtain ⟨v, hv, hread⟩ := facetAt_eq_given.mp h
    obtain ⟨items, hitems, rfl⟩ := Option.map_eq_some_iff.mp hread
    obtain ⟨d, hd, rfl⟩ := List.mem_map.mp hb
    cases hc
    exact Sketch.mem_inside_of_asArray? (Or.inl hkeyword) hv hitems hd
  cases h with
  | anyOf h hb hc => exact hlist rfl h hb hc
  | oneOf h hb hc => exact hlist rfl h hb hc

/-! ## §3  The shape of an outline -/

/-- Forms that have no parts. -/
def IsPlain : Sketch → Prop
  | .any | .null | .boolean | .integer | .number | .string => True
  | _ => False

section Every

variable {P : Sketch → Prop} {o : Outline}

theorem every_of_isPlain (hplain : ∀ s, IsPlain s → P s) {s : Sketch} (hs : IsPlain s) :
    s.Every P := by
  refine .intro (hplain s hs) fun t ht => ?_
  cases s <;> first | exact False.elim hs | cases ht

theorem every_objectShape (hobject : P o.objectShape) (hhas : ∀ s, o.Has s → s.Every P) :
    o.objectShape.Every P := by
  refine .intro hobject fun t ht => ?_
  simp only [objectShape, Shape.parts, List.mem_append, List.mem_map] at ht
  rcases ht with (⟨p, hp, rfl⟩ | ⟨p, hp, rfl⟩) | ht
  · cases hproperties : o.properties with
    | given ps =>
        exact hhas _ (.property hproperties (by simpa [hproperties, Facet.value?] using hp))
    | _ => simp [hproperties, Facet.value?] at hp
  · obtain ⟨q, hq, hread⟩ := List.mem_filterMap.mp hp
    obtain ⟨pattern, -, rfl⟩ := Option.map_eq_some_iff.mp hread
    cases hpatterns : o.patternProperties with
    | given ps => exact hhas _ (.pattern hpatterns (by simpa [hpatterns, Facet.value?] using hq))
    | _ => simp [hpatterns, Facet.value?] at hq
  · cases hothers : o.additionalProperties with
    | given others =>
        cases others with
        | shaped s =>
            have hs : t = s := by
              simpa [hothers, Facet.value?, Others.shapes] using ht
            exact hs ▸ hhas s (.others hothers)
        | _ => simp [hothers, Facet.value?, Others.shapes] at ht
    | _ => simp [hothers, Facet.value?, Others.shapes] at ht

theorem every_array (harray : ∀ front rest, P (.array front rest)) {front : List Sketch}
    {rest : Sketch} (hfront : ∀ s ∈ front, s.Every P) (hrest : rest.Every P) :
    Shape.Every P (.array front rest) := by
  refine .intro (harray front rest) fun t ht => ?_
  rcases List.mem_append.mp ht with ht | ht
  · exact hfront t ht
  · exact List.mem_singleton.mp ht ▸ hrest

/-- `prefixItems` go before the front that `items` gives. -/
theorem every_front (hhas : ∀ s, o.Has s → s.Every P) {shapes : List Sketch}
    (hshapes : ∀ s ∈ shapes, s.Every P) : ∀ s ∈ o.prefixItems.value?.getD shapes, s.Every P := by
  intro s hs
  cases hgiven : o.prefixItems with
  | given ss => exact hhas s (.front hgiven (by simpa [hgiven, Facet.value?] using hs))
  | _ => exact hshapes s (by simpa [hgiven, Facet.value?] using hs)

theorem every_arrayShape (hany : Shape.Every P .any) (harray : ∀ front rest, P (.array front rest))
    (hhas : ∀ s, o.Has s → s.Every P) : o.arrayShape.Every P := by
  have hnone : ∀ s ∈ ([] : List Sketch), s.Every P := fun _ h => by cases h
  unfold arrayShape
  cases hitems : o.items with
  | given items =>
      cases items with
      | each s => exact every_array harray (every_front hhas hnone) (hhas s (.each hitems))
      | listed ss =>
          refine every_array harray
            (every_front hhas fun s hs => hhas s (.listed hitems hs)) ?_
          cases hadditional : o.additionalItems with
          | given s => exact hhas s (.additional hadditional)
          | _ => exact hany
  | _ => exact every_array harray (every_front hhas hnone) hany

theorem every_union {T : Json → Prop}
    (hunion : ∀ branches, (∀ b ∈ branches, ∀ c, b.test = some c → T c) → P (.union branches))
    {branches : List (Branch Json Sketch)} (htests : ∀ b ∈ branches, ∀ c, b.test = some c → T c)
    (hbranches : ∀ b ∈ branches, b.shape.Every P) : Shape.Every P (.union branches) := by
  refine .intro (hunion branches htests) fun t ht => ?_
  obtain ⟨b, hb, rfl⟩ := List.mem_map.mp ht
  exact hbranches b hb

theorem every_typedShape (hplain : ∀ s, IsPlain s → P s) (hobject : o.objectShape.Every P)
    (harray : o.arrayShape.Every P) (name : String) : (o.typedShape name).Every P := by
  unfold typedShape
  split
  case h_6 => exact hobject
  case h_7 => exact harray
  all_goals exact every_of_isPlain hplain trivial

theorem every_hintedShape (hany : Shape.Every P .any) (hobject : o.objectShape.Every P)
    (harray : o.arrayShape.Every P) : o.hintedShape.Every P := by
  unfold hintedShape
  split
  · exact hobject
  · split
    · exact harray
    · exact hany

theorem every_kindShape (htyped : ∀ name, (o.typedShape name).Every P)
    (hhinted : o.hintedShape.Every P)
    (hunion : ∀ branches, (∀ b ∈ branches, ∀ c, b.test = some c → o.Tests c) →
      P (.union branches)) :
    o.kindShape.Every P := by
  unfold kindShape
  split
  · exact htyped _
  · exact htyped _
  · refine every_union hunion (fun b hb c hc => ?_) fun b hb => ?_
    · obtain ⟨name, -, rfl⟩ := List.mem_map.mp hb
      cases hc
    · obtain ⟨name, -, rfl⟩ := List.mem_map.mp hb
      exact htyped name
  · exact hhinted

/-- **A property of all shapes inside passes to the shape of an outline.** -/
theorem every_shape (hplain : ∀ s, IsPlain s → P s) (hobject : P o.objectShape)
    (harray : ∀ front rest, P (.array front rest))
    (hunion : ∀ branches, (∀ b ∈ branches, ∀ c, b.test = some c → o.Tests c) →
      P (.union branches)) (hhas : ∀ s, o.Has s → s.Every P) :
    o.shape.Every P := by
  have hany : Shape.Every P .any := every_of_isPlain hplain trivial
  have hobjectEvery := every_objectShape hobject hhas
  have harrayEvery := every_arrayShape hany harray hhas
  have hkind := every_kindShape (every_typedShape hplain hobjectEvery harrayEvery)
    (every_hintedShape hany hobjectEvery harrayEvery) hunion
  unfold shape
  split
  · next bs h =>
      exact every_union hunion (fun b hb c hc => .anyOf h hb hc) fun b hb => hhas _ (.anyOf h hb)
  · next bs h _ =>
      exact every_union hunion (fun b hb c hc => .oneOf h hb hc) fun b hb => hhas _ (.oneOf h hb)
  · exact hkind

end Every

/-! ## §4  Properties of single forms -/

/-- Whether all forms that an outline holds have a property, and all its tests another one. -/
structure HoldsEvery (P : Sketch → Prop) (T : Json → Prop) (o : Outline) : Prop where
  has : ∀ x, o.Has x → x.Every P
  tests : ∀ c, o.Tests c → T c

variable {P : Sketch → Prop} {T : Json → Prop} {o part : Outline}

theorem HoldsEvery.merge (h : o.HoldsEvery P T) (hpart : part.HoldsEvery P T) :
    (o.merge part).HoldsEvery P T :=
  ⟨fun x hx => (has_merge hx).elim (h.has x) (hpart.has x),
    fun c hc => (tests_merge hc).elim (h.tests c) (hpart.tests c)⟩

theorem HoldsEvery.bare (h : o.HoldsEvery P T) :
    ({ o with nullable := .absent } : Outline).HoldsEvery P T :=
  ⟨fun x hx => h.has x (has_bare hx), fun c hc => h.tests c (tests_bare hc)⟩

end Outline

namespace Sketch

open Schema (reference?)

/-- What is to be known of single forms, where `C` holds of the schemas that are sketched and `T` of
those that tell alternatives apart. -/
structure FollowsForms (C T : Json → Prop) (P : Sketch → Prop) : Prop where
  plain : ∀ x : Sketch, x.form ≠ .reference → x.form ≠ .union → x.form ≠ .nullable → P x
  reference : ∀ v r, C v → reference? v = some r → P (.reference (.ok r))
  union : ∀ bs, (∀ b ∈ bs, ∀ c, b.test = some c → T c) → P (.union bs)
  nullable : ∀ x, (∀ r, x ≠ .reference (.ok r)) → P (.nullable x)
  inside : ∀ v c, C v → c ∈ inside v → C c ∧ T c
  part : ∀ v part, C v → part ∈ partsOf v.members → C part

/-- Whether parts that are made ready are outlines of such forms, and their errors are such
references. -/
def MakesForms (ready : Ready) (C T : Json → Prop) (P : Sketch → Prop) : Prop :=
  ∀ make, ready = some make → ∀ members, C (.object members) → (Json.object members).IsSound →
    (∀ e, make (partsOf members) = .error e → P (.reference (.error e))) ∧
      ∀ ls, make (partsOf members) = .ok ls →
        ∀ l ∈ ls, l.Every (Outline.HoldsEvery P T) (Fails (Shape.Every P))

variable {ready : Ready} {C T : Json → Prop} {P : Sketch → Prop}

/-- **A property of single forms holds throughout the sketch of a sound schema.** -/
theorem FollowsForms.follows (f : FollowsForms C T P) (hmade : MakesForms ready C T P) :
    Follows ready (fun v => C v ∧ v.IsSound) (fun v => C v ∧ v.IsSound)
      (fun v => C v ∧ v.IsSound) (Outline.HoldsEvery P T) (Outline.HoldsEvery P T)
      (Shape.Every P) := by
  have hleaf : ∀ x : Sketch, x.parts = [] → P x → x.Every P := by
    intro x hparts hx
    refine .intro hx fun t ht => ?_
    rw [hparts] at ht
    cases ht
  have houtline : ∀ members, C (.object members) ∧ (Json.object members).IsSound →
      (∀ c ∈ Sketch.inside (.object members), C c ∧ c.IsSound → (sketch ready c).Every P) →
      Outline.HoldsEvery P T (.ofSchema (sketch ready) members) := by
    intro members h ih
    refine ⟨fun x hx => ?_, fun c hc => (f.inside _ c h.1 (Outline.tests_ofSchema hc)).2⟩
    obtain ⟨c, hc, rfl⟩ := Outline.has_ofSchema hx
    exact ih c hc ⟨(f.inside _ c h.1 hc).1, every_of_mem_inside h.2 hc⟩
  exact {
    data := fun _ _ _ => hleaf _ rfl (f.plain _ nofun nofun nofun)
    reference := fun v r h hr => hleaf _ rfl (f.reference v r h.1 hr)
    error := fun make hready members h e he => by
      obtain ⟨hmembers, hsound⟩ := h.elim id id
      exact hleaf _ rfl ((hmade make hready members hmembers hsound).1 e he)
    own := fun _ h _ => Or.inl h
    nodup := fun _ h => (h.elim id id).2.nodup
    outline := houtline
    outlinePart := houtline
    merge := fun _ _ ho hpart => ho.merge hpart
    bare := fun _ ho => ho.bare
    shape := fun o ho => by
      refine Outline.every_shape (fun x hx => ?_) (f.plain _ nofun nofun nofun)
        (fun _ _ => f.plain _ nofun nofun nofun)
        (fun bs htests => f.union bs fun b hb c hc => ho.tests c (htests b hb c hc)) ho.has
      cases x <;> first | exact hx.elim | exact f.plain _ nofun nofun nofun
    const := fun _ _ _ _ => hleaf _ rfl (f.plain _ nofun nofun nofun)
    nullable := fun _ x _ _ hne hx =>
      .intro (f.nullable x hne) fun t ht => List.mem_singleton.mp ht ▸ hx
    part := fun _ members h part hpart _ =>
      ⟨f.part _ part (h.elim id id).1 hpart, every_of_mem_partsOf (h.elim id id).2 hpart⟩
    made := fun make hready members h => by
      obtain ⟨hmembers, hsound⟩ := h.elim id id
      exact (hmade make hready members hmembers hsound).2 }

end Sketch

end ReplySchema.Serializer

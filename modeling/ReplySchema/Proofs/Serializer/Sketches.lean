import ReplySchema.Proofs.Schema.Occurrences
import ReplySchema.Proofs.Serializer.Keywords
import ReplySchema.Proofs.Serializer.Links

/-! # Induction on the making of a sketch

A sketch is made of outlines: that of the schema itself and those of the parts of `allOf`,
which are laid over it layer by layer.  To show something of every sketch it is enough to
say what is to hold of schemas, of outlines and of sketches, and that the steps lead from
one to the other.  `Follows` lists the steps, and `Follows.sketch` is the induction, over
the size of the schema.
-/

set_option autoImplicit false

namespace ReplySchema.Serializer

open Schema (reference? Holds held heldUnder)

/-! ## §1  What comes before everything else -/

namespace Outline

/-- The value that an outline fixes, else what it is inside. -/
def fixed (inner : Outline → Sketch) (o : Outline) : Sketch :=
  match o.const with
  | .given v => .const v
  | _ => inner o

theorem guarded_eq (o : Outline) (inner : Outline → Sketch) :
    o.guarded inner =
      match o.nullable with
      | .given _ => .nullable (fixed inner { o with nullable := .absent })
      | _ => fixed inner o := by
  rfl

theorem form_shape_ne_reference (o : Outline) : o.shape.form ≠ .reference := by
  have htyped : ∀ name, (o.typedShape name).form ≠ .reference := by
    intro name
    unfold Outline.typedShape Outline.objectShape Outline.arrayShape
    split
    case h_7 =>
      split
      all_goals exact Shape.Form.noConfusion
    all_goals exact Shape.Form.noConfusion
  have hhinted : o.hintedShape.form ≠ .reference := by
    unfold Outline.hintedShape
    split
    · exact htyped "object"
    · split
      · exact htyped "array"
      · exact htyped ""
  have hkind : o.kindShape.form ≠ .reference := by
    unfold Outline.kindShape
    split
    · exact htyped _
    · exact htyped _
    · exact Shape.Form.noConfusion
    · exact hhinted
  unfold Outline.shape
  split
  · exact Shape.Form.noConfusion
  · exact Shape.Form.noConfusion
  · exact hkind

variable {inner : Outline → Sketch} {r : String}

theorem fixed_ne_reference (hinner : ∀ o, inner o ≠ .reference (.ok r)) (o : Outline) :
    o.fixed inner ≠ .reference (.ok r) := by
  unfold fixed
  split
  · exact fun h => by cases h
  · exact hinner o

theorem guarded_ne_reference (hinner : ∀ o, inner o ≠ .reference (.ok r)) (o : Outline) :
    o.guarded inner ≠ .reference (.ok r) := by
  rw [guarded_eq]
  split
  · exact fun h => by cases h
  · exact fixed_ne_reference hinner o

end Outline

/-! ## §2  Layers -/

namespace Layered

/-- Whether a property holds of an outline and of all outlines that are to be laid over it, and
another one of the errors of parts that could not be had. -/
inductive Every (Φ : Outline → Prop) (E : SchemaError → Prop) : Layered → Prop where
  | plain {o : Outline} (h : Φ o) : Every Φ E (.plain o)
  | blocked {o : Outline} (h : Φ o) : Every Φ E (.blocked o)
  | failed {o : Outline} {e : SchemaError} (h : Φ o) (he : E e) : Every Φ E (.failed o e)
  | composed {o : Outline} {parts : List Layered} (h : Φ o) (hparts : ∀ l ∈ parts, Every Φ E l) :
      Every Φ E (.composed o parts)

/-- Whether a property holds of all outlines of a layer, or one of errors if there is none. -/
def LayerHas (Φ : Outline → Prop) (E : SchemaError → Prop) :
    Except SchemaError (List Outline) → Prop
  | .ok parts => ∀ p ∈ parts, Φ p
  | .error e => E e

variable {Φ : Outline → Prop} {E : SchemaError → Prop}

theorem Every.own {l : Layered} (h : l.Every Φ E) : Φ l.own := by
  cases h <;> assumption

theorem layersOfFirst_cases : ∀ parts : List Layered,
    layersOfFirst parts = [] ∨ ∃ l ∈ parts, layersOfFirst parts = l.layers
  | [] => Or.inl (by rw [layersOfFirst])
  | plain o :: rest => by
      rw [layersOfFirst]
      exact (layersOfFirst_cases rest).imp_right fun ⟨l, hl, heq⟩ =>
        ⟨l, List.mem_cons_of_mem _ hl, heq⟩
  | blocked o :: rest => Or.inr ⟨_, List.mem_cons_self, by simp [layersOfFirst]⟩
  | failed o e :: rest => Or.inr ⟨_, List.mem_cons_self, by simp [layersOfFirst]⟩
  | composed o parts :: rest => Or.inr ⟨_, List.mem_cons_self, by simp [layersOfFirst]⟩

/-- The parts that are to be laid over. -/
def parts : Layered → List Layered
  | composed _ ls => ls
  | _ => []

theorem Every.of_parts {l : Layered} (hown : Φ l.own) (hfailed : ∀ o e, l = .failed o e → E e)
    (hparts : ∀ p ∈ l.parts, p.Every Φ E) : l.Every Φ E := by
  cases l with
  | plain o => exact .plain hown
  | blocked o => exact .blocked hown
  | failed o e => exact .failed hown (hfailed o e rfl)
  | composed o ls => exact .composed hown hparts

/-- Every outline of every layer is one of those that are to be laid over. -/
theorem Every.layers {l : Layered} (h : l.Every Φ E) : ∀ layer ∈ l.layers, LayerHas Φ E layer := by
  induction h with
  | plain h =>
      intro layer hmem
      rw [Layered.layers] at hmem
      cases hmem
  | blocked h =>
      intro layer hmem
      rw [Layered.layers] at hmem
      cases hmem
  | failed h he =>
      intro layer hmem
      rw [Layered.layers, List.mem_singleton] at hmem
      exact hmem ▸ he
  | @composed o inner h hparts ih =>
      intro layer hmem
      rw [Layered.layers] at hmem
      rcases List.mem_cons.mp hmem with rfl | hmem
      · intro p hp
        obtain ⟨l, hl, rfl⟩ := List.mem_map.mp hp
        exact (hparts l hl).own
      · rcases layersOfFirst_cases inner with hnone | ⟨l, hl, heq⟩
        · rw [hnone] at hmem
          cases hmem
        · rw [heq] at hmem
          exact ih l hl layer hmem

theorem layers_of_parts {l : Layered} (h : ∀ p ∈ l.parts, p.Every Φ E)
    (hfailed : ∀ o e, l = .failed o e → E e) : ∀ layer ∈ l.layers, LayerHas Φ E layer := by
  cases l with
  | composed o ls =>
      intro layer hmem
      rw [Layered.layers] at hmem
      rcases List.mem_cons.mp hmem with rfl | hmem
      · intro p hp
        obtain ⟨l, hl, rfl⟩ := List.mem_map.mp hp
        exact (h l hl).own
      · rcases layersOfFirst_cases ls with hnone | ⟨l, hl, heq⟩
        · rw [hnone] at hmem
          cases hmem
        · rw [heq] at hmem
          exact (h l hl).layers layer hmem
  | failed o e =>
      intro layer hmem
      rw [Layered.layers, List.mem_singleton] at hmem
      exact hmem ▸ hfailed o e rfl
  | _ =>
      intro layer hmem
      rw [Layered.layers] at hmem
      cases hmem

end Layered

theorem Layered.shapeOver_ne_reference {r : String} :
    ∀ (layers : List (Except SchemaError (List Outline))) (o : Outline),
      shapeOver o layers ≠ .reference (.ok r)
  | [], o => Outline.guarded_ne_reference (fun o h => o.form_shape_ne_reference (by rw [h]; rfl)) o
  | .error _ :: _, o => Outline.guarded_ne_reference (fun _ h => by cases h) o
  | .ok _ :: rest, o => Outline.guarded_ne_reference (fun _ => shapeOver_ne_reference rest _) o

/-! ## §3  Inner schemas -/

namespace Sketch

/-- The schemas that the sketch looks at under a keyword. -/
def insideKeyword (key : String) (value : Json) : List Json :=
  match holds key, value with
  | .schema, v => [v]
  | .named, .object entries => entries.map (·.2)
  | .list, .array items => items
  | .either, .array items => items
  | .either, v => [v]
  | _, _ => []

/-- The schemas that the sketch of a schema looks at, the parts of `allOf` aside. -/
def inside (schema : Json) : List Json :=
  schema.members.flatMap fun m => insideKeyword m.1 m.2

theorem mem_inside {members : List (String × Json)} {key : String} {value c : Json}
    (hfind : Table.find? key members = some value) (hc : c ∈ insideKeyword key value) :
    c ∈ inside (.object members) :=
  List.mem_flatMap.mpr ⟨(key, value), Table.find?_mem hfind, hc⟩

theorem mem_inside_of_asArray? {key : String} (hkey : holds key = .list ∨ holds key = .either)
    {members : List (String × Json)} {value : Json} {items : List Json}
    (hfind : Table.find? key members = some value) (hitems : value.asArray? = some items) {c : Json}
    (hc : c ∈ items) : c ∈ inside (.object members) := by
  cases value with
  | array xs =>
      cases hitems
      refine mem_inside hfind ?_
      rcases hkey with hkey | hkey <;> simpa only [insideKeyword, hkey] using hc
  | _ => cases hitems

theorem mem_inside_of_asObject? {key : String} (hkey : holds key = .named)
    {members : List (String × Json)} {value : Json} {entries : List (String × Json)}
    (hfind : Table.find? key members = some value) (hentries : value.asObject? = some entries)
    {e : String × Json} (he : e ∈ entries) : e.2 ∈ inside (.object members) := by
  cases value with
  | object es =>
      cases hentries
      refine mem_inside hfind ?_
      simp only [insideKeyword, hkey]
      exact List.mem_map_of_mem he
  | _ => cases hentries

theorem mem_inside_of_isObject {key : String} (hkey : holds key = .schema ∨ holds key = .either)
    {members : List (String × Json)} {value : Json}
    (hfind : Table.find? key members = some value) (hobject : value.isObject = true) :
    value ∈ inside (.object members) := by
  cases value with
  | object es =>
      refine mem_inside hfind ?_
      rcases hkey with hkey | hkey <;> simp only [insideKeyword, hkey, List.mem_singleton]
  | _ => cases hobject

theorem holds_eq (key : String) : holds key = .data ∨ holds key = Schema.holds key := by
  by_cases hkey : key ∈ ["additionalProperties", "additionalItems", "properties",
      "patternProperties", "anyOf", "oneOf", "prefixItems", "items"]
  · simp only [List.mem_cons, List.not_mem_nil, or_false] at hkey
    rcases hkey with rfl | rfl | rfl | rfl | rfl | rfl | rfl | rfl <;> exact Or.inr (by decide)
  · simp only [List.mem_cons, List.not_mem_nil, or_false, not_or] at hkey
    exact Or.inl (by simp [holds, hkey])

theorem heldUnder_of_mem_insideKeyword {key : String} {value c : Json}
    (h : c ∈ insideKeyword key value) : c ∈ heldUnder key value := by
  unfold insideKeyword at h
  rcases holds_eq key with hkey | hkey
  · simp only [hkey] at h
    cases h
  · rw [hkey] at h
    exact h

theorem held_of_mem_inside {v c : Json} (h : c ∈ inside v) : c ∈ held v := by
  obtain ⟨m, hm, hc⟩ := List.mem_flatMap.mp h
  exact Schema.mem_held hm (heldUnder_of_mem_insideKeyword hc)

theorem sizeOf_lt_of_mem_inside {members : List (String × Json)} {c : Json}
    (h : c ∈ inside (.object members)) : sizeOf c < sizeOf (Json.object members) :=
  Schema.sizeOf_lt_of_held (held_of_mem_inside h)

def partsOf (members : List (String × Json)) : List Json :=
  ((Table.find? "allOf" members).bind Json.asArray?).getD []

theorem held_of_mem_partsOf {v part : Json} (h : part ∈ partsOf v.members) : part ∈ held v := by
  have hholds : Schema.holds "allOf" = .list := by decide
  unfold partsOf at h
  cases hfind : Table.find? "allOf" v.members with
  | none => simp [hfind] at h
  | some value =>
      cases value with
      | array items =>
          simp only [hfind, Option.bind_some, Json.asArray?, Option.getD_some] at h
          refine Schema.mem_held (Table.find?_mem hfind) ?_
          simpa only [heldUnder, hholds] using h
      | _ => simp [hfind, Json.asArray?] at h

theorem sizeOf_lt_of_mem_partsOf {members : List (String × Json)} {part : Json}
    (h : part ∈ partsOf members) : sizeOf part < sizeOf (Json.object members) :=
  Schema.sizeOf_lt_of_held (held_of_mem_partsOf (v := .object members) h)

theorem every_of_mem_inside {number : Number → Prop} {names : List String → Prop}
    {schema c : Json} (h : schema.Every number names) (hc : c ∈ inside schema) :
    c.Every number names :=
  Schema.every_of_held (held_of_mem_inside hc) h

theorem every_of_mem_partsOf {number : Number → Prop} {names : List String → Prop}
    {members : List (String × Json)} {part : Json} (h : (Json.object members).Every number names)
    (hpart : part ∈ partsOf members) : part.Every number names :=
  Schema.every_of_held (held_of_mem_partsOf (v := .object members) hpart) h

/-! ## §4  The induction -/

theorem withParts_eq (ready : Ready) (o : Outline) (members : List (String × Json)) :
    withParts ready o members =
      match Table.find? "allOf" members with
      | none => .plain o
      | some (.array parts) =>
          match ready with
          | none => .composed o (layeredList ready parts)
          | some make =>
              match make parts with
              | .ok ls => .composed o ls
              | .error e => .failed o e
      | some _ => .blocked o := by
  induction members with
  | nil => rw [withParts, Table.find?]
  | cons m rest ih =>
      obtain ⟨key, value⟩ := m
      rw [withParts.eq_def, Table.find?_cons]
      by_cases hkey : key = "allOf"
      · simp only [if_pos hkey]
        cases value with
        | array parts => cases ready <;> rfl
        | _ => rfl
      · simp only [if_neg hkey]
        exact ih

/-- The layers of a schema: those of the listed parts, if `allOf` lists some. -/
theorem withParts_cases (ready : Ready) (o : Outline) (members : List (String × Json)) :
    withParts ready o members = .plain o ∨ withParts ready o members = .blocked o ∨
      (ready = none ∧ withParts ready o members =
        .composed o (layeredList ready (partsOf members))) ∨
      ∃ make, ready = some make ∧
        ((∃ ls, make (partsOf members) = .ok ls ∧ withParts ready o members = .composed o ls) ∨
          ∃ e, make (partsOf members) = .error e ∧ withParts ready o members = .failed o e) := by
  rw [withParts_eq]
  unfold partsOf
  cases Table.find? "allOf" members with
  | none => exact Or.inl rfl
  | some value =>
      cases value with
      | array parts =>
          cases ready with
          | none => exact Or.inr (Or.inr (Or.inl ⟨rfl, rfl⟩))
          | some make =>
              refine Or.inr (Or.inr (Or.inr ⟨make, rfl, ?_⟩))
              change (∃ ls, make parts = .ok ls ∧ _) ∨ ∃ e, make parts = .error e ∧ _
              cases hmake : make parts with
              | ok ls => exact Or.inl ⟨ls, rfl, by simp only [hmake]⟩
              | error e => exact Or.inr ⟨e, rfl, by simp only [hmake]⟩
      | _ => exact Or.inr (Or.inl rfl)

theorem mem_layeredList {ready : Ready} {parts : List Json} {l : Layered}
    (h : l ∈ layeredList ready parts) : ∃ part ∈ parts, layered? ready part = some l := by
  induction parts with
  | nil =>
      rw [layeredList] at h
      cases h
  | cons part rest ih =>
      rw [layeredList] at h
      rcases List.mem_append.mp h with h | h
      · exact ⟨part, List.mem_cons_self, Option.mem_toList.mp h⟩
      · obtain ⟨p, hp, heq⟩ := ih h
        exact ⟨p, List.mem_cons_of_mem _ hp, heq⟩

/-- Whether the sketch of a schema whose parts cannot be had has a property. -/
abbrev Fails (G : Sketch → Prop) (e : SchemaError) : Prop := G (.reference (.error e))

/-- The steps by which a property of schemas leads to one of outlines and one of sketches.  `H` is
what is known of a schema that is sketched, `K` of one whose own members make an outline, and `L` of
a part that is laid over it; `Φ` and `Ψ` are what holds of the two outlines. -/
structure Follows (ready : Ready) (H K L : Json → Prop) (Φ Ψ : Outline → Prop) (G : Sketch → Prop) :
    Prop where
  data : ∀ v, H v → v.isObject = false → G .any
  reference : ∀ schema r, H schema → reference? schema = some r → G (.reference (.ok r))
  /-- A schema whose parts cannot be had. -/
  error : ∀ make, ready = some make → ∀ members, K (.object members) ∨ L (.object members) →
    ∀ e, make (partsOf members) = .error e → Fails G e
  /-- A schema that is no reference has an outline, if its sketch is not known by other means. -/
  own : ∀ members, H (.object members) → reference? (.object members) = none →
    K (.object members) ∨ G (sketch ready (.object members))
  nodup : ∀ members, K (.object members) ∨ L (.object members) → (Table.keys members).Nodup
  /-- The outline of a schema, its inner schemas sketched. -/
  outline : ∀ members, K (.object members) →
    (∀ c ∈ inside (.object members), H c → G (sketch ready c)) →
    Φ (.ofSchema (sketch ready) members)
  outlinePart : ∀ members, L (.object members) →
    (∀ c ∈ inside (.object members), H c → G (sketch ready c)) →
    Ψ (.ofSchema (sketch ready) members)
  merge : ∀ o part, Φ o → Ψ part → Φ (o.merge part)
  bare : ∀ o, Φ o → Φ { o with nullable := .absent }
  shape : ∀ o, Φ o → G o.shape
  const : ∀ o v, Φ o → o.const = .given v → G (.const v)
  /-- What may be null is no reference. -/
  nullable : ∀ o s, Φ o → o.nullable = .given () → (∀ r, s ≠ .reference (.ok r)) → G s →
    G (.nullable s)
  /-- A part that is taken as it is. -/
  part : ready = none → ∀ members, K (.object members) ∨ L (.object members) →
    ∀ part ∈ partsOf members, part.isObject = true → L part
  /-- A part that is made ready. -/
  made : ∀ make, ready = some make → ∀ members, K (.object members) ∨ L (.object members) →
    ∀ ls, make (partsOf members) = .ok ls → ∀ l ∈ ls, l.Every Ψ (Fails G)

namespace Follows

variable {ready : Ready} {H K L : Json → Prop} {Φ Ψ : Outline → Prop} {G : Sketch → Prop}

theorem guarded (f : Follows ready H K L Φ Ψ G) {o : Outline} (ho : Φ o)
    {inner : Outline → Sketch} (hinner : ∀ o, Φ o → G (inner o))
    (hne : ∀ o r, inner o ≠ .reference (.ok r)) : G (o.guarded inner) := by
  have hfixed : ∀ o, Φ o → G (o.fixed inner) := by
    intro o ho
    unfold Outline.fixed
    split
    · next v hv => exact f.const o v ho hv
    · exact hinner o ho
  rw [Outline.guarded_eq]
  split
  · next hnullable =>
      exact f.nullable o _ ho hnullable (fun r => Outline.fixed_ne_reference (hne · r) _)
        (hfixed _ (f.bare o ho))
  · exact hfixed o ho

theorem foldl_merge (f : Follows ready H K L Φ Ψ G) {parts : List Outline}
    (hparts : ∀ p ∈ parts, Ψ p) : ∀ {o : Outline}, Φ o → Φ (parts.foldl Outline.merge o) := by
  induction parts with
  | nil => exact fun ho => ho
  | cons p rest ih =>
      intro o ho
      exact ih (fun q hq => hparts q (List.mem_cons_of_mem _ hq))
        (f.merge o p ho (hparts p List.mem_cons_self))

theorem shapeOver (f : Follows ready H K L Φ Ψ G) :
    ∀ {layers : List (Except SchemaError (List Outline))},
      (∀ layer ∈ layers, Layered.LayerHas Ψ (Fails G) layer) →
      ∀ {o : Outline}, Φ o → G (Layered.shapeOver o layers)
  | [], _, o, ho => f.guarded ho f.shape fun o r h => o.form_shape_ne_reference (by rw [h]; rfl)
  | .error e :: _, hlayers, o, ho =>
      f.guarded ho (fun _ _ => hlayers (.error e) List.mem_cons_self) fun _ _ h => by cases h
  | .ok parts :: rest, hlayers, o, ho => by
      refine f.guarded ho (fun o ho => ?_) fun _ _ => Layered.shapeOver_ne_reference rest _
      refine f.shapeOver (fun layer hlayer => hlayers layer (List.mem_cons_of_mem _ hlayer)) ?_
      exact f.foldl_merge (hlayers (.ok parts) List.mem_cons_self) ho

theorem withParts (f : Follows ready H K L Φ Ψ G) {members : List (String × Json)}
    (hmembers : K (.object members) ∨ L (.object members))
    (hlayered : ∀ part ∈ partsOf members, L part → ∀ l,
      layered? ready part = some l → l.Every Ψ (Fails G)) (o : Outline) :
    (∀ l ∈ (Sketch.withParts ready o members).parts, l.Every Ψ (Fails G)) ∧
      (Sketch.withParts ready o members).own = o ∧
      ∀ o' e, Sketch.withParts ready o members = .failed o' e → Fails G e := by
  rcases withParts_cases ready o members with
    h | h | ⟨hready, h⟩ | ⟨make, hready, ⟨ls, hmake, h⟩ | ⟨e, hmake, h⟩⟩
  · rw [h]
    exact ⟨fun _ hl => (by cases hl), rfl, fun _ _ heq => (by cases heq)⟩
  · rw [h]
    exact ⟨fun _ hl => (by cases hl), rfl, fun _ _ heq => (by cases heq)⟩
  · rw [h]
    refine ⟨fun l hl => ?_, rfl, fun _ _ heq => (by cases heq)⟩
    obtain ⟨part, hpart, hsome⟩ := mem_layeredList hl
    have hobject : part.isObject = true := by
      cases part with
      | object ms => rfl
      | _ => cases hsome
    exact hlayered part hpart (f.part hready members hmembers part hpart hobject) l hsome
  · rw [h]
    exact ⟨f.made make hready members hmembers ls hmake, rfl, fun _ _ heq => (by cases heq)⟩
  · rw [h]
    refine ⟨fun _ hl => (by cases hl), rfl, fun _ _ heq => ?_⟩
    cases heq
    exact f.error make hready members hmembers e hmake

theorem sketch_layered (f : Follows ready H K L Φ Ψ G) : ∀ {schema : Json},
    (H schema → G (Sketch.sketch ready schema)) ∧
      (L schema → ∀ l, layered? ready schema = some l → l.Every Ψ (Fails G)) := by
  intro schema
  -- Induction on the size: the sketch asks for the schemas inside, an outline for those in its
  -- parts.
  induction hsize : sizeOf schema using Nat.strongRecOn generalizing schema with
  | _ n ih =>
      subst hsize
      cases schema with
      | object members =>
          have hinside : ∀ c ∈ inside (.object members), H c → G (Sketch.sketch ready c) :=
            fun c hc => (ih (sizeOf c) (sizeOf_lt_of_mem_inside hc) rfl).1
          have hlayered : ∀ part ∈ partsOf members, L part → ∀ l,
              layered? ready part = some l → l.Every Ψ (Fails G) := fun part hpart =>
            (ih (sizeOf part) (sizeOf_lt_of_mem_partsOf hpart) rfl).2
          refine ⟨fun hH => ?_, fun hL l hl => ?_⟩
          · rw [Sketch.sketch]
            cases href : reference? (.object members) with
            | some r => exact f.reference _ r hH href
            | none =>
                rcases f.own members hH href with hK | hG
                · rw [Outline.ofMembers_inners ready (f.nodup members (Or.inl hK))]
                  obtain ⟨hparts, hown, hfailed⟩ := f.withParts (Or.inl hK) hlayered
                    (.ofSchema (Sketch.sketch ready) members)
                  refine f.shapeOver (Layered.layers_of_parts hparts hfailed) ?_
                  rw [hown]
                  exact f.outline members hK hinside
                · rwa [Sketch.sketch, href] at hG
          · rw [layered?] at hl
            obtain ⟨hparts, hown, hfailed⟩ := f.withParts (Or.inr hL) hlayered
              (.ofMembers (inners ready members))
            rw [← Option.some.inj hl]
            refine .of_parts ?_ hfailed hparts
            rw [hown, Outline.ofMembers_inners ready (f.nodup members (Or.inr hL))]
            exact f.outlinePart members hL hinside
      | _ =>
          refine ⟨fun hH => ?_, fun _ l hl => by rw [layered?] at hl <;> cases hl⟩
          rw [Sketch.sketch]
          · exact f.data _ hH rfl
          all_goals intro members h; cases h

/-- **What holds of a schema leads to its sketch.** -/
theorem sketch (f : Follows ready H K L Φ Ψ G) {schema : Json} (h : H schema) :
    G (Sketch.sketch ready schema) :=
  f.sketch_layered.1 h

/-- What holds of listed parts leads to their outlines. -/
theorem layeredList (f : Follows ready H K L Φ Ψ G) {parts : List Json}
    (h : ∀ part ∈ parts, part.isObject = true → L part) :
    ∀ l ∈ Sketch.layeredList ready parts, l.Every Ψ (Fails G) := by
  intro l hl
  obtain ⟨part, hpart, hlayered⟩ := mem_layeredList hl
  have hobject : part.isObject = true := by
    cases part with
    | object members => rfl
    | _ => cases hlayered
  exact f.sketch_layered.2 (h part hpart hobject) l hlayered

end Follows

/-! ## §5  Bundled parts -/

section

variable {bundle : Json → Except SchemaError Json}

/-- How parts are bundled: as they stand then, or with the parts inside them bundled in their
turn. -/
theorem bundled_eq_ok {room : Nat} {parts : List Json} {ls : List Layered}
    (h : bundled bundle room parts = .ok ls) : ∃ parts', parts.mapM bundle = .ok parts' ∧
      ((∀ part ∈ parts', Schema.isFinished part = true) ∧ ls = Sketch.layeredList none parts' ∨
        ∃ less, room = less + 1 ∧
          ls = Sketch.layeredList (some (bundled bundle less)) parts') := by
  unfold bundled at h
  obtain ⟨parts', hparts, h⟩ := Result.bind_eq_ok.mp h
  refine ⟨parts', hparts, ?_⟩
  split at h
  · next hfinished =>
      rw [Result.pure_eq_ok] at h
      exact Or.inl ⟨List.all_eq_true.mp hfinished, h.symm⟩
  · cases room with
    | zero => cases h
    | succ less =>
        rw [Result.pure_eq_ok] at h
        exact Or.inr ⟨less, rfl, h.symm⟩

theorem bundled_of_isFinished {parts parts' : List Json} (hparts : parts.mapM bundle = .ok parts')
    (h : ∀ part ∈ parts', Schema.isFinished part = true) (room : Nat) :
    bundled bundle room parts = .ok (Sketch.layeredList none parts') := by
  unfold bundled
  rw [hparts]
  exact if_pos (List.all_eq_true.mpr h)

theorem bundled_nil (room : Nat) : bundled bundle room [] = .ok [] :=
  bundled_of_isFinished (show List.mapM bundle [] = .ok [] from rfl) (fun _ h => by cases h) room

/-- Otherwise the parts inside are bundled in their turn, as long as there is room. -/
theorem bundled_succ {parts parts' : List Json} (hparts : parts.mapM bundle = .ok parts')
    (room : Nat) : bundled bundle (room + 1) parts = .ok
      (if parts'.all Schema.isFinished then Sketch.layeredList none parts'
        else Sketch.layeredList (some (bundled bundle room)) parts') := by
  rw [bundled, hparts]
  exact (apply_ite Except.ok _ _ _).symm

/-- What bundled parts hold leads to their outlines, however often the parts inside are bundled:
`P` is what is known of parts before they are bundled, and `L` what is known of them then. -/
theorem every_bundled {P L : Json → Prop} {Ψ : Outline → Prop} {E : SchemaError → Prop}
    (hbundle : ∀ part j, P part → bundle part = .ok j → L j)
    (hlayered : ∀ ready : Ready,
      (∀ make, ready = some make → ∀ parts, (∀ part ∈ parts, P part) → ∀ ls,
        make parts = .ok ls → ∀ l ∈ ls, l.Every Ψ E) →
      ∀ parts, (∀ part ∈ parts, L part) → ∀ l ∈ Sketch.layeredList ready parts, l.Every Ψ E) :
    ∀ (room : Nat) {parts : List Json} {ls : List Layered}, (∀ part ∈ parts, P part) →
      bundled bundle room parts = .ok ls → ∀ l ∈ ls, l.Every Ψ E := by
  have hmade : ∀ {parts parts' : List Json}, (∀ part ∈ parts, P part) →
      parts.mapM bundle = .ok parts' → ∀ part ∈ parts', L part := fun hparts h j hj => by
    obtain ⟨part, hpart, hj⟩ := Result.mem_of_mapM_eq_ok h j hj
    exact hbundle part j (hparts part hpart) hj
  intro room
  induction room with
  | zero =>
      intro parts ls hparts h
      obtain ⟨parts', hmap, ⟨-, rfl⟩ | ⟨less, hless, -⟩⟩ := bundled_eq_ok h
      · exact hlayered none (fun _ h => by cases h) parts' (hmade hparts hmap)
      · cases hless
  | succ room ih =>
      intro parts ls hparts h
      obtain ⟨parts', hmap, ⟨-, rfl⟩ | ⟨less, hless, rfl⟩⟩ := bundled_eq_ok h
      · exact hlayered none (fun _ h => by cases h) parts' (hmade hparts hmap)
      · cases hless
        refine hlayered _ (fun make hmake parts hparts ls => ?_) parts' (hmade hparts hmap)
        cases hmake
        exact ih hparts

end

end Sketch

end ReplySchema.Serializer

import ReplySchema.Proofs.Serializer.Build
import ReplySchema.Proofs.Serializer.Output
import ReplySchema.Proofs.Serializer.Parts
import ReplySchema.Proofs.Serializer.Reach
import ReplySchema.Proofs.Serializer.Tidy

/-! # What a composed schema declares and requires

Outlines of objects that are laid one over the other add up: the result declares what any of them
declares, and requires what any of them requires (`names_foldl_merge`).  Laying layers over an
outline comes to the same, except that a `nullable` may be looked at in between
(`core_shapeOver`).  So the plan of a schema of objects has the names of all the schemas that
count for it, and of no others.

Those are not all that stand within it.  Of two parts in a layer that list parts of their own only
the first hands them on (`not_names_of_within`).

Main statement: `names_iff_counts`.
-/

set_option autoImplicit false

namespace ReplySchema.Serializer

open Schema (Key Source Target reference? referenceTo)

/-! ## §1  Outlines of objects add up -/

namespace Outline

theorem mem_names_addProperties {own more : List (Property Sketch)} {name : String} :
    name ∈ (addProperties own more).map (·.name) ↔
      name ∈ own.map (·.name) ∨ name ∈ more.map (·.name) := by
  unfold addProperties
  induction more generalizing own with
  | nil => simp
  | cons p rest ih =>
      rw [List.foldl_cons, ih, List.map_cons, List.mem_cons, ← or_assoc]
      refine or_congr_left ?_
      split
      · next hany =>
          obtain ⟨q, hq, hname⟩ := List.any_eq_true.mp hany
          refine ⟨Or.inl, fun h => h.elim id fun heq => ?_⟩
          rw [heq, ← beq_iff_eq.mp hname]
          exact List.mem_map_of_mem hq
      · rw [List.map_append, List.mem_append, List.map_singleton, List.mem_singleton]

theorem same_string {v : Json} {name : String} (h : v.same (.string name) = true) :
    v = .string name := by
  cases v with
  | string text =>
      rw [Json.same, Json.eqWith] at h
      rw [beq_iff_eq.mp h]
  | _ => cases h

theorem mem_names_addRequired {own more : List Json} {name : String} :
    name ∈ (addRequired own more).filterMap Json.asString? ↔
      name ∈ own.filterMap Json.asString? ∨ name ∈ more.filterMap Json.asString? := by
  have hmem : ∀ {xs : List Json}, name ∈ xs.filterMap Json.asString? ↔ .string name ∈ xs := by
    intro xs
    rw [List.mem_filterMap]
    constructor
    · rintro ⟨v, hv, hname⟩
      cases v with
      | string text =>
          cases hname
          exact hv
      | _ => cases hname
    · exact fun h => ⟨_, h, rfl⟩
  rw [hmem, hmem, hmem]
  unfold addRequired
  induction more generalizing own with
  | nil => simp
  | cons x rest ih =>
      rw [List.foldl_cons]
      refine ih.trans ?_
      rw [List.mem_cons, ← or_assoc]
      refine or_congr_left ?_
      split
      · next hany =>
          refine ⟨Or.inl, fun h => h.elim id fun heq => ?_⟩
          obtain ⟨y, hy, hsame⟩ := List.any_eq_true.mp hany
          rw [← heq] at hsame
          exact same_string hsame ▸ hy
      · rw [List.mem_append, List.mem_singleton]

variable {o part : Outline}

theorem IsObject.merge (ho : o.IsObject) (hpart : part.IsObject) : (o.merge part).IsObject := by
  refine ⟨?_, ?_, ?_, ?_, ?_, ?_⟩
  · exact (congrArg (Facet.orElse · part.const) ho.const).trans hpart.const
  · exact (congrArg (Facet.orElse · part.anyOf) ho.anyOf).trans hpart.anyOf
  · exact (congrArg (Facet.orElse · part.oneOf) ho.oneOf).trans hpart.oneOf
  · have hmerge : (o.merge part).type = o.type.orElse part.type := rfl
    rw [hmerge]
    rcases ho.type with h | h | h <;> rw [h]
    · exact hpart.type
    · exact Or.inr (Or.inl rfl)
    · exact Or.inr (Or.inr rfl)
  · have hmerge : (o.merge part).properties = o.properties.join addProperties part.properties := rfl
    rw [hmerge]
    cases hown : o.properties with
    | absent => exact hpart.properties
    | unusable => exact absurd hown ho.properties
    | given ps => cases part.properties <;> exact nofun
  · have hmerge : (o.merge part).required = o.required.join addRequired part.required := rfl
    rw [hmerge]
    cases hown : o.required with
    | absent => exact hpart.required
    | unusable => exact absurd hown ho.required
    | given ps => cases part.required <;> exact nofun

theorem mem_declared_merge (ho : o.IsObject) (hpart : part.IsObject) {name : String} :
    name ∈ (o.merge part).declared.map (·.name) ↔
      name ∈ o.declared.map (·.name) ∨ name ∈ part.declared.map (·.name) := by
  have hmerge : (o.merge part).declared =
    (o.properties.join addProperties part.properties).value?.getD [] := rfl
  rw [hmerge]
  unfold declared
  cases hown : o.properties with
  | absent => simp [Facet.join, Facet.value?]
  | unusable => exact absurd hown ho.properties
  | given ps =>
      cases hmore : part.properties with
      | absent => simp [Facet.join, Facet.value?]
      | unusable => exact absurd hmore hpart.properties
      | given more => exact mem_names_addProperties

theorem mem_requiredNames_merge (ho : o.IsObject) (hpart : part.IsObject) {name : String} :
    name ∈ (o.merge part).requiredNames ↔ name ∈ o.requiredNames ∨ name ∈ part.requiredNames := by
  have hmerge : (o.merge part).requiredNames =
    ((o.required.join addRequired part.required).value?.getD []).filterMap Json.asString? := rfl
  rw [hmerge]
  unfold requiredNames
  cases hown : o.required with
  | absent => simp [Facet.join, Facet.value?]
  | unusable => exact absurd hown ho.required
  | given names =>
      cases hmore : part.required with
      | absent => simp [Facet.join, Facet.value?]
      | unusable => exact absurd hmore hpart.required
      | given more => exact mem_names_addRequired

/-- **Outlines of objects that are laid over one add up.** -/
theorem names_foldl_merge : ∀ {parts : List Outline} {o : Outline}, o.IsObject →
    (∀ p ∈ parts, p.IsObject) → (parts.foldl merge o).IsObject ∧
      (∀ name, name ∈ (parts.foldl merge o).declared.map (·.name) ↔
        ∃ p ∈ o :: parts, name ∈ p.declared.map (·.name)) ∧
      ∀ name, name ∈ (parts.foldl merge o).requiredNames ↔
        ∃ p ∈ o :: parts, name ∈ p.requiredNames
  | [], o, ho, _ => by simp [ho]
  | p :: rest, o, ho, hparts => by
      have hp := hparts p List.mem_cons_self
      obtain ⟨hobject, hdeclared, hrequired⟩ := names_foldl_merge (ho.merge hp)
        fun q hq => hparts q (List.mem_cons_of_mem _ hq)
      refine ⟨hobject, fun name => ?_, fun name => ?_⟩
      · rw [List.foldl_cons, hdeclared]
        simp only [List.mem_cons, exists_eq_or_imp, mem_declared_merge ho hp, or_assoc]
      · rw [List.foldl_cons, hrequired]
        simp only [List.mem_cons, exists_eq_or_imp, mem_requiredNames_merge ho hp, or_assoc]

/-- Of outlines without `nullable` none is added. -/
theorem nullable_merge (h : o.nullable ≠ .given ()) (hpart : part.nullable ≠ .given ()) :
    (o.merge part).nullable ≠ .given () := by
  have hmerge : (o.merge part).nullable = o.nullable.orElse part.nullable := rfl
  rw [hmerge]
  cases hown : o.nullable with
  | absent => exact hpart
  | unusable => exact nofun
  | given _ => exact absurd hown h

theorem nullable_foldl_merge : ∀ {parts : List Outline} {o : Outline}, o.nullable ≠ .given () →
    (∀ p ∈ parts, p.nullable ≠ .given ()) → (parts.foldl merge o).nullable ≠ .given ()
  | [], _, h, _ => h
  | p :: _, _, h, hparts => by
      rw [List.foldl_cons]
      exact nullable_foldl_merge (nullable_merge h (hparts p List.mem_cons_self))
        fun q hq => hparts q (List.mem_cons_of_mem _ hq)

end Outline

/-! ## §2  The shape behind null -/

namespace Shape

section

variable {ρ τ : Type}

/-- The shape of a value that is not null. -/
def core : Shape ρ τ → Shape ρ τ
  | nullable inner => core inner
  | any => any
  | reference r => reference r
  | const v => const v
  | null => null
  | boolean => boolean
  | integer => integer
  | number => number
  | string => string
  | object properties required patterns others => object properties required patterns others
  | array front rest => array front rest
  | union branches => union branches

def declared (s : Shape ρ τ) : List (Property (Shape ρ τ)) :=
  match s.core with
  | object properties _ _ _ => properties
  | _ => []

def required (s : Shape ρ τ) : List String :=
  match s.core with
  | object _ names _ _ => names
  | _ => []

/-- Behind null no other null stands. -/
theorem core_ne_nullable (inner : Shape ρ τ) : ∀ s : Shape ρ τ, s.core ≠ nullable inner
  | nullable s => core_ne_nullable inner s
  | any => nofun
  | reference _ => nofun
  | const _ => nofun
  | null => nofun
  | boolean => nofun
  | integer => nofun
  | number => nofun
  | string => nofun
  | object _ _ _ _ => nofun
  | array _ _ => nofun
  | union _ => nofun

theorem names_of_core_eq {s s' : Shape ρ τ} (h : s.core = s'.core) :
    s.declared = s'.declared ∧ s.required = s'.required := by
  unfold declared required
  rw [h]
  exact ⟨rfl, rfl⟩

end

section

variable {ρ τ ρ' τ' : Type} {R : ρ → Shape ρ' τ' → Prop} {test : τ → Option τ'}

theorem Links.names (hR : ∀ r s, R r s → s.declared = [] ∧ s.required = []) (s : Shape ρ τ) :
    ∀ {s' : Shape ρ' τ'}, Links R test s s' →
      s'.declared.map (·.name) = s.declared.map (·.name) ∧ s'.required = s.required := by
  intro s' h
  cases s with
  | reference r =>
      obtain ⟨hdeclared, hrequired⟩ := hR r s' h
      rw [hdeclared, hrequired]
      exact ⟨rfl, rfl⟩
  | object properties required patterns others =>
      obtain ⟨properties', patterns', others', rfl, hproperties, -, -⟩ := h
      have hnames := congrArg (List.map Prod.fst) hproperties.parts.1
      rw [List.map_map, List.map_map] at hnames
      exact ⟨hnames, rfl⟩
  | array front rest =>
      obtain ⟨front', rest', rfl, -, -⟩ := h
      exact ⟨rfl, rfl⟩
  | union branches =>
      obtain ⟨branches', rfl, -⟩ := h
      exact ⟨rfl, rfl⟩
  | nullable inner =>
      obtain ⟨inner', rfl, hinner⟩ := h
      have hnames := Links.names hR inner hinner
      exact hnames
  | _ =>
      cases h
      exact ⟨rfl, rfl⟩

theorem Links.core_eq (hR : ∀ r s, R r s → s.core = s) {s : Shape ρ τ} {s' : Shape ρ' τ'}
    (h : Links R test s s') (hcore : s.core = s) : s'.core = s' := by
  cases s with
  | reference r => exact hR r s' h
  | object properties required patterns others =>
      obtain ⟨properties', patterns', others', rfl, -⟩ := h
      rfl
  | array front rest =>
      obtain ⟨front', rest', rfl, -⟩ := h
      rfl
  | union branches =>
      obtain ⟨branches', rfl, -⟩ := h
      rfl
  | nullable inner => exact absurd hcore (core_ne_nullable inner inner)
  | _ =>
      cases h
      rfl

theorem Links.core (hR : ∀ r s, R r s → s.core = s) (s : Shape ρ τ) :
    ∀ {s' : Shape ρ' τ'}, Links R test s s' → Links R test s.core s'.core := by
  intro s' h
  cases s with
  | nullable inner =>
      obtain ⟨inner', rfl, hinner⟩ := h
      have hcore := Links.core hR inner hinner
      exact hcore
  | _ =>
      rw [Links.core_eq hR h rfl]
      exact h

end

end Shape

namespace Outline

variable {o : Outline}

theorem eq_absent_of_isPresent {α : Type} {f : Facet α} (h : f.isPresent = false) :
    f = .absent := by
  cases f with
  | absent => rfl
  | _ => cases h

/-- The shape of an outline of objects is that of an object, unless nothing is said of members. -/
theorem IsObject.shape_cases (h : o.IsObject) : o.shape = o.objectShape ∨
    (o.shape = o.arrayShape ∨ o.shape = .any) ∧ o.declared = [] ∧ o.requiredNames = [] := by
  have hhinted : o.hintedShape = o.objectShape ∨
      (o.hintedShape = o.arrayShape ∨ o.hintedShape = .any) ∧ o.declared = [] ∧
        o.requiredNames = [] := by
    unfold hintedShape
    split
    · exact Or.inl rfl
    · next hnone =>
        simp only [Bool.or_eq_true, not_or, Bool.not_eq_true] at hnone
        refine Or.inr ⟨?_, ?_, ?_⟩
        · split
          · exact Or.inl rfl
          · exact Or.inr rfl
        · rw [declared, eq_absent_of_isPresent hnone.1.1.1]
          rfl
        · rw [requiredNames, eq_absent_of_isPresent hnone.2]
          rfl
  have hshape : o.shape = o.kindShape := by
    unfold shape
    rw [h.anyOf, h.oneOf]
  rw [hshape]
  unfold kindShape
  rcases h.type with htype | htype | htype <;> rw [htype]
  · exact hhinted
  · exact Or.inl rfl
  · exact Or.inl rfl

theorem IsObject.names_shape (h : o.IsObject) :
    o.shape.declared = o.declared ∧ o.shape.required = o.requiredNames := by
  rcases h.shape_cases with hshape | ⟨hshape, hdeclared, hrequired⟩
  · rw [hshape]
    exact ⟨rfl, rfl⟩
  · rw [hdeclared, hrequired]
    rcases hshape with hshape | hshape <;> rw [hshape]
    · unfold arrayShape
      split <;> exact ⟨rfl, rfl⟩
    · exact ⟨rfl, rfl⟩

theorem IsObject.core_shape (h : o.IsObject) : o.shape.core = o.shape := by
  rcases h.shape_cases with hshape | ⟨hshape | hshape, -⟩ <;> rw [hshape]
  · rfl
  · unfold arrayShape
    split <;> rfl
  · rfl

def bare (o : Outline) : Outline := { o with nullable := .absent }

theorem bare_foldl_merge : ∀ {parts : List Outline} {o o' : Outline}, o.bare = o'.bare →
    (parts.foldl merge o).bare = (parts.foldl merge o').bare
  | [], _, _, h => h
  | p :: rest, o, o', h => by
      have hmerge : ∀ o : Outline, (o.merge p).bare = (o.bare.merge p).bare := fun _ => rfl
      rw [List.foldl_cons, List.foldl_cons]
      refine bare_foldl_merge ?_
      rw [hmerge o, hmerge o', h]

theorem shape_bare (o : Outline) : o.bare.shape = o.shape := rfl

theorem isObject_bare : o.bare.IsObject ↔ o.IsObject :=
  ⟨fun h => ⟨h.const, h.anyOf, h.oneOf, h.type, h.properties, h.required⟩,
    fun h => ⟨h.const, h.anyOf, h.oneOf, h.type, h.properties, h.required⟩⟩

theorem IsObject.of_bare {o' : Outline} (h : o.IsObject) (hbare : o'.bare = o.bare) :
    o'.IsObject :=
  isObject_bare.mp (hbare ▸ isObject_bare.mpr h)

theorem fixed_of_absent (h : o.const = .absent) (inner : Outline → Sketch) :
    fixed inner o = inner o := by
  unfold fixed
  rw [h]

/-- Behind null stands what is inside, if no value is fixed. -/
theorem core_guarded (h : o.const = .absent) (inner : Outline → Sketch) :
    ∃ o', o'.bare = o.bare ∧ (o.guarded inner).core = (inner o').core := by
  rw [guarded_eq]
  cases o.nullable with
  | given _ =>
      have hbare : fixed inner o.bare = inner o.bare := fixed_of_absent (o := o.bare) h inner
      exact ⟨o.bare, rfl, (congrArg Shape.core hbare :)⟩
  | _ => exact ⟨o, rfl, congrArg Shape.core (fixed_of_absent h inner)⟩

theorem guarded_of_absent (h : o.const = .absent) (hnull : o.nullable ≠ .given ())
    (inner : Outline → Sketch) : o.guarded inner = inner o := by
  rw [guarded_eq]
  cases hown : o.nullable with
  | given _ => exact absurd hown hnull
  | _ => exact fixed_of_absent h inner

/-- **Laying layers over an outline is laying all their outlines over it**, null aside. -/
theorem core_shapeOver : ∀ {groups : List (List Outline)} {o : Outline}, o.IsObject →
    (∀ p ∈ groups.flatten, p.IsObject) → (Layered.shapeOver o (groups.map .ok)).core =
      (groups.flatten.foldl merge o).shape.core
  | [], o, ho, _ => by
      obtain ⟨o', hbare, hcore⟩ := core_guarded ho.const shape
      rw [List.map_nil, Layered.shapeOver, hcore, ← shape_bare, hbare]
      rfl
  | layer :: rest, o, ho, hparts => by
      obtain ⟨o', hbare, hcore⟩ := core_guarded ho.const fun o =>
        Layered.shapeOver (layer.foldl merge o) (rest.map .ok)
      rw [List.flatten_cons] at hparts
      have hlayer := names_foldl_merge (ho.of_bare hbare)
        fun p hp => hparts p (List.mem_append_left _ hp)
      rw [List.map_cons, Layered.shapeOver, hcore,
        core_shapeOver hlayer.1 fun p hp => hparts p (List.mem_append_right _ hp),
        List.flatten_cons, List.foldl_append, ← shape_bare,
        bare_foldl_merge (bare_foldl_merge hbare), shape_bare]

/-- Layers that come to an error come to a reference that cannot be followed, null aside. -/
theorem core_shapeOver_error (e : SchemaError) : ∀ {groups : List (List Outline)} {o : Outline},
    o.IsObject → (∀ p ∈ groups.flatten, p.IsObject) →
    (Layered.shapeOver o (groups.map .ok ++ [.error e])).core = .reference (.error e)
  | [], o, ho, _ => by
      obtain ⟨o', -, hcore⟩ := core_guarded ho.const fun _ => .reference (.error e)
      rw [List.map_nil, List.nil_append, Layered.shapeOver, hcore]
      rfl
  | layer :: rest, o, ho, hparts => by
      obtain ⟨o', hbare, hcore⟩ := core_guarded ho.const fun o =>
        Layered.shapeOver (layer.foldl merge o) (rest.map .ok ++ [.error e])
      rw [List.flatten_cons] at hparts
      have hlayer := names_foldl_merge (ho.of_bare hbare)
        fun p hp => hparts p (List.mem_append_left _ hp)
      rw [List.map_cons, List.cons_append, Layered.shapeOver, hcore]
      exact core_shapeOver_error e hlayer.1 fun p hp => hparts p (List.mem_append_right _ hp)

theorem shapeOver_eq : ∀ {groups : List (List Outline)} {o : Outline}, o.IsObject →
    (∀ p ∈ groups.flatten, p.IsObject) → o.nullable ≠ .given () →
    (∀ p ∈ groups.flatten, p.nullable ≠ .given ()) →
    Layered.shapeOver o (groups.map .ok) = (groups.flatten.foldl merge o).shape
  | [], o, ho, _, hnull, _ => by
      rw [List.map_nil, Layered.shapeOver, guarded_of_absent ho.const hnull]
      rfl
  | layer :: rest, o, ho, hparts, hnull, hnulls => by
      rw [List.flatten_cons] at hparts hnulls
      have hlayer := names_foldl_merge ho fun p hp => hparts p (List.mem_append_left _ hp)
      have hlayerNull := nullable_foldl_merge hnull fun p hp => hnulls p (List.mem_append_left _ hp)
      rw [List.map_cons, Layered.shapeOver, guarded_of_absent ho.const hnull,
        shapeOver_eq hlayer.1 (fun p hp => hparts p (List.mem_append_right _ hp)) hlayerNull
          (fun p hp => hnulls p (List.mem_append_right _ hp)),
        List.flatten_cons, List.foldl_append]

end Outline

namespace Plan

variable {set : Schema.Set} {base : Source}

/-! ## §3  The names of a plan -/

/-- What a reference becomes that can be followed: the name of its target, or nothing if there is no
room for it. -/
def Resolved (reference : Except SchemaError String) (node : Node) : Prop :=
  (∃ r, reference = .ok r) ∧ (node = .any ∨ ∃ key, node = .reference key)

theorem Resolved.plain {reference : Except SchemaError String} {node : Node}
    (h : Resolved reference node) :
    node.core = node ∧ node.declared = [] ∧ node.required = [] := by
  rcases h.2 with rfl | ⟨key, rfl⟩ <;> exact ⟨rfl, rfl, rfl⟩

theorem links_root_of_build (hset : set.IsSound base) {schema : Json} (hschema : schema.IsSound)
    {rounding : Rounding} {plan : Plan} (h : build set base schema rounding = .ok plan) :
    Shape.Links Resolved (testOf set base) (Sketch.ofSchema set base schema) plan.root := by
  obtain ⟨⟨root, targets⟩, hlink, h⟩ := Result.bind_eq_ok.mp h
  cases h
  let anyhow : Growth (Table Key (Option Node)) :=
    ⟨fun _ => True, fun _ _ => True, fun _ => trivial, fun _ _ => trivial⟩
  have hensures : anyhow.Ensures
      (linkBelow set (set.targetBound base) base (Sketch.ofSchema set base schema))
      fun _ => Shape.Links Resolved (testOf set base) (Sketch.ofSchema set base schema) := by
    rw [linkBelow_eq_link]
    refine Shape.ensures_link (R := fun _ => Resolved) (fun _ _ _ _ _ h => h) _ ?_
    refine (Sketch.every_tidy_ofSchema hset List.mem_cons_self hschema).mono
      fun _ _ reference _ before node after _ hrun => ⟨trivial, trivial, ?_⟩
    obtain ⟨r, t, rfl, -, ⟨-, rfl, -⟩ | ⟨-, -, rfl, -⟩ | ⟨-, rfl, -⟩⟩ := run_onReference hrun
    · exact ⟨⟨r, rfl⟩, Or.inr ⟨_, rfl⟩⟩
    · exact ⟨⟨r, rfl⟩, Or.inl rfl⟩
    · exact ⟨⟨r, rfl⟩, Or.inr ⟨_, rfl⟩⟩
  exact (hensures [] root targets trivial hlink).2.2

theorem core_ne_error {test : Json → Option Validator} {sketch : Sketch} {node : Node}
    (h : Shape.Links Resolved test sketch node) (e : SchemaError) :
    sketch.core ≠ .reference (.error e) := by
  intro heq
  have hcore := Shape.Links.core (fun r s hs => hs.plain.1) sketch h
  rw [heq] at hcore
  obtain ⟨⟨r, hr⟩, -⟩ := hcore
  cases hr

/-- **The sketch of a schema of objects**: its own outline, over which its bundled parts are laid,
unless these cannot be had. -/
theorem exists_layered_ofSchema (hset : set.IsSound base) {schema : Json} (hschema : schema.IsSound)
    (hr : reference? schema = none) (hwhole : Whole set [] ⟨base, schema⟩) :
    ∃ l : Layered, Sketch.ofSchema set base schema = l.shape ∧ l.Renders set ⟨base, schema⟩ := by
  cases hwhole with
  | reference hr' =>
      rw [hr] at hr'
      cases hr'
  | object _ hobject hparts =>
      cases schema with
      | object members =>
          rw [Sketch.ofSchema, Sketch.sketch]
          simp only [hr]
          refine ⟨_, rfl, hobject.renders hr hschema.nodup (fun h => by cases h) ?_⟩
          intro make hmake ls hls
          cases hmake
          exact rendersList_bundled hset List.mem_cons_self Sketch.stackRoom
            (fun part hpart => ⟨hparts part hpart, Sketch.every_of_mem_partsOf hschema hpart⟩) hls
      | _ => cases hobject.object

open Standing

/-- **The root of a plan is made of the schemas that count**: their outlines are laid one over the
other, and the references in what this comes to are resolved. -/
theorem exists_links_shapeOver (hset : set.IsSound base) {schema : Json} (hschema : schema.IsSound)
    (hr : reference? schema = none) (hwhole : Whole set [] ⟨base, schema⟩) {rounding : Rounding}
    {plan : Plan} (hbuild : build set base schema rounding = .ok plan) :
    ∃ (own : Outline) (groups : List (List Outline)),
      Covers (Counts set ⟨base, schema⟩) (own :: groups.flatten) ∧
      Shape.Links Resolved (testOf set base) (Layered.shapeOver own (groups.map .ok)) plan.root := by
  have hlinks := links_root_of_build hset hschema hbuild
  obtain ⟨l, hsketch, hrenders⟩ := exists_layered_ofSchema hset hschema hr hwhole
  have hlays := lays_of_renders l hrenders (.here hr)
  obtain ⟨q, hq, hown⟩ := hrenders.own
  cases hq.unique (.here hr)
  have hself : Covers (fun q => q = ⟨base, schema⟩) [l.own] :=
    ⟨fun q hq => ⟨l.own, List.mem_cons_self, hq ▸ hown⟩,
      fun o ho => ⟨_, rfl, List.mem_singleton.mp ho ▸ hown⟩⟩
  rw [hsketch, Layered.shape] at hlinks
  obtain ⟨layers, hlayers⟩ : ∃ layers, layers = l.layers := ⟨_, rfl⟩
  rw [← hlayers] at hlays hlinks
  cases hlays with
  | @whole groups hcovers => exact ⟨l.own, groups, hself.append hcovers, hlinks⟩
  | broken hobjects =>
      exact absurd (Outline.core_shapeOver_error _ hown.object hobjects) (core_ne_error hlinks _)

/-- **The names of a plan are those of the schemas that count**, and it is not behind null if none of
them is. -/
theorem names_root_of_build (hset : set.IsSound base) {schema : Json} (hschema : schema.IsSound)
    (hr : reference? schema = none) (hwhole : Whole set [] ⟨base, schema⟩) {rounding : Rounding}
    {plan : Plan} (hbuild : build set base schema rounding = .ok plan) :
    (∀ name, name ∈ plan.root.declared.map (·.name) ↔ ∃ q, Counts set ⟨base, schema⟩ q ∧
      name ∈ declaredNames q.schema) ∧
    (∀ name, name ∈ plan.root.required ↔ ∃ q, Counts set ⟨base, schema⟩ q ∧
      name ∈ Direct.required q.schema) ∧
    ((∀ q, Counts set ⟨base, schema⟩ q → q.schema.get? "nullable" ≠ some (.bool true)) →
      plan.root.core = plan.root) := by
  obtain ⟨own, groups, hcovers, hlinks⟩ := exists_links_shapeOver hset hschema hr hwhole hbuild
  have hsays : ∀ o ∈ own :: groups.flatten, o.IsObject := fun o ho => by
    obtain ⟨_, _, hsaid⟩ := hcovers.only o ho
    exact hsaid.object
  have hobject := hsays own List.mem_cons_self
  have hparts : ∀ p ∈ groups.flatten, p.IsObject := fun p hp => hsays p (List.mem_cons_of_mem _ hp)
  obtain ⟨hmerged, hmemDeclared, hmemRequired⟩ := Outline.names_foldl_merge hobject hparts
  obtain ⟨hdeclared, hrequired⟩ := Shape.Links.names (fun r s h => h.plain.2) _ hlinks
  have hcore := Shape.names_of_core_eq (Outline.core_shapeOver hobject hparts)
  rw [hmerged.names_shape.1, hmerged.names_shape.2] at hcore
  refine ⟨fun name => ?_, fun name => ?_, fun hnull => ?_⟩
  · rw [hdeclared, hcore.1, hmemDeclared]
    exact hcovers.exists_mem_iff (fun h => h.declared) name
  · rw [hrequired, hcore.2, hmemRequired]
    exact hcovers.exists_mem_iff (fun h => h.required) name
  · have hnulls : ∀ o ∈ own :: groups.flatten, o.nullable ≠ .given () := fun o ho hgiven => by
      obtain ⟨q, hq, hsaid⟩ := hcovers.only o ho
      exact hnull q hq (hsaid.nullable hgiven)
    refine hlinks.core_eq (fun r s h => h.plain.1) ?_
    rw [Outline.shapeOver_eq hobject hparts (hnulls own List.mem_cons_self)
      fun p hp => hnulls p (List.mem_cons_of_mem _ hp)]
    exact hmerged.core_shape

/-! ## §4  What is written -/

theorem name_of_writeListing {write : Node → Json → Except SerializeError Written} {m : Listing}
    {e : String × Written} (h : writeListing write m = .ok e) : e.1 = m.name := by
  rw [writeListing] at h
  split at h
  · obtain ⟨w, -, h⟩ := Result.bind_eq_ok.mp h
    rw [Result.pure_eq_ok] at h
    exact h ▸ rfl
  · cases h
    rfl

theorem keys_of_mapM_writeListing {write : Node → Json → Except SerializeError Written}
    {list : List Listing} {members : List (String × Written)}
    (h : list.mapM (writeListing write) = .ok members) :
    Table.keys members = list.map (·.name) := by
  replace h := Result.forall₂_of_mapM_eq_ok h
  induction h with
  | nil => rfl
  | cons hfirst _ ih =>
      unfold Table.keys at ih ⊢
      rw [List.map_cons, List.map_cons, name_of_writeListing hfirst, ih]

/-- A value that is not null is written by what stands behind null, if there is room for it. -/
theorem write_core (plan : Plan) {v : Json} (hv : v.isNull = false) (node : Node) :
    ∀ room, plan.write room node v = .error .tooDeep ∨
      ∃ less, plan.write room node v = plan.write (less + 1) node.core v := by
  intro room
  cases room with
  | zero => exact Or.inl rfl
  | succ room =>
      cases node with
      | nullable inner =>
          rw [write, hv, if_neg Bool.false_ne_true]
          exact write_core plan hv inner room
      | _ => exact Or.inr ⟨room, rfl⟩

theorem write_root_core {plan : Plan} {v : Json}
    (hv : v.isNull = true → plan.root.core = plan.root) :
    plan.write (SerializeError.greatestDepth + 1) plan.root v = .error .tooDeep ∨
      ∃ less, plan.write (SerializeError.greatestDepth + 1) plan.root v =
        plan.write (less + 1) plan.root.core v := by
  cases hnull : v.isNull with
  | false => exact write_core plan hnull plan.root _
  | true => exact Or.inr ⟨_, by rw [hv hnull]⟩

theorem mem_keys_of_written {plan : Plan} {v : Json} {name : String}
    (hname : name ∈ plan.root.declared.map (·.name))
    (hthere : Table.contains name v.members = true) {w : Written} (h : plan.written v = .ok w) :
    ∃ members, w = .object members ∧ name ∈ Table.keys members := by
  have hv : v.isNull = false := by
    cases v with
    | null => cases hthere
    | _ => rfl
  rcases write_core plan hv plan.root (SerializeError.greatestDepth + 1) with hdeep | ⟨less, hcore⟩
  · rw [written, hdeep] at h
    cases h
  · rw [written, hcore] at h
    unfold Shape.declared at hname
    cases hroot : plan.root.core with
    | object properties required patterns others =>
        simp only [hroot] at h hname
        rw [write, writeObject_eq] at h
        split at h
        · cases h
        · obtain ⟨members, hmembers, rfl⟩ := Result.map_eq_ok.mp h
          refine ⟨members, rfl, ?_⟩
          rw [keys_of_mapM_writeListing hmembers, List.map_append, names_listDeclared]
          obtain ⟨p, hp, rfl⟩ := List.mem_map.mp hname
          refine List.mem_append_left _ (List.mem_map_of_mem (List.mem_filter.mpr ⟨hp, ?_⟩))
          rw [hthere, Bool.true_or]
    | _ => simp only [hroot, List.map_nil, List.not_mem_nil] at hname

theorem serialize_of_missing {plan : Plan} {v : Json}
    (hv : v.isNull = true → plan.root.core = plan.root) {name : String}
    (hname : name ∈ plan.root.required) (hmissing : Table.contains name v.members = false)
    (hdefault : ∀ p ∈ plan.root.declared, p.name = name → p.default = none) :
    ∃ e, plan.serialize v = .error e ∧
      (e ≠ .tooDeep → ∃ first ∈ plan.root.required, e = .missing first) := by
  rcases write_root_core hv with hdeep | ⟨less, hcore⟩
  · refine ⟨.tooDeep, ?_, fun h => absurd rfl h⟩
    rw [serialize_eq, written, hdeep]
    rfl
  · unfold Shape.declared at hdefault
    unfold Shape.required at hname ⊢
    cases hroot : plan.root.core with
    | object properties required patterns others =>
        simp only [hroot] at hname hdefault hcore ⊢
        have hfound : ∃ first, missing? properties required v.members = some first := by
          refine Option.isSome_iff_exists.mp (List.find?_isSome.mpr ⟨name, hname, ?_⟩)
          have hany : (properties.any fun p => p.name == name && p.default.isSome) = false := by
            refine List.any_eq_false.mpr fun p hp h => ?_
            obtain ⟨hp', hsome⟩ := Bool.and_eq_true_iff.mp h
            rw [hdefault p hp (beq_iff_eq.mp hp')] at hsome
            cases hsome
          rw [hmissing, hany]
          rfl
        obtain ⟨first, hfirst⟩ := hfound
        refine ⟨.missing first, ?_, fun _ => ⟨first, List.mem_of_find?_eq_some hfirst, rfl⟩⟩
        rw [serialize_eq, written, hcore, write, writeObject_eq, hfirst]
        rfl
    | _ => simp only [hroot, List.not_mem_nil] at hname

/-! ## §5  Two examples -/

def partOf (name : String) : Json :=
  .object [("properties", .object [(name, .object [("type", .string "integer")])]),
    ("required", .array [.string name])]

def allOf (parts : List Json) : Json :=
  .object [("type", .string "object"), ("allOf", .array parts)]

theorem isSound_partOf (name : String) : (partOf name).IsSound := by
  have hinteger : (Json.object [("type", .string "integer")]).IsSound :=
    Json.isSound_cons (by decide) (.string _) Json.isSound_nil
  have hproperties := @Json.isSound_cons name _ _ (by simp [Table.keys]) hinteger Json.isSound_nil
  refine Json.isSound_cons (by simp [Table.keys]) hproperties
    (Json.isSound_cons (by simp [Table.keys]) ?_ Json.isSound_nil)
  exact .array fun x hx => List.mem_singleton.mp hx ▸ .string _

theorem isSound_allOf {parts : List Json} (h : ∀ part ∈ parts, part.IsSound) :
    (allOf parts).IsSound :=
  Json.isSound_cons (by simp [Table.keys]) (.string _)
    (Json.isSound_cons (by simp [Table.keys]) (.array h) Json.isSound_nil)

theorem whole_partOf {entered : List Key} (name : String) :
    Whole set entered ⟨base, partOf name⟩ := by
  refine .object rfl ⟨rfl, nofun, fun v hv => ?_, fun v hv => ?_, nofun, ?_⟩ fun _ h => by cases h
  · cases hv
    rfl
  · cases hv
    rfl
  · exact fun keyword hkeyword => by
      simp only [List.mem_cons, List.not_mem_nil, or_false] at hkeyword
      rcases hkeyword with rfl | rfl | rfl <;> rfl

theorem whole_allOf {entered : List Key} {parts : List Json}
    (h : ∀ part ∈ parts, Whole set entered ⟨base, part⟩) :
    Whole set entered ⟨base, allOf parts⟩ := by
  refine .object rfl ⟨rfl, fun v hv => ?_, nofun, nofun, fun v hv => ?_, ?_⟩ h
  · cases hv
    exact Or.inl rfl
  · cases hv
    rfl
  · exact fun keyword hkeyword => by
      simp only [List.mem_cons, List.not_mem_nil, or_false] at hkeyword
      rcases hkeyword with rfl | rfl | rfl <;> rfl

/-- An object of which one part is referred to, and another has a part of its own. -/
def ownedSchema : Json :=
  .object [("type", .string "object"),
    ("allOf", .array [referenceTo "#/definitions/owned", allOf [partOf "id"]]),
    ("definitions", .object [("owned", partOf "owner")])]

theorem isSound_ownedSchema : ownedSchema.IsSound := by
  refine Json.isSound_cons (by decide) (.string _) (Json.isSound_cons (by decide) (.array ?_)
    (Json.isSound_cons (by decide) (Json.isSound_cons (by decide) (isSound_partOf _)
      Json.isSound_nil) Json.isSound_nil))
  intro part hpart
  simp only [List.mem_cons, List.not_mem_nil, or_false] at hpart
  rcases hpart with rfl | rfl
  · exact isSound_referenceTo _
  · exact isSound_allOf fun part hpart => List.mem_singleton.mp hpart ▸ isSound_partOf _

theorem exists_target_owned : ∃ t, (Schema.Set.ofStores [] 0).resolve "#/definitions/owned"
    (.ofInline ownedSchema) = .ok t ∧ t.source = .ofInline ownedSchema ∧
      t.schema = partOf "owner" := by
  have hleads : LeadsTo ownedSchema "#/definitions/owned" "/definitions/owned" (partOf "owner") :=
    ⟨rfl, by decide +kernel⟩
  have hsome : ((Schema.Set.ofStores [] 0).resolve "#/definitions/owned"
      (.ofInline ownedSchema)).toOption.isSome = true := by decide +kernel
  obtain ⟨t, ht⟩ := Option.isSome_iff_exists.mp hsome
  rw [Result.toOption_eq_some] at ht
  exact ⟨t, ht, hleads.target ht⟩

theorem hasPart_ownedSchema {q : Standing}
    (h : HasPart (.ofStores [] 0) ⟨.ofInline ownedSchema, ownedSchema⟩ q) :
    q = ⟨.ofInline ownedSchema, partOf "owner"⟩ ∨
      q = ⟨.ofInline ownedSchema, allOf [partOf "id"]⟩ := by
  obtain ⟨t, ht, hsource, hschema⟩ := exists_target_owned
  obtain ⟨part, hpart, hends⟩ := h
  have hparts : Sketch.partsOf ownedSchema.members =
    [referenceTo "#/definitions/owned", allOf [partOf "id"]] := rfl
  rw [hparts] at hpart
  simp only [List.mem_cons, List.not_mem_nil, or_false] at hpart
  rcases hpart with rfl | rfl
  · refine Or.inl (hends.unique (.next rfl ht ?_))
    rw [hsource, hschema]
    exact .here rfl
  · exact Or.inr (hends.unique (.here rfl))

def halvesSchema : Json := allOf [allOf [partOf "a"], allOf [partOf "b"]]

/-! ## §6  The main statement -/

/-- **A plan declares and requires what the schemas that count declare and require.**  A declared
member that is there is written, and a value without a required member fails, unless the member
has a default or the value is a null that is allowed.  The schemas that count are all that stand
within the schema if nowhere in it two parts have an `allOf`. -/
theorem names_iff_counts (hset : set.IsSound base) {schema : Json} (hschema : schema.IsSound)
    (hr : reference? schema = none) (hwhole : Whole set [] ⟨base, schema⟩) {rounding : Rounding}
    {plan : Plan} (hbuild : build set base schema rounding = .ok plan) :
    (∀ name, name ∈ plan.root.declared.map (·.name) ↔ ∃ q, Counts set ⟨base, schema⟩ q ∧
      name ∈ declaredNames q.schema) ∧
    (∀ name, name ∈ plan.root.required ↔ ∃ q, Counts set ⟨base, schema⟩ q ∧
      name ∈ Direct.required q.schema) ∧
    (∀ q, Counts set ⟨base, schema⟩ q →
      ∀ name ∈ declaredNames q.schema, ∀ v, Table.contains name v.members = true →
      ∀ w, plan.written v = .ok w → ∃ members, w = .object members ∧ name ∈ Table.keys members) ∧
    (∀ q, Counts set ⟨base, schema⟩ q → ∀ name ∈ Direct.required q.schema, ∀ v,
      (v.isNull = true → ∀ q', Counts set ⟨base, schema⟩ q' →
        q'.schema.get? "nullable" ≠ some (.bool true)) →
      Table.contains name v.members = false →
      (∀ p ∈ plan.root.declared, p.name = name → p.default = none) →
      ∃ e, plan.serialize v = .error e ∧
        (e ≠ .tooDeep → ∃ first ∈ plan.root.required, e = .missing first)) ∧
    (ListsOnce set ⟨base, schema⟩ →
      ∀ q, Counts set ⟨base, schema⟩ q ↔ Within set ⟨base, schema⟩ q) := by
  obtain ⟨hdeclared, hrequired, hcore⟩ := names_root_of_build hset hschema hr hwhole hbuild
  refine ⟨hdeclared, hrequired, fun q hq name hname v hthere w hw => ?_,
    fun q hq name hname v hv hmissing hdefault => ?_, fun hone q => ?_⟩
  · exact mem_keys_of_written ((hdeclared name).mpr ⟨q, hq, hname⟩) hthere hw
  · exact serialize_of_missing (fun hnull => hcore (hv hnull))
      ((hrequired name).mpr ⟨q, hq, hname⟩) hmissing hdefault
  · exact ⟨fun h => h.within, counts_of_within hone⟩

theorem names_iff_counts_owned : ∃ plan,
    build (.ofStores [] 0) (.ofInline ownedSchema) ownedSchema .trunc = .ok plan ∧
      (∀ name, name ∈ plan.root.declared.map (·.name) ↔
        ∃ q, Within (.ofStores [] 0) ⟨.ofInline ownedSchema, ownedSchema⟩ q ∧
          name ∈ declaredNames q.schema) ∧
      plan.serialize (.object [("note", .null), ("id", .int 1), ("owner", .int 2)]) =
        .ok "\x7b\"owner\":2,\"id\":1\x7d" ∧
      ∃ e, plan.serialize (.object [("id", .int 1)]) = .error e := by
  -- The plan is built once; what is seen of it is evaluated, and the names come from the theorem.
  have hrun : ((build (.ofStores [] 0) (.ofInline ownedSchema) ownedSchema .trunc).toOption.map
      fun plan => (plan.root.declared.all fun p => p.default.isNone,
        (plan.serialize
          (.object [("note", .null), ("id", .int 1), ("owner", .int 2)])).toOption)) =
      some (true, some "\x7b\"owner\":2,\"id\":1\x7d") := by
    decide +kernel
  obtain ⟨plan, hplan, hrun⟩ := Option.map_eq_some_iff.mp hrun
  simp only [Prod.mk.injEq, Result.toOption_eq_some] at hplan hrun
  obtain ⟨hdefaults, htext⟩ := hrun
  obtain ⟨t, ht, hsource, hschema⟩ := exists_target_owned
  have hwhole : Whole (.ofStores [] 0) [] ⟨.ofInline ownedSchema, ownedSchema⟩ := by
    refine .object rfl ⟨rfl, fun v hv => ?_, nofun, nofun, fun v hv => ?_, by decide⟩
      fun part hpart => ?_
    · cases hv
      exact Or.inl rfl
    · cases hv
      rfl
    · have hpart : part ∈ [referenceTo "#/definitions/owned", allOf [partOf "id"]] := hpart
      simp only [List.mem_cons, List.not_mem_nil, or_false] at hpart
      rcases hpart with rfl | rfl
      · refine .reference rfl ht (by simp) (by decide) ?_
        rw [hsource, hschema]
        exact whole_partOf "owner"
      · exact whole_allOf fun part hpart => List.mem_singleton.mp hpart ▸ whole_partOf "id"
  have hset : (Schema.Set.ofStores [] 0).IsSound (.ofInline ownedSchema) := fun s hs =>
    List.mem_singleton.mp hs ▸ isSound_ownedSchema
  have hplain : ∀ name, ¬ (⟨.ofInline ownedSchema, partOf name⟩ : Standing).Lists :=
    fun name h => by cases h
  -- only the second part lists parts of its own
  have hone : ListsOnce (.ofStores [] 0) ⟨.ofInline ownedSchema, ownedSchema⟩ := by
    refine listsOnce_of_parts (fun q q' hq hq' h h' => ?_) fun q hq => ?_
    · rcases hasPart_ownedSchema hq with rfl | rfl
      · exact absurd h (hplain _)
      · rcases hasPart_ownedSchema hq' with rfl | rfl
        · exact absurd h' (hplain _)
        · rfl
    · rcases hasPart_ownedSchema hq with rfl | rfl
      · exact listsOnce_of_not_lists (hplain _)
      · have hpart : ∀ q, HasPart (.ofStores [] 0)
            ⟨.ofInline ownedSchema, allOf [partOf "id"]⟩ q →
            q = ⟨.ofInline ownedSchema, partOf "id"⟩ := by
          rintro q ⟨part, hpart, hends⟩
          cases List.mem_singleton.mp hpart
          exact hends.unique (.here rfl)
        refine listsOnce_of_parts (fun q q' hq hq' _ _ => (hpart q hq).trans (hpart q' hq').symm)
          fun q hq => ?_
        rw [hpart q hq]
        exact listsOnce_of_not_lists (hplain _)
  obtain ⟨hnames, -, -, hmissing, hall⟩ :=
    names_iff_counts hset isSound_ownedSchema rfl hwhole hplan
  have howner : HasPart (.ofStores [] 0) ⟨.ofInline ownedSchema, ownedSchema⟩
      ⟨.ofInline ownedSchema, partOf "owner"⟩ := by
    refine ⟨referenceTo "#/definitions/owned", List.mem_cons_self, .next rfl ht ?_⟩
    rw [hsource, hschema]
    exact .here rfl
  obtain ⟨e, he, -⟩ := hmissing _ (Or.inr (.part howner)) "owner" (by decide)
    (.object [("id", .int 1)]) nofun (by decide) fun p hp _ =>
      Option.isNone_iff_eq_none.mp (List.all_eq_true.mp hdefaults p hp)
  refine ⟨plan, hplan, fun name => (hnames name).trans ?_, htext, e, he⟩
  simp only [hall hone]

/-- **What a second part lists is left behind**: the plan does not know the member that the part of
the second part declares and requires.  It leaves it out, and does without it. -/
theorem not_names_of_within :
    (Schema.Set.ofStores [] 0).IsSound (.ofInline halvesSchema) ∧ halvesSchema.IsSound ∧
      reference? halvesSchema = none ∧
      Whole (.ofStores [] 0) [] ⟨.ofInline halvesSchema, halvesSchema⟩ ∧
      (∃ q, Within (.ofStores [] 0) ⟨.ofInline halvesSchema, halvesSchema⟩ q ∧
        "b" ∈ declaredNames q.schema ∧
        "b" ∈ Direct.required q.schema) ∧
      ∃ plan, build (.ofStores [] 0) (.ofInline halvesSchema) halvesSchema .trunc = .ok plan ∧
        "b" ∉ plan.root.declared.map (·.name) ∧ "b" ∉ plan.root.required ∧
        plan.serialize (.object [("a", .int 1), ("b", .int 2)]) = .ok "\x7b\"a\":1\x7d" ∧
        plan.serialize (.object [("a", .int 1)]) = .ok "\x7b\"a\":1\x7d" := by
  have hsound : halvesSchema.IsSound := by
    refine isSound_allOf fun part hpart => ?_
    simp only [List.mem_cons, List.not_mem_nil, or_false] at hpart
    rcases hpart with rfl | rfl
    · exact isSound_allOf fun part hpart => List.mem_singleton.mp hpart ▸ isSound_partOf "a"
    · exact isSound_allOf fun part hpart => List.mem_singleton.mp hpart ▸ isSound_partOf "b"
  refine ⟨fun s hs => List.mem_singleton.mp hs ▸ hsound, hsound, rfl, ?_, ?_, ?_⟩
  · refine whole_allOf fun part hpart => ?_
    simp only [List.mem_cons, List.not_mem_nil, or_false] at hpart
    rcases hpart with rfl | rfl
    · exact whole_allOf fun part hpart => List.mem_singleton.mp hpart ▸ whole_partOf "a"
    · exact whole_allOf fun part hpart => List.mem_singleton.mp hpart ▸ whole_partOf "b"
  · have hright : HasPart (.ofStores [] 0) ⟨.ofInline halvesSchema, halvesSchema⟩
        ⟨.ofInline halvesSchema, allOf [partOf "b"]⟩ :=
      ⟨allOf [partOf "b"], List.mem_cons_of_mem _ List.mem_cons_self, .here rfl⟩
    have hpart : HasPart (.ofStores [] 0) ⟨.ofInline halvesSchema, allOf [partOf "b"]⟩
        ⟨.ofInline halvesSchema, partOf "b"⟩ :=
      ⟨partOf "b", List.mem_cons_self, .here rfl⟩
    exact ⟨_, .tail (.single hright) hpart, by decide, by decide⟩
  · have hrun : ((build (.ofStores [] 0) (.ofInline halvesSchema) halvesSchema .trunc).toOption.map
        fun plan => (plan.root.declared.map (·.name), plan.root.required,
          (plan.serialize (.object [("a", .int 1), ("b", .int 2)])).toOption,
          (plan.serialize (.object [("a", .int 1)])).toOption)) =
        some (["a"], ["a"], some "\x7b\"a\":1\x7d", some "\x7b\"a\":1\x7d") := by
      decide +kernel
    obtain ⟨plan, hplan, hrun⟩ := Option.map_eq_some_iff.mp hrun
    simp only [Prod.mk.injEq, Result.toOption_eq_some] at hplan hrun
    obtain ⟨hdeclared, hrequired, hboth, hone⟩ := hrun
    refine ⟨plan, hplan, ?_, ?_, hboth, hone⟩
    · rw [hdeclared]
      decide
    · rw [hrequired]
      decide

end Plan

end ReplySchema.Serializer

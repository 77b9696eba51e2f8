import ReplySchema.Proofs.Schema.Inlining
import ReplySchema.Proofs.Serializer.Outlines

/-! # Tidy sketches

A form is *tidy* if it declares no member twice and if the values that it writes by itself,
constants and defaults, are sound.  Sound schemas have tidy sketches: the schema's own names
are distinct, a part of `allOf` only adds properties of other names, and a bundled part is
sound again (`every_tidy_ofSchema`).
-/

set_option autoImplicit false

namespace ReplySchema.Serializer

/-- Whether a form declares distinct names and has only sound values of its own. -/
def Shape.Form.IsTidy : Form → Prop
  | .const v => v.IsSound
  | .object properties _ _ _ => (properties.map (·.1)).Nodup ∧
      ∀ p ∈ properties, ∀ v, p.2 = some v → v.IsSound
  | _ => True

namespace Outline

/-- Whether an outline declares distinct names and has only sound values of its own. -/
structure IsTidy (o : Outline) : Prop where
  const : ∀ v, o.const = .given v → v.IsSound
  names : ∀ ps, o.properties = .given ps → (ps.map (·.name)).Nodup
  defaults : ∀ ps, o.properties = .given ps → ∀ p ∈ ps, ∀ v, p.default = some v → v.IsSound

theorem isTidy_ofSchema {sketch : Json → Sketch} {members : List (String × Json)}
    (h : (Json.object members).IsSound) : (ofSchema sketch members).IsTidy := by
  have hproperties : ∀ ps, (ofSchema sketch members).properties = .given ps →
      ∃ entries, (Json.object entries).IsSound ∧
        ps = entries.map fun e => ⟨e.1, e.2.get? "default", sketch e.2⟩ := by
    intro ps hps
    obtain ⟨v, hv, hread⟩ := facetAt_eq_given.mp hps
    obtain ⟨entries, hentries, rfl⟩ := Option.map_eq_some_iff.mp hread
    have hsound := h.find? hv
    cases v with
    | object es =>
        cases hentries
        exact ⟨_, hsound, rfl⟩
    | _ => cases hentries
  constructor
  · intro v hv
    obtain ⟨w, hw, hread⟩ := facetAt_eq_given.mp hv
    exact Option.some.inj hread ▸ h.find? hw
  · intro ps hps
    obtain ⟨entries, hentries, rfl⟩ := hproperties ps hps
    simpa [Table.keys, Function.comp_def] using hentries.nodup
  · intro ps hps p hp v hv
    obtain ⟨entries, hentries, rfl⟩ := hproperties ps hps
    obtain ⟨e, he, rfl⟩ := List.mem_map.mp hp
    have hsound := hentries.member he
    cases hschema : e.2 with
    | object ms =>
        rw [hschema] at hsound
        simp only [hschema] at hv
        exact hsound.find? hv
    | _ =>
        simp only [hschema] at hv
        cases hv

theorem nodup_addProperties {own more : List (Property Sketch)}
    (h : (own.map (·.name)).Nodup) : ((addProperties own more).map (·.name)).Nodup := by
  unfold addProperties
  induction more generalizing own with
  | nil => exact h
  | cons p rest ih =>
      rw [List.foldl_cons]
      refine ih ?_
      split
      · exact h
      · next hfresh =>
          rw [List.map_append, List.map_singleton]
          refine List.nodup_append.mpr ⟨h, List.nodup_singleton _, ?_⟩
          intro name hname other hother heq
          rw [List.mem_singleton.mp hother] at heq
          obtain ⟨q, hq, rfl⟩ := List.mem_map.mp hname
          exact hfresh (List.any_eq_true.mpr ⟨q, hq, by rw [heq, beq_self_eq_true]⟩)

theorem IsTidy.merge {o part : Outline} (h : o.IsTidy) (hpart : part.IsTidy) :
    (o.merge part).IsTidy := by
  constructor
  · intro v hv
    exact (Facet.orElse_eq_given hv).elim (h.const v) (hpart.const v)
  · intro ps hps
    rcases Facet.join_eq_given hps with hps | hps | ⟨own, more, hown, -, rfl⟩
    · exact h.names ps hps
    · exact hpart.names ps hps
    · exact nodup_addProperties (h.names own hown)
  · intro ps hps p hp v hv
    rcases Facet.join_eq_given hps with hps | hps | ⟨own, more, hown, hmore, rfl⟩
    · exact h.defaults ps hps p hp v hv
    · exact hpart.defaults ps hps p hp v hv
    · rcases mem_addProperties hp with hp | hp
      · exact h.defaults own hown p hp v hv
      · exact hpart.defaults more hmore p hp v hv

theorem IsTidy.objectShape {o : Outline} (h : o.IsTidy) : o.objectShape.form.IsTidy := by
  have hvalue : ∀ p ∈ o.properties.value?.getD [], ∃ ps, o.properties = .given ps ∧ p ∈ ps := by
    intro p hp
    cases hproperties : o.properties with
    | given ps => exact ⟨ps, rfl, by simpa [hproperties, Facet.value?] using hp⟩
    | _ => simp [hproperties, Facet.value?] at hp
  constructor
  · rw [List.map_map]
    cases hproperties : o.properties with
    | given ps => exact h.names ps hproperties
    | _ => exact List.nodup_nil
  · intro q hq v hv
    obtain ⟨p, hp, rfl⟩ := List.mem_map.mp hq
    obtain ⟨ps, hps, hmem⟩ := hvalue p hp
    exact h.defaults ps hps p hmem v hv

end Outline

namespace Sketch

/-- Whether all forms of a sketch are tidy. -/
abbrev EveryTidy (s : Sketch) : Prop := s.Every fun t => t.form.IsTidy

/-- Sound schemas have tidy sketches, however their parts are made ready. -/
theorem follows_tidy {ready : Ready} (hmade : ∀ make, ready = some make → ∀ members,
      (Json.object members).IsSound → ∀ ls, make (partsOf members) = .ok ls → ∀ l ∈ ls,
      l.Every (fun o => o.IsTidy ∧ ∀ s, o.Has s → EveryTidy s) (Fails EveryTidy)) :
    Follows ready Json.IsSound Json.IsSound Json.IsSound
      (fun o => o.IsTidy ∧ ∀ s, o.Has s → EveryTidy s)
      (fun o => o.IsTidy ∧ ∀ s, o.Has s → EveryTidy s) EveryTidy := by
  have houtline : ∀ members, (Json.object members).IsSound →
      (∀ c ∈ inside (.object members), c.IsSound → EveryTidy (sketch ready c)) →
      (Outline.ofSchema (sketch ready) members).IsTidy ∧
        ∀ s, (Outline.ofSchema (sketch ready) members).Has s → EveryTidy s := by
    intro members h ih
    refine ⟨Outline.isTidy_ofSchema h, fun s hs => ?_⟩
    obtain ⟨c, hc, rfl⟩ := Outline.has_ofSchema hs
    exact ih c hc (every_of_mem_inside h hc)
  exact {
    data := fun _ _ _ => .intro trivial fun _ h => by cases h
    reference := fun _ _ _ _ => .intro trivial fun _ h => by cases h
    error := fun _ _ _ _ _ _ => .intro trivial fun _ h => by cases h
    own := fun _ h _ => Or.inl h
    nodup := fun _ h => (h.elim id id).nodup
    outline := houtline
    outlinePart := houtline
    merge := fun o part ho hpart =>
      ⟨ho.1.merge hpart.1, fun s hs => (Outline.has_merge hs).elim (ho.2 s) (hpart.2 s)⟩
    bare := fun o ho =>
      ⟨⟨ho.1.const, ho.1.names, ho.1.defaults⟩, fun s hs => ho.2 s (Outline.has_bare hs)⟩
    shape := fun o ho => by
      refine Outline.every_shape (fun s hs => ?_) ho.1.objectShape (fun _ _ => trivial)
        (fun _ _ => trivial) ho.2
      cases s <;> first | exact hs.elim | trivial
    const := fun o v ho hv => .intro (ho.1.const v hv) fun _ h => by cases h
    nullable := fun o s ho _ _ hs => .intro trivial fun t ht => List.mem_singleton.mp ht ▸ hs
    part := fun _ members h part hpart _ => every_of_mem_partsOf (h.elim id id) hpart
    made := fun make hmake members h => hmade make hmake members (h.elim id id) }

/-- **A sound schema of sound documents has a tidy sketch.** -/
theorem every_tidy_ofSchema {set : Schema.Set} {base s : Schema.Source} (hset : set.IsSound base)
    (hs : s ∈ set.sources base) {schema : Json} (h : schema.IsSound) :
    EveryTidy (ofSchema set s schema) := by
  have hbundled : ∀ (room : Nat) {parts : List Json} {ls : List Layered},
      (∀ part ∈ parts, part.IsSound) → bundled (set.bundleSchema s) room parts = .ok ls →
      ∀ l ∈ ls, l.Every (fun o => o.IsTidy ∧ ∀ s, o.Has s → EveryTidy s) (Fails EveryTidy) :=
    every_bundled (fun _ _ => Schema.Set.isSound_bundleSchema hset hs) fun ready hmade _ hparts =>
      (follows_tidy fun make hmake members hmembers => hmade make hmake _ fun _ hpart =>
        every_of_mem_partsOf hmembers hpart).layeredList fun part hpart _ => hparts part hpart
  refine (follows_tidy fun make hmake members hmembers ls => ?_).sketch h
  cases hmake
  exact hbundled stackRoom fun part hpart => every_of_mem_partsOf hmembers hpart

end Sketch

end ReplySchema.Serializer

import ReplySchema.Proofs.Schema.SelfContained
import ReplySchema.Proofs.Serializer.Outlines

/-! # Sketches that can be finished

To finish a sketch one follows its references and bundles the schemas that tell the alternatives
of a union apart.  A sketch is *linkable* if all of this can be done, and if the parts of `allOf`
could be had in the first place.

The keywords that a sketch looks at are among those that the check enters.  But the parts of `allOf`
come in bundled, and a reference that bundling left there is followed from where the parts are
listed, which the check did not look into.  So a schema has a linkable sketch if its references can
be followed and its parts come out without any (`linkable_ofSchema`).
-/

set_option autoImplicit false

namespace ReplySchema.Serializer

open Schema (Source reference? StandsAlone)
open Schema.Set (Walks)

/-! ## §1  Schemas -/

/-- Whether a list that items turn out to be holds no references inside the parts of `allOf`,
wherever one comes to from a schema. -/
def PartItemsStandAlone (set : Schema.Set) (s₀ : Source) (v₀ : Json) : Prop :=
  ∀ s v, Walks set s₀ v₀ s v → ∀ part ∈ Sketch.partsOf v.members, set.ItemsStandAlone s part

theorem PartItemsStandAlone.walk {set : Schema.Set} {s s' : Source} {v v' : Json}
    (h : PartItemsStandAlone set s v) (hwalk : Walks set s v s' v') :
    PartItemsStandAlone set s' v' :=
  fun s'' v'' h' => h s'' v'' (hwalk.trans h')

/-- Whether all references can be followed, and bundled parts of `allOf` have none. -/
structure Compilable (set : Schema.Set) (s : Source) (v : Json) : Prop where
  followable : set.Followable s v
  parts : PartItemsStandAlone set s v

variable {set : Schema.Set} {s : Source}

theorem Compilable.walk {v v' : Json} {s' : Source} (h : Compilable set s v)
    (hwalk : Walks set s v s' v') : Compilable set s' v' :=
  ⟨h.followable.walk hwalk, h.parts.walk hwalk⟩

theorem Compilable.inside {v c : Json} (h : Compilable set s v) (hc : c ∈ Sketch.inside v) :
    Compilable set s c :=
  h.walk (.held .here (Sketch.held_of_mem_inside hc))

theorem Compilable.part {v part : Json} (h : Compilable set s v)
    (hpart : part ∈ Sketch.partsOf v.members) : Compilable set s part :=
  h.walk (.held .here (Sketch.held_of_mem_partsOf hpart))

theorem compilable_of_standsAlone {v : Json} (h : StandsAlone v) : Compilable set s v :=
  ⟨Schema.Set.followable_of_standsAlone h, fun _ v' hwalk _ hpart =>
    have halone : StandsAlone v' := Schema.Set.StandsAlone.walk h hwalk
    (Schema.Set.itemsStandAlone_of_standsAlone halone).walk
      (.held .here (Sketch.held_of_mem_partsOf hpart))⟩

/-! ## §2  Sketches -/

/-- Whether a form can be finished in a document. -/
structure Sketch.IsLinkable (set : Schema.Set) (s : Source) (x : Sketch) : Prop where
  reference : ∀ reference, x = .reference reference → ∃ r t, reference = .ok r ∧
    set.resolve r s = .ok t ∧ Compilable set t.source t.schema
  tests : ∀ branches, x = .union branches → ∀ b ∈ branches, ∀ c, b.test = some c →
    ∃ j, set.bundleSchema s c = .ok j

namespace Sketch

/-- Whether all forms of a sketch can be finished. -/
abbrev Linkable (set : Schema.Set) (s : Source) (sketch : Sketch) : Prop :=
  sketch.Every (IsLinkable set s)

/-- How a sketch can be finished if those inside can.  `C` is what is known of the schemas; from it
follows that they can be compiled. -/
theorem followsForms_linkable {C : Json → Prop} (hcompilable : ∀ v, C v → Compilable set s v)
    (hinside : ∀ v c, C v → c ∈ inside v → C c)
    (hpart : ∀ v part, C v → part ∈ partsOf v.members → C part) :
    FollowsForms C (fun c => ∃ j, set.bundleSchema s c = .ok j) (IsLinkable set s) where
  plain := fun x hreference hunion _ =>
    ⟨fun r heq => absurd (heq ▸ rfl) hreference, fun bs heq => absurd (heq ▸ rfl) hunion⟩
  reference := fun v r hv hr => by
    obtain ⟨t, ht⟩ := (hcompilable v hv).followable s v .here r hr
    refine ⟨fun reference heq => ?_, nofun⟩
    cases heq
    exact ⟨r, t, rfl, ht, (hcompilable v hv).walk (.target .here hr ht)⟩
  union := fun bs htests => ⟨nofun, fun bs' heq => by cases heq; exact htests⟩
  nullable := fun _ _ => ⟨nofun, nofun⟩
  inside := fun v c hv hc => ⟨hinside v c hv hc,
    Schema.Set.exists_bundleSchema ((hcompilable v hv).inside hc).followable⟩
  part := hpart

/-! ## §3  Parts without references -/

theorem exists_bundled_of_standsAlone {parts : List Json} (h : ∀ part ∈ parts, StandsAlone part) :
    ∃ parts', parts.mapM (set.bundleSchema s) = .ok parts' ∧
      (∀ part ∈ parts', StandsAlone part) ∧
      ∀ room, bundled (set.bundleSchema s) room parts = .ok (layeredList none parts') := by
  obtain ⟨parts', hparts⟩ : ∃ js, parts.mapM (set.bundleSchema s) = .ok js :=
    Result.exists_mapM_eq_ok fun part hpart => Schema.Set.exists_bundleSchema
      (Schema.Set.followable_of_standsAlone (h part hpart))
  have hfinished : ∀ j ∈ parts', Schema.isFinished j = true := fun j hj => by
    obtain ⟨part, hpart, hbundle⟩ := Result.mem_of_mapM_eq_ok hparts j hj
    exact Schema.Set.isFinished_of_standsAlone (h part hpart) hbundle
  exact ⟨parts', hparts, fun j hj => Schema.Set.standsAlone_of_isFinished (hfinished j hj),
    bundled_of_isFinished hparts hfinished⟩

section

variable {T : Json → Prop} {P : Sketch → Prop} (f : FollowsForms StandsAlone T P)
include f

/-- What holds of the forms of schemas without references holds of the outlines of such parts, if
the parts inside are taken as they are or bundled. -/
theorem every_layeredList {ready : Ready} (hready : ∀ make, ready = some make →
      ∀ parts, (∀ part ∈ parts, StandsAlone part ∧ part.IsSound) → ∃ ls, make parts = .ok ls ∧
        ∀ l ∈ ls, l.Every (Outline.HoldsEvery P T) (Fails (Shape.Every P)))
    {parts : List Json} (h : ∀ part ∈ parts, StandsAlone part ∧ part.IsSound) :
    ∀ l ∈ layeredList ready parts, l.Every (Outline.HoldsEvery P T) (Fails (Shape.Every P)) := by
  have hmade : MakesForms ready StandsAlone T P := fun make hmake members hmembers hsound => by
    obtain ⟨ls, hls, hevery⟩ := hready make hmake (partsOf members) fun part hpart =>
      ⟨f.part _ part hmembers hpart, every_of_mem_partsOf hsound hpart⟩
    rw [hls]
    exact ⟨nofun, fun ls' heq => by cases heq; exact hevery⟩
  exact (f.follows hmade).layeredList fun part hpart _ => h part hpart

/-- So it holds of the outlines to which such parts are bundled, whatever room there is. -/
theorem exists_bundled_every {base : Source} (hset : set.IsSound base) (hs : s ∈ set.sources base)
    (room : Nat) {parts : List Json} (h : ∀ part ∈ parts, StandsAlone part ∧ part.IsSound) :
    ∃ ls, bundled (set.bundleSchema s) room parts = .ok ls ∧
      ∀ l ∈ ls, l.Every (Outline.HoldsEvery P T) (Fails (Shape.Every P)) := by
  obtain ⟨parts', hparts, halone, hbundled⟩ :
      ∃ parts', parts.mapM (set.bundleSchema s) = .ok parts' ∧ _ :=
    exists_bundled_of_standsAlone fun part hpart => (h part hpart).1
  refine ⟨_, hbundled room, every_layeredList f (fun _ h => by cases h) fun j hj =>
    ⟨halone j hj, ?_⟩⟩
  obtain ⟨part, hpart, hbundle⟩ := Result.mem_of_mapM_eq_ok hparts j hj
  exact Schema.Set.isSound_bundleSchema hset hs (h part hpart).2 hbundle

end

/-- **What holds of single forms holds throughout the sketch of a schema whose parts come out
without references.**  The parts are bundled once, and those inside them are finished then. -/
theorem every_ofSchemaWithin {T : Json → Prop} {P : Sketch → Prop} {C : Json → Prop}
    {base : Source} (hset : set.IsSound base) (hs : s ∈ set.sources base)
    (f : FollowsForms C T P) (halone : FollowsForms StandsAlone T P)
    (hparts : ∀ v, C v → PartItemsStandAlone set s v)
    (herror : ∀ v, C v → ∀ part ∈ partsOf v.members, ∀ e, set.bundleSchema s part = .error e →
      P (.reference (.error e)))
    (room : Nat) {v : Json} (h : C v) (hsound : v.IsSound) :
    (ofSchemaWithin (room + 1) set s v).Every P := by
  refine (f.follows fun make hmake members hmembers hsound => ?_).sketch ⟨h, hsound⟩
  cases hmake
  cases hbundle : (partsOf members).mapM (set.bundleSchema s) with
  | error e =>
      obtain ⟨_, part, _, hsplit, -, hpart⟩ := Result.exists_of_mapM_eq_error hbundle
      have hmem : part ∈ partsOf members := hsplit ▸ List.mem_append_right _ List.mem_cons_self
      have hfails : bundled (set.bundleSchema s) (room + 1) (partsOf members) = .error e := by
        rw [bundled, hbundle]
        rfl
      rw [hfails]
      exact ⟨fun e' heq => by cases heq; exact herror _ hmembers part hmem e hpart,
        fun _ heq => (by cases heq)⟩
  | ok parts =>
      have hready : ∀ j ∈ parts, StandsAlone j ∧ j.IsSound := fun j hj => by
        obtain ⟨part, hpart, hbundle⟩ := Result.mem_of_mapM_eq_ok hbundle j hj
        exact ⟨Schema.Set.standsAlone_bundleSchema (hparts _ hmembers s _ .here part hpart) hbundle,
          Schema.Set.isSound_bundleSchema hset hs (every_of_mem_partsOf hsound hpart) hbundle⟩
      rw [bundled_succ hbundle room]
      refine ⟨fun _ heq => (by cases heq), fun ls heq => ?_⟩
      cases heq
      split
      · exact every_layeredList halone (fun _ h => by cases h) hready
      · refine every_layeredList halone (fun make hmake parts hparts => ?_) hready
        cases hmake
        exact exists_bundled_every halone hset hs room hparts

/-- **A sound schema that can be compiled has a linkable sketch.** -/
theorem linkable_ofSchema {base : Source} (hset : set.IsSound base) (hs : s ∈ set.sources base)
    {v : Json} (h : Compilable set s v) (hsound : v.IsSound) :
    Linkable set s (ofSchema set s v) := by
  have hforms : FollowsForms StandsAlone _ (IsLinkable set s) :=
    followsForms_linkable (fun _ => compilable_of_standsAlone)
      (fun _ _ hv hc => hv.held (held_of_mem_inside hc))
      fun _ _ hv hpart => hv.held (held_of_mem_partsOf hpart)
  refine every_ofSchemaWithin hset hs (followsForms_linkable (fun _ h => h) (fun _ _ h => h.inside)
    fun _ _ h => h.part) hforms (fun _ h => h.parts) (fun v hv part hpart e he => ?_) 9999 h hsound
  obtain ⟨j, hj⟩ := Schema.Set.exists_bundleSchema (hv.part hpart).followable
  rw [hj] at he
  cases he

/-! ## §4  Where the references of a sketch stand -/

/-- Whether a form refers to what `R` says and fails with what `E` says.  What may be null is no
reference. -/
structure IsFit (R : String → Prop) (E : SchemaError → Prop) (x : Sketch) : Prop where
  reference : ∀ r, x = .reference (.ok r) → R r
  error : ∀ e, x = .reference (.error e) → E e
  nullable : ∀ y, x = .nullable y → ∀ r, y ≠ .reference (.ok r)

theorem followsForms_fit {C : Json → Prop} {R : String → Prop} {E : SchemaError → Prop}
    (hreference : ∀ v r, C v → reference? v = some r → R r)
    (hinside : ∀ v c, C v → c ∈ inside v → C c)
    (hpart : ∀ v part, C v → part ∈ partsOf v.members → C part) :
    FollowsForms C (fun _ => True) (IsFit R E) where
  plain := fun x hreference _ hnullable =>
    ⟨fun r heq => absurd (heq ▸ rfl) hreference, fun e heq => absurd (heq ▸ rfl) hreference,
      fun y heq => absurd (heq ▸ rfl) hnullable⟩
  reference := fun v r hv hr => ⟨fun r' heq => by cases heq; exact hreference v r hv hr, nofun, nofun⟩
  union := fun _ _ => ⟨nofun, nofun, nofun⟩
  nullable := fun x hne => ⟨nofun, nofun, fun y heq => by cases heq; exact hne⟩
  inside := fun v c hv hc => ⟨hinside v c hv hc, trivial⟩
  part := hpart

/-- **The references in the sketch of a schema are its own, or they stand in the documents that can
be met.** -/
theorem fit_ofSchemaWithin {base : Source} (hset : set.IsSound base) (hs : s ∈ set.sources base)
    {R : String → Prop} (hR : ∀ r ∈ set.possibleRefs base, R r) {v : Json}
    (h : Schema.Throughout (Schema.Set.RefersWithin R) v) (hsound : v.IsSound) (room : Nat) :
    (ofSchemaWithin room set s v).Every (IsFit R fun _ => True) := by
  have hforms : FollowsForms (Schema.Throughout (Schema.Set.RefersWithin R)) (fun _ => True)
      (IsFit R fun _ => True) :=
    followsForms_fit (fun v r hv hr => hv v (Schema.mem_schemasIn_self v) r hr)
      (fun v c hv hc => (Schema.throughout_iff.mp hv).2 c (held_of_mem_inside hc))
      fun v part hv hpart => (Schema.throughout_iff.mp hv).2 part (held_of_mem_partsOf hpart)
  have herror : ∀ e, IsFit R (fun _ => True) (.reference (.error e)) := fun _ =>
    ⟨nofun, fun _ _ => trivial, nofun⟩
  refine (hforms.follows fun make hmake members _ hsound => ⟨fun e _ => herror e, fun ls hls => ?_⟩).sketch
    ⟨h, hsound⟩
  cases hmake
  have hbundle : ∀ part j : Json, part.IsSound → set.bundleSchema s part = .ok j →
      Schema.Throughout (Schema.Set.RefersWithin R) j ∧ j.IsSound := fun part j hpart hbundle =>
    ⟨fun w hw r hr => hR r (Schema.Set.refersWithin_bundleSchema hs hbundle w hw r hr),
      Schema.Set.isSound_bundleSchema hset hs hpart hbundle⟩
  refine every_bundled hbundle (fun ready hmade parts hparts => ?_) room
    (fun part => every_of_mem_partsOf hsound) hls
  refine (hforms.follows fun make hmake members _ hsound => ⟨fun e _ => herror e, ?_⟩).layeredList
    fun part hpart _ => hparts part hpart
  exact hmade make hmake _ fun part => every_of_mem_partsOf hsound

end Sketch

end ReplySchema.Serializer

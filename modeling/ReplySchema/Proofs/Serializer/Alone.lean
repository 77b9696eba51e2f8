import ReplySchema.Proofs.Schema.Bundling
import ReplySchema.Proofs.Serializer.Build
import ReplySchema.Proofs.Serializer.Concur
import ReplySchema.Proofs.Serializer.Linkable

/-! # A schema without references

What has no references has nothing to look up.  Such a schema is bundled to the same under
every schema set, and its sketch is the same wherever it stands (`ofSchema_of_standsAlone`).
The sketch has no references either, those of its tests included, so finishing it leaves the
table of targets alone and needs no room.

Main statement: a sound schema without references has one plan, whatever the set and the
document (`exists_plan_of_standsAlone`).
-/

set_option autoImplicit false

namespace ReplySchema.Serializer

open Schema (Source StandsAlone reference? schemasIn)
open Schema.Set (Walks)

variable (set set' : Schema.Set) (s s' : Source)

/-! ## §1  Bundling and tests -/

theorem bundleSchema_of_standsAlone {v : Json} (h : StandsAlone v) :
    set'.bundleSchema s' v = set.bundleSchema s v := by
  unfold Schema.Set.bundleSchema
  rw [Schema.Set.bundleBelow_eq_inline, Schema.Set.bundleBelow_eq_inline]
  refine Schema.inline_congr fun w hw r hr => ?_
  rw [h w hw] at hr
  cases hr

theorem testOf_of_standsAlone {v : Json} (h : StandsAlone v) :
    Plan.testOf set' s' v = Plan.testOf set s v := by
  unfold Plan.testOf
  rw [bundleSchema_of_standsAlone set set' s s' h]

theorem isSound_bundleSchema_of_standsAlone {set : Schema.Set} {s : Source} {v j : Json}
    (h : StandsAlone v) (hsound : v.IsSound) (hbundle : set.bundleSchema s v = .ok j) :
    j.IsSound := by
  have hset : Schema.Set.IsSound {} (.ofInline v) := by
    intro s hs
    rw [List.mem_singleton.mp hs]
    exact hsound
  rw [bundleSchema_of_standsAlone {} set (.ofInline v) s h] at hbundle
  exact Schema.Set.isSound_bundleSchema hset List.mem_cons_self hsound hbundle

/-- A keyword whose value is data brings no references, unless it is the one that makes them. -/
theorem standsAlone_insert {members : List (String × Json)} (h : StandsAlone (.object members))
    {key : String} (hdata : Schema.holds key = .data) (hkey : key ≠ "$ref") (value : Json) :
    StandsAlone (.object (Table.insert key value members)) := by
  intro w hw
  rcases Schema.mem_schemasIn_iff.mp hw with rfl | ⟨c, hc, hw⟩
  · have hself : reference? (.object members) = none := h _ (Schema.mem_schemasIn_self _)
    have hfind : Table.find? "$ref" (Table.insert key value members) =
        Table.find? "$ref" members := Table.find?_insert_ne hkey value members
    exact (congrArg (fun found => found.bind Json.asString?) hfind).trans hself
  · obtain ⟨m, hm, hunder⟩ := List.mem_flatMap.mp hc
    rcases Table.mem_insert hm with rfl | hm
    · simp [Schema.heldUnder, hdata] at hunder
    · have hheld : c ∈ Schema.held (.object members) := Schema.mem_held hm hunder
      exact h w (Schema.mem_schemasIn_of_held hheld hw)

theorem isSound_insert {members : List (String × Json)} (h : (Json.object members).IsSound)
    (key : String) {value : Json} (hvalue : value.IsSound) :
    (Json.object (Table.insert key value members)).IsSound := by
  refine .object (Table.nodup_keys_insert key value h.nodup) fun m hm => ?_
  rcases Table.mem_insert hm with rfl | hm
  · exact hvalue
  · exact h.member hm

/-! ## §2  Sketches -/

namespace Sketch

theorem innerOf_congr {ready ready' : Ready} {key : String} {value : Json}
    (h : ∀ c ∈ insideKeyword key value, sketch ready c = sketch ready' c) :
    innerOf ready key value = innerOf ready' key value := by
  unfold insideKeyword at h
  unfold innerOf
  generalize holds key = kind at h ⊢
  cases kind with
  | schema => exact congrArg (Outline.Inner.schema value) (h value (by simp))
  | named =>
      cases value with
      | object entries =>
          refine congrArg Outline.Inner.named (List.map_congr_left fun e he => ?_)
          rw [h e.2 (by simpa using ⟨e.1, he⟩)]
      | _ => rfl
  | list =>
      cases value with
      | array items =>
          refine congrArg Outline.Inner.list (List.map_congr_left fun c hc => ?_)
          rw [h c hc]
      | _ => rfl
  | either =>
      cases value with
      | array items =>
          refine congrArg Outline.Inner.list (List.map_congr_left fun c hc => ?_)
          rw [h c hc]
      | _ => exact congrArg (Outline.Inner.schema _) (h _ (by simp))
  | data => rfl

section
variable {make make' : List Json → Except SchemaError (List Layered)}

/-- A sketch depends on what is made of the parts that are listed somewhere in the schema, and so
does the outline of a part. -/
theorem sketch_layered?_congr {v : Json}
    (h : ∀ w ∈ schemasIn v, make (partsOf w.members) = make' (partsOf w.members)) :
    sketch (some make) v = sketch (some make') v ∧
      layered? (some make) v = layered? (some make') v := by
  -- what is looked at is no constructor argument, so the induction is on the size
  induction hsize : sizeOf v using Nat.strongRecOn generalizing v with
  | _ n ih =>
      subst hsize
      cases v with
      | object members =>
          have hinside : ∀ c ∈ inside (.object members),
              sketch (some make) c = sketch (some make') c := by
            intro c hc
            refine (ih (sizeOf c) (sizeOf_lt_of_mem_inside hc) (fun w hw => ?_) rfl).1
            exact h w (Schema.mem_schemasIn_of_held (held_of_mem_inside hc) hw)
          have hinners : inners (some make) members = inners (some make') members := by
            rw [inners_eq_map, inners_eq_map]
            refine List.map_congr_left fun m hm => ?_
            rw [innerOf_congr fun c hc => hinside c (List.mem_flatMap.mpr ⟨m, hm, hc⟩)]
          have hparts : make (partsOf members) = make' (partsOf members) :=
            h _ (Schema.mem_schemasIn_self _)
          have hwithParts : ∀ o, withParts (some make) o members =
              withParts (some make') o members := by
            intro o
            rw [withParts_eq, withParts_eq]
            unfold partsOf at hparts
            cases hfind : Table.find? "allOf" members with
            | none => rfl
            | some value =>
                cases value with
                | array parts =>
                    have hparts : make parts = make' parts := by
                      rwa [hfind] at hparts
                    simp only [hparts]
                | _ => rfl
          rw [sketch, sketch, layered?, layered?, hinners, hwithParts]
          exact ⟨rfl, rfl⟩
      | _ =>
          rw [sketch, sketch]
          · exact ⟨rfl, rfl⟩
          all_goals
            intro members hmembers
            cases hmembers

theorem sketch_congr {v : Json}
    (h : ∀ w ∈ schemasIn v, make (partsOf w.members) = make' (partsOf w.members)) :
    sketch (some make) v = sketch (some make') v :=
  (sketch_layered?_congr h).1

theorem layeredList_congr : ∀ {parts : List Json},
    (∀ part ∈ parts, ∀ w ∈ schemasIn part, make (partsOf w.members) = make' (partsOf w.members)) →
    layeredList (some make) parts = layeredList (some make') parts
  | [], _ => by rw [layeredList, layeredList]
  | part :: rest, h => by
      rw [layeredList, layeredList, (sketch_layered?_congr (h part List.mem_cons_self)).2,
        layeredList_congr fun part hpart => h part (List.mem_cons_of_mem _ hpart)]

end

theorem bundled_of_standsAlone {parts : List Json} (h : ∀ part ∈ parts, StandsAlone part)
    (room room' : Nat) : bundled (set'.bundleSchema s') room' parts =
      bundled (set.bundleSchema s) room parts := by
  have hbundle : parts.mapM (set'.bundleSchema s') = parts.mapM (set.bundleSchema s) :=
    Result.mapM_congr fun part hpart => bundleSchema_of_standsAlone set set' s s' (h part hpart)
  obtain ⟨parts', hparts, -, hbundled⟩ :
      ∃ parts', parts.mapM (set.bundleSchema s) = .ok parts' ∧ _ := exists_bundled_of_standsAlone h
  obtain ⟨parts'', hparts', -, hbundled'⟩ :
      ∃ parts', parts.mapM (set'.bundleSchema s') = .ok parts' ∧ _ := exists_bundled_of_standsAlone h
  rw [hbundle, hparts] at hparts'
  cases hparts'
  rw [hbundled, hbundled']

/-- **A schema without references has one sketch**, wherever it stands. -/
theorem ofSchema_of_standsAlone {v : Json} (h : StandsAlone v) :
    ofSchema set' s' v = ofSchema set s v := by
  refine sketch_congr fun w hw => bundled_of_standsAlone set set' s s' (fun part hpart => ?_) _ _
  have hwalk : Walks set s v s w := Schema.Set.walks_of_mem_schemasIn hw
  exact Schema.Set.StandsAlone.walk h (hwalk.held (held_of_mem_partsOf hpart))

/-! ## §3  Nothing to follow -/

/-- Whether a form is no reference, and what tells its alternatives apart has none. -/
structure IsAlone (x : Sketch) : Prop where
  reference : ∀ r, x ≠ .reference r
  tests : ∀ branches, x = .union branches → ∀ b ∈ branches, ∀ c, b.test = some c → StandsAlone c

/-- **The sketch of a sound schema without references has none.** -/
theorem every_isAlone_ofSchema {v : Json} (h : StandsAlone v) (hsound : v.IsSound) :
    (ofSchema set s v).Every IsAlone := by
  have hforms : FollowsForms StandsAlone StandsAlone IsAlone := {
    plain := fun x hreference hunion _ =>
      ⟨fun r heq => hreference (heq ▸ rfl), fun bs heq => absurd (heq ▸ rfl) hunion⟩
    reference := fun v r h hr => by
      rw [h v (Schema.mem_schemasIn_self v)] at hr
      cases hr
    union := fun bs htests => ⟨nofun, fun bs' heq => by cases heq; exact htests⟩
    nullable := fun _ _ => ⟨nofun, nofun⟩
    inside := fun v c h hc => ⟨h.held (held_of_mem_inside hc), h.held (held_of_mem_inside hc)⟩
    part := fun v part h hpart => h.held (held_of_mem_partsOf hpart) }
  refine (hforms.follows fun make hmake members hmembers hsound => ?_).sketch ⟨h, hsound⟩
  cases hmake
  have hpart : ∀ part ∈ partsOf members, StandsAlone part := fun part =>
    hforms.part _ part hmembers
  obtain ⟨parts, hparts, halone, hbundled⟩ :
      ∃ parts, (partsOf members).mapM (set.bundleSchema s) = .ok parts ∧ _ :=
    exists_bundled_of_standsAlone hpart
  rw [hbundled stackRoom]
  refine ⟨nofun, fun ls heq => ?_⟩
  cases heq
  refine every_layeredList hforms (fun _ h => by cases h) fun j hj => ⟨halone j hj, ?_⟩
  obtain ⟨part, hmem, hbundle⟩ := Result.mem_of_mapM_eq_ok hparts j hj
  exact isSound_bundleSchema_of_standsAlone (hpart part hmem) (every_of_mem_partsOf hsound hmem)
    hbundle

end Sketch

/-! ## §4  One plan -/

namespace Plan

theorem concur_linkBelow {sketch : Sketch} (h : sketch.Every Sketch.IsAlone) (room room' : Nat) :
    Concur (linkBelow set room s sketch) (linkBelow set' room' s' sketch) := by
  rw [linkBelow_eq_link, linkBelow_eq_link]
  refine Shape.concur_link sketch (h.mono fun x hx => ⟨fun r heq => ?_, ?_⟩)
  · exact absurd heq (hx.reference r)
  · intro branches heq b hb c hc
    rw [testOf_of_standsAlone set set' s s' (hx.tests branches heq b hb c hc)]
    exact concur_pure _

/-- **A sound schema without references has one plan**, whatever the set and the document. -/
theorem exists_plan_of_standsAlone {v : Json} (h : StandsAlone v) (hsound : v.IsSound)
    (rounding : Rounding) :
    ∃ plan, build set s v rounding = .ok plan ∧ build set' s' v rounding = .ok plan := by
  have hnothing := Sketch.every_isAlone_ofSchema set s h hsound
  obtain ⟨⟨root, targets⟩, hhere, hthere⟩ := concur_linkBelow set set' s s' hnothing
    (set.targetBound s) (set'.targetBound s') []
  refine ⟨⟨root, targets, rounding⟩, ?_, ?_⟩
  · unfold build
    simp only [hhere]
    rfl
  · unfold build
    rw [Sketch.ofSchema_of_standsAlone set set' s s' h]
    simp only [hthere]
    rfl

end Plan

end ReplySchema.Serializer

import ReplySchema.Proofs.Serializer.Agreement
import ReplySchema.Proofs.Serializer.Output
import ReplySchema.Proofs.Serializer.Reach

/-! # A plan writes what the schemas say

A plan follows each reference once, when it is built, and its table leads round in cycles.
The direct way follows references each time it gets there and never comes to an end of a
cyclic schema.  Here the two are shown to write the same.

The proof goes by induction on the depth of the plan: a shape of the table mirrors its
schema, so its parts agree with the schemas inside, and a reference that the plan finds in
its table is the one that the direct way resolves.  What is left are the references that go
round among themselves; there the plan has no shape at the end of the way, the direct way
meets a target again, and both write the value as it is.

Main statement: `serialize_eq_direct`.
-/

set_option autoImplicit false

namespace ReplySchema.Serializer

open Schema (Key Source Target reference? referenceTo)

/-! ## §1  References that go round -/

section

variable {set : Schema.Set} {V : Source → Json → Prop} {base : Source} {plan : Plan}

/-- Whether a value is written as it is, unless the depth is used up. -/
def IsPlain (v : Json) (x : Except SerializeError Written) : Prop :=
  x = .error .tooDeep ∨ x = .ok (.ofJson v)

theorem IsPlain.agree {v : Json} {x y : Except SerializeError Written} (hx : IsPlain v x)
    (hy : IsPlain v y) : Agree x y := by
  rcases hx with rfl | rfl
  · exact .tooDeep_left _
  · rcases hy with rfl | rfl
    · exact .tooDeep_right _
    · exact .refl _

/-- A plan writes a value as it is, if the references of its target go round. -/
theorem isPlain_write (hvisits : Plan.Visits set base V)
    (hmirrors : Plan.Mirrors set V [] plan.targets) (v : Json) : ∀ (room : Nat) {t : Target},
    V t.source t.schema → set.Circles t → IsPlain v (plan.write room (.reference t.key) v) := by
  intro room
  induction room with
  | zero => exact fun _ _ => Or.inl rfl
  | succ room ih =>
      intro t ht hcircles
      rw [Plan.write]
      split
      · next shape hshape =>
          obtain ⟨u, hu, hkey, hshapes⟩ := hmirrors.shaped _ _ hshape
          obtain rfl := hvisits.target_eq hu ht hkey
          obtain ⟨w, hw, hcirclesNext⟩ := hcircles.next
          obtain ⟨r, hr, hresolve⟩ := Schema.Set.next?_eq_some.mp hw
          have hsketch : Sketch.ofSchema set u.source u.schema = .reference (.ok r) :=
            Sketch.sketch_of_reference? hr
          rw [hsketch] at hshapes
          obtain ⟨r', w', heq, hresolve', rfl, -⟩ := hshapes
          cases heq
          rw [hresolve] at hresolve'
          cases hresolve'
          exact ih (hvisits.next ht hw) hcirclesNext
      · exact Or.inr rfl

theorem isPlain_direct (rounding : Rounding) (v : Json) : ∀ (room : Nat) (met : List Key)
    {t : Target}, set.Circles t →
    IsPlain v (Direct.write set rounding room met t.source t.schema v) := by
  intro room
  induction room with
  | zero => exact fun _ _ _ => Or.inl rfl
  | succ room ih =>
      intro met t hcircles
      obtain ⟨w, hw, hcirclesNext⟩ := hcircles.next
      obtain ⟨r, hr, hresolve⟩ := Schema.Set.next?_eq_some.mp hw
      rw [Direct.write, hr]
      dsimp only
      rw [hresolve]
      dsimp only
      split
      · exact Or.inr rfl
      · exact ih _ hcirclesNext

end

/-! ## §2  All schemas -/

/-- Whether a schema has none of the keywords that compose schemas. -/
def IsUncomposed (schema : Json) : Prop :=
  ∀ keyword ∈ ["allOf", "anyOf", "oneOf"], schema.get? keyword = none

section

variable {set : Schema.Set} {base : Source} {root : Json}

theorem Sketch.partsOf_of_isUncomposed {members : List (String × Json)}
    (h : IsUncomposed (.object members)) : Sketch.partsOf members = [] := by
  have hnone : Table.find? "allOf" members = none := h "allOf" (by decide)
  unfold Sketch.partsOf
  rw [hnone]
  rfl

theorem Sketch.sketch_of_isUncomposed {ready : Sketch.Ready} {members : List (String × Json)}
    (hnodup : (Table.keys members).Nodup) (hnone : reference? (.object members) = none)
    (h : IsUncomposed (.object members)) : Sketch.sketch ready (.object members) =
      (Outline.ofSchema (Sketch.sketch ready) members).guarded Outline.shape := by
  have hparts : ∀ (o : Outline) (ms : List (String × Json)), Table.find? "allOf" ms = none →
      Sketch.withParts ready o ms = .plain o := by
    intro o ms
    induction ms with
    | nil => exact fun _ => by rw [Sketch.withParts]
    | cons m rest ih =>
        obtain ⟨key, value⟩ := m
        intro hfind
        rw [Table.find?_cons] at hfind
        split at hfind
        · cases hfind
        · next hkey =>
            rw [Sketch.withParts.eq_def]
            simp only [if_neg hkey]
            exact ih hfind
  rw [Sketch.sketch, hnone]
  dsimp only
  rw [hparts _ _ (h "allOf" (by decide)), Outline.ofMembers_inners ready hnodup]
  unfold Layered.shape
  rw [Layered.layers]
  rfl

/-- What holds of all references of schemas, and of all shapes that are no references, holds all
over a sketch, if no schema is composed. -/
theorem Sketch.follows_uncomposed {bundle : Json → Except SchemaError Json} {room : Nat}
    {H : Json → Prop} {P : Sketch → Prop} (hsound : ∀ c, H c → c.IsSound)
    (huncomposed : ∀ c, H c → IsUncomposed c)
    (hinside : ∀ c, H c → reference? c = none → ∀ d ∈ inside c, H d)
    (hform : ∀ x : Sketch, x.form ≠ .reference → P x)
    (href : ∀ c r, H c → reference? c = some r → P (.reference (.ok r))) :
    Follows (some (bundled bundle room)) H (fun c => H c ∧ reference? c = none) (fun _ => False)
      (fun o => ∀ x, o.Has x → x.Every P) (fun _ => False) fun x => x.Every P where
  data _ _ _ := .intro (hform _ nofun) fun _ h => by cases h
  reference c r h hr := .intro (href c r h hr) fun _ h => by cases h
  error make hmake members h e he := by
    cases hmake
    rw [partsOf_of_isUncomposed (huncomposed _ (h.resolve_right id).1), bundled_nil] at he
    cases he
  own _ h hnone := Or.inl ⟨h, hnone⟩
  nodup _ h := (hsound _ (h.resolve_right id).1).nodup
  outline _ hK ih x hx := by
    obtain ⟨c, hc, rfl⟩ := Outline.has_ofSchema hx
    exact ih c hc (hinside _ hK.1 hK.2 c hc)
  outlinePart _ h := h.elim
  merge _ _ _ h := h.elim
  bare o ho x hx := ho x (Outline.has_bare hx)
  shape o ho := by
    refine Outline.every_shape (fun s hs => hform s ?_) (hform _ nofun)
      (fun _ _ => hform _ nofun) (fun _ _ => hform _ nofun) ho
    cases s <;> first | exact hs.elim | nofun
  const o v _ _ := .intro (hform _ nofun) fun _ h => by cases h
  nullable o s _ _ _ hs := .intro (hform _ nofun) fun t ht => List.mem_singleton.mp ht ▸ hs
  part hready := by cases hready
  made make hmake members h ls hls l hl := by
    cases hmake
    rw [partsOf_of_isUncomposed (huncomposed _ (h.resolve_right id).1), bundled_nil] at hls
    cases hls
    cases hl

/-- Every keyword counts. -/
abbrev anywhere : String → Prop := fun _ => True

theorem Reaches.anywhere_inside {s : Source} {schema c : Json}
    (h : Reaches anywhere set base root s schema) (hnone : reference? schema = none)
    (hc : c ∈ Sketch.inside schema) : Reaches anywhere set base root s c := by
  obtain ⟨m, hm, hc⟩ := List.mem_flatMap.mp hc
  exact h.inside hnone trivial hm hc

theorem looksWithin_of_isUncomposed (hset : set.IsSound base) (hroot : root.IsSound)
    (huncomposed : ∀ s schema, Reaches anywhere set base root s schema → IsUncomposed schema) :
    LooksWithin anywhere set base root := by
  intro s H hH Q href schema h
  refine (Sketch.follows_uncomposed (fun c hc => (hH.reaches c hc).isSound hset hroot)
    (fun c hc => huncomposed s c (hH.reaches c hc)) (fun c hc hnone d hd => ?_)
    (fun x hx r heq => ?_) fun c r hc hr r' heq => ?_).sketch h
  · obtain ⟨⟨key, value⟩, hm, hd⟩ := List.mem_flatMap.mp hd
    exact hH.inside c hc hnone key value trivial hm d hd
  · rw [heq] at hx
    exact absurd rfl hx
  · cases heq
    exact href c r hc hr

/-- Whether the targets of `met` lead to a schema by references alone. -/
def LeadHere (set : Schema.Set) (V : Source → Json → Prop) (met : List Key) (s : Source)
    (schema : Json) : Prop :=
  ∀ key ∈ met, ∃ u n t, V u.source u.schema ∧ u.key = key ∧ set.follow n u = some t ∧
    t.source = s ∧ t.schema = schema

/-- One more reference: the targets before lead to the new one, and so does the new one itself. -/
theorem LeadHere.step {V : Source → Json → Prop} {met : List Key} {s : Source} {schema : Json}
    (h : LeadHere set V met s schema) {r : String} {t : Target} (hr : reference? schema = some r)
    (ht : set.resolve r s = .ok t) (hV : V t.source t.schema) :
    LeadHere set V (t.key :: met) t.source t.schema ∧
      (t.key ∈ met → (∀ u : Target, V u.source u.schema → u.key = t.key → u = t) →
        set.Circles t) := by
  have hlead : ∀ key ∈ met, ∃ u n, V u.source u.schema ∧ u.key = key ∧
      set.follow (n + 1) u = some t := by
    intro key hkey
    obtain ⟨u, n, c, hu, hukey, hfollow, rfl, rfl⟩ := h key hkey
    refine ⟨u, n, hu, hukey, ?_⟩
    rw [Schema.Set.follow_add, hfollow]
    exact (Schema.Set.follow_succ_of_next? (Schema.Set.next?_eq_some.mpr ⟨r, hr, ht⟩) 0)
  refine ⟨fun key hkey => ?_, fun hmem hunique => ?_⟩
  · rcases List.mem_cons.mp hkey with rfl | hkey
    · exact ⟨t, 0, t, hV, rfl, rfl, rfl, rfl⟩
    · obtain ⟨u, n, hu, hukey, hfollow⟩ := hlead key hkey
      exact ⟨u, n + 1, t, hu, hukey, hfollow, rfl, rfl⟩
  · obtain ⟨u, n, hu, hukey, hfollow⟩ := hlead t.key hmem
    obtain rfl := hunique u hu hukey
    exact Schema.Set.circles_of_return hfollow

/-- At the key of a target that does not lead round, the plan writes in the shape of the target. -/
theorem agree_write_key {plan : Plan}
    (hvisits : Plan.Visits set base (Met anywhere set base root))
    (hmirrors : Plan.Mirrors set (Met anywhere set base root) [] plan.targets) {t : Target}
    (hV : Met anywhere set base root t.source t.schema) (hcircles : ¬ set.Circles t)
    (hcontains : Table.contains t.key plan.targets = true) {v : Json}
    {direct : Except SerializeError Written} {room : Nat}
    (hshape : ∀ less < room, ∀ shape, Plan.Shapes set plan.targets t.source
      (.ofSchema set t.source t.schema) shape → Agree (plan.write less shape v) direct) :
    Agree (plan.write room (.reference t.key) v) direct := by
  cases room with
  | zero => exact .tooDeep_left _
  | succ room =>
      rw [Plan.write]
      cases hentry : Table.find? t.key plan.targets with
      | none =>
          unfold Table.contains at hcontains
          rw [hentry] at hcontains
          cases hcontains
      | some entry =>
          cases entry with
          | none =>
              obtain ⟨u, hu, hkey, hnever | hthere⟩ := hmirrors.unshaped _ hentry
              · cases hnever
              · obtain rfl := hvisits.target_eq hu hV hkey
                exact absurd hthere hcircles
          | some shape =>
              obtain ⟨u, hu, hkey, hshapes⟩ := hmirrors.shaped _ _ hentry
              obtain rfl := hvisits.target_eq hu hV hkey
              exact hshape room (Nat.lt_succ_self room) shape hshapes

variable (hset : set.IsSound base) (hroot : root.IsSound) (hidentified : set.IsIdentified base)
variable (huncomposed : ∀ s schema, Reaches anywhere set base root s schema → IsUncomposed schema)
variable {plan : Plan} (hmirrors : Plan.Mirrors set (Met anywhere set base root) [] plan.targets)
include hset hroot hidentified huncomposed hmirrors

/-- **A shape writes what its schema says**, by induction on the depth of the plan. -/
theorem agree_write : ∀ (room : Nat) {s : Source} {schema : Json} {node : Node},
    Reaches anywhere set base root s schema →
    Plan.Shapes set plan.targets s (.ofSchema set s schema) node →
    ∀ (depth : Nat) {met : List Key}, LeadHere set (Met anywhere set base root) met s schema → ∀ v,
    Agree (plan.write room node v) (Direct.write set plan.rounding depth met s schema v) := by
  have hvisits := visits_met (looksWithin_of_isUncomposed hset hroot huncomposed) hidentified
  intro room
  induction room using Nat.strongRecOn with
  | _ room ih =>
      intro s schema node hreaches hshapes depth met hmet v
      cases depth with
      | zero => exact .tooDeep_right _
      | succ depth =>
          rw [Direct.write]
          cases href : reference? schema with
          | some r =>
              have hsketch : Sketch.ofSchema set s schema = .reference (.ok r) :=
                Sketch.sketch_of_reference? href
              rw [hsketch] at hshapes
              obtain ⟨r', t, heq, ht, rfl, hcontains⟩ := hshapes
              cases heq
              dsimp only
              rw [ht]
              dsimp only
              have hV := hreaches.met_target href ht
              obtain ⟨hnext, hround⟩ := hmet.step href ht hV
              by_cases hcircles : set.Circles t
              · refine (isPlain_write hvisits hmirrors v room hV hcircles).agree ?_
                split
                · exact Or.inr rfl
                · exact isPlain_direct plan.rounding v depth _ hcircles
              · have hnew : met.contains t.key = false := by
                  rw [List.contains_eq_mem, decide_eq_false_iff_not]
                  exact fun hmem => hcircles (hround hmem fun u hu hkey =>
                    hvisits.target_eq hu hV hkey)
                rw [hnew, if_neg Bool.false_ne_true]
                exact agree_write_key hvisits hmirrors hV hcircles hcontains
                  fun less hless _ hshape => ih less hless hV.1 hshape depth hnext v
          | none =>
              have hinside : ∀ less < room, ∀ c ∈ Sketch.inside schema,
                  Agrees (Plan.RefersTo set plan.targets s) (Plan.testOf set s)
                    (Sketch.ofSchema set s) (plan.write less)
                    (Direct.write set plan.rounding depth [] s) c := by
                intro less hless c hc node hlinks v
                exact ih less hless (hreaches.anywhere_inside href hc) hlinks depth
                  (fun _ h => by cases h) v
              dsimp only
              cases schema with
              | object members =>
                  have hplain := huncomposed s _ hreaches
                  have hnodup := (hreaches.isSound hset hroot).nodup
                  unfold Plan.Shapes Sketch.ofSchema at hshapes
                  rw [Sketch.sketch_of_isUncomposed hnodup href hplain] at hshapes
                  exact agree_writeBy hinside (hplain "anyOf" (by decide))
                    (hplain "oneOf" (by decide)) hshapes (Nat.le_refl room) v
              | _ =>
                  unfold Plan.Shapes Sketch.ofSchema at hshapes
                  rw [Sketch.sketch] at hshapes
                  · cases hshapes
                    cases room with
                    | zero => exact .tooDeep_left _
                    | succ room => cases v <;> exact .refl _
                  all_goals intro members h; cases h

end

/-- **A plan writes what the direct way writes.**  The schemas are those of any stores, seen from one
of their documents or from a schema on a route, and none that can be reached is composed.  For every
value the plan comes to the same text or the same error as the way that follows each reference
afresh, whatever depth that is granted, unless one of the two goes too deep. -/
theorem serialize_eq_direct {stores : List Schema.Store} {generation : Nat} {base : Source}
    {root : Json} {rounding : Rounding} {plan : Plan}
    (hbase : base.origin = .inline ∨ base ∈ Schema.Set.sourcesOf stores)
    (hset : (Schema.Set.ofStores stores generation).IsSound base) (hroot : root.IsSound)
    (huncomposed : ∀ s schema,
      Reaches anywhere (Schema.Set.ofStores stores generation) base root s schema →
      IsUncomposed schema)
    (hbuild : Plan.build (Schema.Set.ofStores stores generation) base root rounding = .ok plan)
    (depth : Nat) (v : Json) (hplan : plan.serialize v ≠ .error .tooDeep)
    (hdirect : Direct.serialize (Schema.Set.ofStores stores generation) base root rounding depth v ≠
      .error .tooDeep) :
    plan.serialize v =
      Direct.serialize (Schema.Set.ofStores stores generation) base root rounding depth v := by
  have hidentified := @Schema.Set.isIdentified_ofStores stores generation base hbase
  have hlooks := looksWithin_of_isUncomposed hset hroot huncomposed
  obtain ⟨hmirrors, hshapes, hrounding⟩ := Plan.mirrors_of_build
    (visits_met hlooks hidentified) (leads_of_reaches hlooks .root) hbuild
  have hmet : LeadHere (Schema.Set.ofStores stores generation)
      (Met anywhere (Schema.Set.ofStores stores generation) base root) [] base root := fun _ h => by cases h
  have hagree := agree_write hset hroot hidentified huncomposed hmirrors
    (SerializeError.greatestDepth + 1) .root hshapes depth hmet v
  rw [hrounding] at hagree
  rw [Plan.serialize_eq] at hplan ⊢
  exact (hagree.bind fun w => .refl (pure w.text)).eq hplan hdirect

def sizeSchema : Json := .object [("type", .string "integer")]

/-- A list of sizes that contains itself, and two references that lead to each other. -/
def ringSchema : Json :=
  .object [("type", .string "object"),
    ("properties", .object [("size", sizeSchema), ("next", referenceTo "#"),
      ("loop", referenceTo "#/definitions/x")]),
    ("definitions", .object [("x", referenceTo "#/definitions/y"), ("y", referenceTo "#/definitions/x")])]

/-- A list of three, with a value where the references go round. -/
def ringValue : Json :=
  .object [("next", .object [("next", .object []), ("size", .null), ("more", .bool true)]),
    ("loop", .object [("free", .bool true)]), ("size", .string "12")]

theorem mem_of_reaches_ring {s : Source} {schema : Json}
    (h : Reaches anywhere (.ofStores [] 0) (.ofInline ringSchema) ringSchema s schema) :
    schema ∈ [ringSchema, sizeSchema, referenceTo "#", referenceTo "#/definitions/x",
      referenceTo "#/definitions/y"] := by
  refine (mem_of_reaches_ofInline (by simp) ?_ ?_ h).2
  · have hring : Sketch.inside ringSchema =
      [sizeSchema, referenceTo "#", referenceTo "#/definitions/x"] := rfl
    intro c hc hnone d hd
    simp only [List.mem_cons, List.not_mem_nil, or_false] at hc
    rcases hc with rfl | rfl | rfl | rfl | rfl
    · rw [hring] at hd
      exact List.mem_cons_of_mem _ ((List.prefix_append _ _).subset hd)
    · cases hd
    · cases hnone
    · cases hnone
    · cases hnone
  · intro c hc r hr
    simp only [List.mem_cons, List.not_mem_nil, or_false] at hc
    rcases hc with rfl | rfl | rfl | rfl | rfl <;> cases hr
    · exact ⟨"", ringSchema, by simp, rfl, by decide +kernel⟩
    · exact ⟨"/definitions/x", referenceTo "#/definitions/y", by simp, rfl, by decide +kernel⟩
    · exact ⟨"/definitions/y", referenceTo "#/definitions/x", by simp, rfl, by decide +kernel⟩

theorem serialize_eq_direct_ring : ∃ plan,
    Plan.build (.ofStores [] 0) (.ofInline ringSchema) ringSchema .trunc = .ok plan ∧
      plan.serialize ringValue =
        Direct.serialize (.ofStores [] 0) (.ofInline ringSchema) ringSchema .trunc 20 ringValue ∧
      plan.serialize ringValue = .ok
        "\x7b\"size\":12,\"next\":\x7b\"size\":0,\"next\":\x7b\x7d\x7d,\"loop\":\x7b\"free\":true\x7d\x7d" := by
  have hrun : ((Plan.build (.ofStores [] 0) (.ofInline ringSchema) ringSchema .trunc).toOption.bind
      fun plan => (plan.serialize ringValue).toOption) = some
        "\x7b\"size\":12,\"next\":\x7b\"size\":0,\"next\":\x7b\x7d\x7d,\"loop\":\x7b\"free\":true\x7d\x7d" := by
    decide +kernel
  obtain ⟨plan, hplan, htext⟩ := Option.bind_eq_some_iff.mp hrun
  rw [Result.toOption_eq_some] at hplan htext
  have hdirect : (Direct.serialize (.ofStores [] 0) (.ofInline ringSchema) ringSchema .trunc 20
      ringValue).toOption.isSome = true := by decide +kernel
  have halias : ∀ reference, (referenceTo reference).IsSound := fun reference =>
    Json.isSound_cons (by decide) (.string _) Json.isSound_nil
  have hsound : ringSchema.IsSound := by
    refine Json.isSound_cons (by decide) (.string _) (Json.isSound_cons (by decide) ?_
      (Json.isSound_cons (by decide) ?_ Json.isSound_nil))
    · refine Json.isSound_cons (by decide) ?_ (Json.isSound_cons (by decide) (halias _)
        (Json.isSound_cons (by decide) (halias _) Json.isSound_nil))
      exact Json.isSound_cons (by decide) (.string _) Json.isSound_nil
    · exact Json.isSound_cons (by decide) (halias _) (Json.isSound_cons (by decide) (halias _)
        Json.isSound_nil)
  have hset : (Schema.Set.ofStores [] 0).IsSound (.ofInline ringSchema) := by
    intro s hs
    rw [List.mem_singleton.mp hs]
    exact hsound
  refine ⟨plan, hplan, ?_, htext⟩
  refine serialize_eq_direct (Or.inl rfl) hset hsound (fun s schema h => ?_) hplan 20 ringValue
    (by rw [htext]; exact fun h => by cases h) fun h => by rw [h] at hdirect; cases hdirect
  have hmem := mem_of_reaches_ring h
  simp only [List.mem_cons, List.not_mem_nil, or_false] at hmem
  intro keyword hkeyword
  simp only [List.mem_cons, List.not_mem_nil, or_false] at hkeyword
  rcases hmem with rfl | rfl | rfl | rfl | rfl <;> rcases hkeyword with rfl | rfl | rfl <;> rfl

end ReplySchema.Serializer

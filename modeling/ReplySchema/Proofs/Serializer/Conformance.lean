import ReplySchema.Proofs.Serializer.Concur
import ReplySchema.Proofs.Serializer.Conforming
import ReplySchema.Proofs.Serializer.Output

/-! # Conforming values are written as they are

What is kept of a conforming value is what the direct way of writing comes to, as soon as the
depth is great enough (`writesAs_of_conforms`): the induction is on how the value conforms,
and each case is one schema that has its type.  References never go round where a value
conforms, so the direct way never meets a target twice.

A plan agrees with the direct way, and there is one if all references can be followed.

Main statement: `serialize_conforming`.
-/

set_option autoImplicit false

namespace ReplySchema.Serializer

open Schema (Key Source Target reference? referenceTo)

/-! ## §1  Straight writing -/

section

variable {write : Json → Json → Except SerializeError Written} {schema : Json}

theorem writeProperties_eq {members : List (String × Json)} :
    ∀ {entries kept : List (String × Json)}, (Table.keys entries).Nodup →
      (∀ e ∈ entries, e.2.get? "default" = none) →
      Table.keys kept = (Table.keys entries).filter (fun name => Table.contains name members) →
      (∀ e ∈ entries, ∀ x x', Table.find? e.1 members = some x → Table.find? e.1 kept = some x' →
        write e.2 x = .ok (.ofJson x')) →
      Direct.writeProperties write members entries =
        .ok (kept.map fun m => (m.1, Written.ofJson m.2))
  | [], kept, _, _, hnames, _ => by
      obtain rfl : kept = [] := List.map_eq_nil_iff.mp hnames
      rfl
  | (name, inner) :: rest, kept, hnodup, hdefault, hnames, hwrite => by
      obtain ⟨hfresh, hrest⟩ := List.nodup_cons.mp hnodup
      have hkeys : Table.keys ((name, inner) :: rest) = name :: Table.keys rest := rfl
      have hdefaults : ∀ e ∈ rest, e.2.get? "default" = none := fun e he =>
        hdefault e (List.mem_cons_of_mem _ he)
      have hnone : inner.get? "default" = none := hdefault _ List.mem_cons_self
      rw [hkeys, List.filter_cons] at hnames
      rw [Direct.writeProperties, hnone]
      cases hfind : Table.find? name members with
      | none =>
          have hnot := Table.contains_of_find?_none hfind
          rw [hnot] at hnames
          exact writeProperties_eq hrest hdefaults hnames fun e he =>
            hwrite e (List.mem_cons_of_mem _ he)
      | some x =>
          have hthere := Table.contains_of_find?_some hfind
          rw [hthere, if_pos rfl] at hnames
          cases kept with
          | nil => cases hnames
          | cons m more =>
              obtain ⟨rfl, hmore⟩ := List.cons.inj hnames
              have hfirst := hwrite _ List.mem_cons_self x m.2 hfind (if_pos rfl)
              have hothers := writeProperties_eq hrest hdefaults hmore fun e he y y' hy hy' => by
                refine hwrite e (List.mem_cons_of_mem _ he) y y' hy ?_
                rw [Table.find?_cons, if_neg fun heq => hfresh (List.mem_map.mpr ⟨e, he, heq.symm⟩)]
                exact hy'
              change (do
                let written ← write inner x
                return (m.1, written) :: (← Direct.writeProperties write members rest)) = _
              rw [hfirst, hothers]
              rfl

theorem writeOthers_eq (hother : ∀ name, Direct.other? schema name = none) :
    ∀ members, Direct.writeOthers write schema members = .ok []
  | [] => rfl
  | m :: rest => by
      rw [Direct.writeOthers, hother, writeOthers_eq hother rest]
      split <;> rfl

theorem writeItems_eq {rest : Option Json} : ∀ {front items kept : List Json},
    kept.length = items.length →
    (∀ (i : Nat) (x x' : Json), items[i]? = some x → kept[i]? = some x' →
      Direct.writeAny write (front[i]? <|> rest) x = .ok (.ofJson x')) →
    Direct.writeItems write rest front items = .ok (kept.map Written.ofJson)
  | [], [], [], _, _ => rfl
  | _ :: _, [], [], _, _ => rfl
  | [], x :: xs, x' :: xs', hlength, hwrite => by
      have hfirst := hwrite 0 x x' rfl rfl
      have hmore : Direct.writeItems write rest [] xs = .ok (xs'.map Written.ofJson) :=
        writeItems_eq (Nat.succ.inj hlength) fun i => hwrite (i + 1)
      rw [Direct.writeItems, hmore]
      exact congrArg (· >>= fun w => pure (w :: xs'.map Written.ofJson)) hfirst
  | c :: front, x :: xs, x' :: xs', hlength, hwrite => by
      have hfirst := hwrite 0 x x' rfl rfl
      have hmore : Direct.writeItems write rest front xs = .ok (xs'.map Written.ofJson) :=
        writeItems_eq (Nat.succ.inj hlength) fun i => hwrite (i + 1)
      rw [Direct.writeItems, hmore]
      exact congrArg (· >>= fun w => pure (w :: xs'.map Written.ofJson)) hfirst

variable {rounding : Rounding} {name : String}

theorem writeFixed_of_hasType (h : HasType schema name) (v : Json) :
    Direct.writeFixed rounding write schema v =
      Direct.writeTyped rounding write schema name v := by
  have hconst : schema.get? "const" = none := h.foreign "const" (by decide)
  have htype : Direct.type? schema v = some name := by
    unfold Direct.type?
    rw [h.type]
  unfold Direct.writeFixed
  rw [hconst, htype]
  rfl

theorem writeBy_of_hasType (h : HasType schema name) {v : Json} (hv : v ≠ .null) :
    Direct.writeBy rounding write schema v = Direct.writeTyped rounding write schema name v := by
  unfold Direct.writeBy
  split
  · exact absurd rfl hv
  · exact writeFixed_of_hasType h _

theorem writeBy_of_isFree (h : IsFree schema) (v : Json) :
    Direct.writeBy rounding write schema v = .ok (.ofJson v) := by
  have hnone : ∀ keyword ∈ basicKeywords ++ foreignKeywords, schema.get? keyword = none := h.keyword
  have hhinted : Direct.hinted? schema = none := by
    unfold Direct.hinted? Direct.hasAny
    simp only [List.any_cons, List.any_nil, hnone "properties" (by decide),
      hnone "patternProperties" (by decide), hnone "additionalProperties" (by decide),
      hnone "required" (by decide), hnone "items" (by decide), hnone "prefixItems" (by decide)]
    rfl
  unfold Direct.writeBy Direct.writeFixed Direct.type?
  rw [hnone "nullable" (by decide), hnone "const" (by decide), hnone "type" (by decide), hhinted]
  rfl

theorem other?_of_hasType (h : HasType schema name) (member : String) :
    Direct.other? schema member = none := by
  have hpatterns : schema.get? "patternProperties" = none := h.foreign _ (by decide)
  have hadditional : schema.get? "additionalProperties" = none := h.foreign _ (by decide)
  unfold Direct.other? Direct.entries Direct.additional? Direct.object?
  rw [hpatterns, hadditional]
  rfl

theorem writeBy_object (h : HasType schema "object") {members kept : List (String × Json)}
    (hsound : schema.IsSound)
    (hrequired : ∀ name ∈ Direct.required schema, Table.contains name members = true)
    (hdefault : ∀ e ∈ Direct.entries "properties" schema, e.2.get? "default" = none)
    (hnames : Table.keys kept = (Table.keys (Direct.entries "properties" schema)).filter
      fun name => Table.contains name members)
    (hwrite : ∀ e ∈ Direct.entries "properties" schema, ∀ x x',
      Table.find? e.1 members = some x → Table.find? e.1 kept = some x' →
      write e.2 x = .ok (.ofJson x')) :
    Direct.writeBy rounding write schema (.object members) = .ok (.ofJson (.object kept)) := by
  have hmissing : Direct.missing? schema members = none := by
    refine List.find?_eq_none.mpr fun name hname => ?_
    rw [hrequired name hname]
    exact Bool.false_ne_true
  have hdeclared := writeProperties_eq (nodup_entries hsound "properties") hdefault hnames hwrite
  have hothers : Direct.writeOthers write schema members = .ok [] :=
    writeOthers_eq (other?_of_hasType h) members
  refine (writeBy_of_hasType h fun heq => by cases heq).trans ?_
  change Direct.writeObject write schema (.object members) = _
  unfold Direct.writeObject
  dsimp only [Json.members]
  rw [hmissing]
  dsimp only
  rw [hdeclared, hothers, Written.ofJson, Written.ofMembers_eq_map]
  exact congrArg (fun ms => Except.ok (Written.object ms)) (List.append_nil _)

theorem writeBy_array (h : HasType schema "array") {items kept : List Json}
    (hlength : kept.length = items.length)
    (hwrite : ∀ (i : Nat) (x x' : Json), items[i]? = some x → kept[i]? = some x' →
      Direct.writeAny write (itemSchema? schema i) x = .ok (.ofJson x')) :
    Direct.writeBy rounding write schema (.array items) = .ok (.ofJson (.array kept)) := by
  have hitems := writeItems_eq hlength hwrite
  refine (writeBy_of_hasType h fun heq => by cases heq).trans ?_
  change (do return Written.array (← Direct.writeItems write (Direct.rest? schema)
    (Direct.front schema) items)) = _
  rw [hitems, Written.ofJson, Written.ofItems_eq_map]
  rfl

end

/-! ## §2  What is kept is written -/

/-- From a depth for each member of a list, a depth for all. -/
theorem exists_bound {α : Type} {P : α → Nat → Prop} : ∀ {xs : List α},
    (∀ x ∈ xs, ∃ bound, ∀ depth ≥ bound, P x depth) →
    ∃ bound, ∀ x ∈ xs, ∀ depth ≥ bound, P x depth
  | [], _ => ⟨0, fun _ h => by cases h⟩
  | x :: rest, h => by
      obtain ⟨b, hb⟩ := h x List.mem_cons_self
      obtain ⟨c, hc⟩ := exists_bound fun y hy => h y (List.mem_cons_of_mem _ hy)
      refine ⟨max b c, fun y hy depth hdepth => ?_⟩
      rcases List.mem_cons.mp hy with rfl | hy
      · exact hb depth (Nat.le_trans (Nat.le_max_left b c) hdepth)
      · exact hc y hy depth (Nat.le_trans (Nat.le_max_right b c) hdepth)

/-- From a depth for each place where there is a value and what is kept of it, a depth for all. -/
theorem exists_boundOfFound {α : Type} {places : List α} {found kept : α → Option Json}
    {P : α → Json → Json → Nat → Prop}
    (h : ∀ a ∈ places, ∀ x x', found a = some x → kept a = some x' →
      ∃ bound, ∀ depth ≥ bound, P a x x' depth) :
    ∃ bound, ∀ depth ≥ bound, ∀ a ∈ places, ∀ x x', found a = some x → kept a = some x' →
      P a x x' depth := by
  have hone : ∀ a ∈ places, ∃ bound, ∀ depth ≥ bound, ∀ x x', found a = some x →
      kept a = some x' → P a x x' depth := by
    intro a ha
    cases hx : found a with
    | none => exact ⟨0, fun _ _ _ _ hy => by cases hy⟩
    | some x =>
        cases hx' : kept a with
        | none => exact ⟨0, fun _ _ _ _ _ hy' => by cases hy'⟩
        | some x' =>
            obtain ⟨bound, hbound⟩ := h a ha x x' hx hx'
            refine ⟨bound, fun depth hdepth y y' hy hy' => ?_⟩
            cases hy
            cases hy'
            exact hbound depth hdepth
  obtain ⟨bound, hbound⟩ := exists_bound hone
  exact ⟨bound, fun depth hdepth a ha => hbound a ha depth hdepth⟩

section

variable {set : Schema.Set} {base : Source} {root : Json} {rounding : Rounding}

/-- Whether from some depth on the direct way writes a value as another one, wherever no target
that was met leads elsewhere. -/
def WritesAs (set : Schema.Set) (base : Source) (root : Json) (rounding : Rounding) (s : Source)
    (schema v w : Json) : Prop :=
  ∃ bound, ∀ depth ≥ bound, ∀ met, LeadHere set (Met anywhere set base root) met s schema →
    Direct.write set rounding depth met s schema v = .ok (.ofJson w)

/-- Below a schema that is no reference, no target was met. -/
theorem WritesAs.fresh {s : Source} {schema v w : Json}
    (h : WritesAs set base root rounding s schema v w) :
    ∃ bound, ∀ depth ≥ bound, Direct.write set rounding depth [] s schema v = .ok (.ofJson w) := by
  obtain ⟨bound, hbound⟩ := h
  exact ⟨bound, fun depth hdepth => hbound depth hdepth [] fun _ h => by cases h⟩

/-- A schema that is no reference forgets the targets that lead to it. -/
theorem writesAs_of_writeBy {s : Source} {schema v w : Json} (hnone : reference? schema = none)
    (bound : Nat) (hwrite : ∀ depth ≥ bound,
      Direct.writeBy rounding (Direct.write set rounding depth [] s) schema v = .ok (.ofJson w)) :
    WritesAs set base root rounding s schema v w := by
  refine ⟨bound + 1, fun depth hdepth met _ => ?_⟩
  obtain ⟨less, rfl⟩ := Nat.exists_eq_add_of_le' (Nat.le_trans (Nat.le_add_left 1 bound) hdepth)
  rw [Direct.write, hnone]
  exact hwrite less (Nat.le_of_succ_le_succ hdepth)

/-- A reference is written as its target, which is new, since the references come to an end. -/
theorem WritesAs.of_target {s : Source} {schema v w : Json} {r : String} {t : Target}
    (hr : reference? schema = some r) (ht : set.resolve r s = .ok t)
    (hV : Met anywhere set base root t.source t.schema) (hends : ¬ set.Circles t)
    (hunique : ∀ u : Target, Met anywhere set base root u.source u.schema → u.key = t.key → u = t)
    (h : WritesAs set base root rounding t.source t.schema v w) :
    WritesAs set base root rounding s schema v w := by
  obtain ⟨bound, hbound⟩ := h
  refine ⟨bound + 1, fun depth hdepth met hmet => ?_⟩
  obtain ⟨less, rfl⟩ := Nat.exists_eq_add_of_le' (Nat.le_trans (Nat.le_add_left 1 bound) hdepth)
  obtain ⟨hnext, hround⟩ := hmet.step hr ht hV
  have hnew : met.contains t.key = false := by
    rw [List.contains_eq_mem, decide_eq_false_iff_not]
    exact fun hmem => hends (hround hmem hunique)
  rw [Direct.write, hr]
  dsimp only
  rw [ht]
  dsimp only
  rw [hnew, if_neg Bool.false_ne_true]
  exact hbound less (Nat.le_of_succ_le_succ hdepth) _ hnext

theorem writesAs_array {s : Source} {schema : Json} (h : HasType schema "array")
    {items kept : List Json} (hlength : kept.length = items.length)
    (hitems : ∀ (i : Nat) (x x' : Json), items[i]? = some x → kept[i]? = some x' →
      (∀ c, itemSchema? schema i = some c → WritesAs set base root rounding s c x x') ∧
        (itemSchema? schema i = none → x' = x)) :
    WritesAs set base root rounding s schema (.array items) (.array kept) := by
  have hone : ∀ i ∈ List.range items.length, ∀ x x', items[i]? = some x → kept[i]? = some x' →
      ∃ bound, ∀ depth ≥ bound,
        Direct.writeAny (Direct.write set rounding depth [] s) (itemSchema? schema i) x =
          .ok (.ofJson x') := by
    intro i _ x x' hx hx'
    obtain ⟨hwrites, hfree⟩ := hitems i x x' hx hx'
    cases hc : itemSchema? schema i with
    | none =>
        rw [hfree hc]
        exact ⟨0, fun _ _ => rfl⟩
    | some c => exact (hwrites c hc).fresh
  obtain ⟨bound, hbound⟩ := exists_boundOfFound hone
  refine writesAs_of_writeBy h.reference bound fun depth hdepth =>
    writeBy_array h hlength fun i x x' hx hx' => ?_
  have hi := List.mem_range.mpr (List.getElem?_eq_some_iff.mp hx).1
  exact hbound depth hdepth i hi x x' hx hx'

theorem writesAs_object {s : Source} {schema : Json} (h : HasType schema "object")
    {members kept : List (String × Json)} (hsound : schema.IsSound)
    (hrequired : ∀ name ∈ Direct.required schema, Table.contains name members = true)
    (hdefault : ∀ e ∈ Direct.entries "properties" schema, e.2.get? "default" = none)
    (hnames : Table.keys kept = (Table.keys (Direct.entries "properties" schema)).filter
      fun name => Table.contains name members)
    (hmembers : ∀ e ∈ Direct.entries "properties" schema, ∀ x x',
      Table.find? e.1 members = some x → Table.find? e.1 kept = some x' →
        WritesAs set base root rounding s e.2 x x') :
    WritesAs set base root rounding s schema (.object members) (.object kept) := by
  have hone : ∀ e ∈ Direct.entries "properties" schema, ∀ x x',
      Table.find? e.1 members = some x → Table.find? e.1 kept = some x' →
      ∃ bound, ∀ depth ≥ bound,
        Direct.write set rounding depth [] s e.2 x = .ok (.ofJson x') :=
    fun e he x x' hx hx' => (hmembers e he x x' hx hx').fresh
  obtain ⟨bound, hbound⟩ := exists_boundOfFound hone
  exact writesAs_of_writeBy h.reference bound fun depth hdepth =>
    writeBy_object h hsound hrequired hdefault hnames (hbound depth hdepth)

variable (rounding)
variable (hset : set.IsSound base) (hroot : root.IsSound) (hidentified : set.IsIdentified base)
variable (hbasic : ∀ s schema, Reaches anywhere set base root s schema → IsBasic schema)
include hset hroot hidentified hbasic

/-- **The direct way writes what is kept of a conforming value**, from some depth on. -/
theorem writesAs_of_conforms {s : Source} {schema v : Json} (h : Conforms set s schema v) :
    Reaches anywhere set base root s schema → ∀ w, Trims set s schema v w →
      WritesAs set base root rounding s schema v w := by
  have hvisits := visits_met (looksWithin_of_isUncomposed hset hroot fun s schema h =>
    (hbasic s schema h).isUncomposed) hidentified
  -- Induction on why the value conforms, which also bounds the way through references.
  induction h with
  | @reference s schema v r t hr ht h ih =>
      intro hreaches w hw
      have hV := hreaches.met_target hr ht
      exact (ih (hreaches.target hr ht) w (hw.of_reference hr ht)).of_target hr ht hV
        (h.not_circles t rfl rfl) fun u hu hkey => hvisits.target_eq hu hV hkey
  | free h v =>
      intro _ w hw
      rw [hw.eq_of_isFree h]
      exact writesAs_of_writeBy h.reference 0 fun _ _ => writeBy_of_isFree h v
  | absent h hnullable =>
      intro _ w hw
      rw [hw.eq_of_scalar h.reference rfl rfl]
      refine writesAs_of_writeBy h.reference 0 fun _ _ => ?_
      unfold Direct.writeBy
      rw [hnullable]
      rfl
  | null h =>
      intro _ w hw
      rw [hw.eq_of_scalar h.reference rfl rfl]
      refine writesAs_of_writeBy h.reference 0 fun _ _ => ?_
      unfold Direct.writeBy
      split
      · rfl
      · exact writeFixed_of_hasType h .null
  | boolean h b =>
      intro _ w hw
      rw [hw.eq_of_scalar h.reference rfl rfl]
      exact writesAs_of_writeBy h.reference 0 fun _ _ =>
        writeBy_of_hasType h fun heq => by cases heq
  | integer h n =>
      intro _ w hw
      rw [hw.eq_of_scalar h.reference rfl rfl]
      exact writesAs_of_writeBy h.reference 0 fun _ _ =>
        writeBy_of_hasType h fun heq => by cases heq
  | string h text =>
      intro _ w hw
      rw [hw.eq_of_scalar h.reference rfl rfl]
      exact writesAs_of_writeBy h.reference 0 fun _ _ =>
        writeBy_of_hasType h fun heq => by cases heq
  | @array s schema items h hitems ih =>
      intro hreaches w hw
      obtain ⟨kept, rfl, hlength, hkept⟩ := hw.of_array h
      refine writesAs_array h hlength fun i x x' hx hx' => ⟨fun c hc => ?_, (hkept i x x' hx hx').2⟩
      exact ih i x c hx hc (hreaches.anywhere_inside h.reference (mem_inside_of_itemSchema? hc)) x'
        ((hkept i x x' hx hx').1 c hc)
  | @object s schema members h hrequired hmembers ih =>
      intro hreaches w hw
      obtain ⟨kept, rfl, hnames, hkept⟩ := hw.of_object h
      have hinside : ∀ e ∈ Direct.entries "properties" schema,
          Reaches anywhere set base root s e.2 := fun e he =>
        hreaches.anywhere_inside h.reference (mem_inside_of_entries rfl he)
      exact writesAs_object h (hreaches.isSound hset hroot) hrequired
        (fun e he => (hbasic s e.2 (hinside e he)).foreign "default" (by decide)) hnames
        fun e he x x' hx hx' => ih e he x hx (hinside e he) x' (hkept e he x x' hx hx')

end

/-! ## §3  The plan -/

section

variable {set : Schema.Set} {base : Source} {root : Json}
variable (hset : set.IsSound base) (hroot : root.IsSound)
variable (huncomposed : ∀ s schema, Reaches anywhere set base root s schema → IsUncomposed schema)
variable (hresolve : ∀ s schema r, Reaches anywhere set base root s schema →
  reference? schema = some r → ∃ t, set.resolve r s = .ok t)
include hset hroot huncomposed hresolve

theorem concur_linkBelow_of_resolve : ∀ (room : Nat) {s : Source} {schema : Json},
    Reaches anywhere set base root s schema →
    Concur (Plan.linkBelow set room s (.ofSchema set s schema))
      (Plan.linkBelow set room s (.ofSchema set s schema)) := by
  intro room
  induction room using Nat.strongRecOn with
  | _ room ih =>
      intro s schema hreaches
      rw [Plan.linkBelow_eq_link]
      refine Shape.concur_link _ ((Sketch.follows_uncomposed
        (H := Reaches anywhere set base root s) (fun _ h => h.isSound hset hroot)
        (fun c h => huncomposed s c h) (fun _ h hnone _ hd => h.anywhere_inside hnone hd)
        (fun x hx => ?_) fun c r hc hr => ?_).sketch hreaches)
      · refine ⟨fun r heq => ?_, fun _ _ _ _ _ _ => concur_pure _⟩
        rw [heq] at hx
        exact absurd rfl hx
      · refine ⟨fun reference heq => ?_, nofun⟩
        cases heq
        obtain ⟨t, ht⟩ := hresolve s c r hc hr
        have htarget : ((.ok r : Except SchemaError String).bind fun r => set.resolve r s) =
            .ok t := ht
        unfold Plan.onReference
        simp only [htarget]
        refine concur_lift (concur_bind concur_get fun targets => ?_)
        split
        · exact concur_pure _
        · cases room with
          | zero => exact concur_pure _
          | succ room =>
              refine concur_bind (concur_modify _) fun _ => ?_
              refine concur_bind (ih room (Nat.lt_succ_self room) (hc.target hr ht)) fun shape => ?_
              exact concur_bind (concur_modify _) fun _ => concur_pure _

/-- **A schema without composed ones has a plan**, if all references can be followed. -/
theorem exists_build_of_resolve (rounding : Rounding) :
    ∃ plan, Plan.build set base root rounding = .ok plan := by
  obtain ⟨⟨node, targets⟩, hlink, -⟩ := concur_linkBelow_of_resolve hset hroot huncomposed hresolve
    (set.targetBound base) .root []
  refine ⟨⟨node, targets, rounding⟩, ?_⟩
  unfold Plan.build
  dsimp only
  rw [hlink]
  rfl

end

/-- **A conforming value is written as what is kept of it.**  The schemas are those of any stores,
seen from one of their documents or from a schema on a route; all that can be reached are basic, and
all references can be followed.  There is a plan, and unless it goes too deep for a conforming
value, something is kept of the value and its compact text is what the plan writes. -/
theorem serialize_conforming {stores : List Schema.Store} {generation : Nat} {base : Source}
    {root : Json} (hbase : base.origin = .inline ∨ base ∈ Schema.Set.sourcesOf stores)
    (hset : (Schema.Set.ofStores stores generation).IsSound base) (hroot : root.IsSound)
    (hbasic : ∀ s schema,
      Reaches anywhere (Schema.Set.ofStores stores generation) base root s schema → IsBasic schema)
    (hresolve : ∀ s schema r,
      Reaches anywhere (Schema.Set.ofStores stores generation) base root s schema →
      reference? schema = some r → ∃ t, (Schema.Set.ofStores stores generation).resolve r s = .ok t)
    (rounding : Rounding) : ∃ plan,
      Plan.build (Schema.Set.ofStores stores generation) base root rounding = .ok plan ∧
      ∀ v, Conforms (Schema.Set.ofStores stores generation) base root v →
        plan.serialize v ≠ .error .tooDeep →
        (∃ w, Trims (Schema.Set.ofStores stores generation) base root v w) ∧
        ∀ w, Trims (Schema.Set.ofStores stores generation) base root v w →
          plan.serialize v = .ok w.text := by
  have hidentified := @Schema.Set.isIdentified_ofStores stores generation base hbase
  have huncomposed : ∀ s schema,
      Reaches anywhere (Schema.Set.ofStores stores generation) base root s schema →
      IsUncomposed schema := fun s schema h => (hbasic s schema h).isUncomposed
  have hlooks := looksWithin_of_isUncomposed hset hroot huncomposed
  obtain ⟨plan, hbuild⟩ := exists_build_of_resolve hset hroot huncomposed hresolve rounding
  obtain ⟨hmirrors, hshapes, hrounding⟩ := Plan.mirrors_of_build
    (visits_met hlooks hidentified) (leads_of_reaches hlooks .root) hbuild
  refine ⟨plan, hbuild, fun v hv hdeep => ⟨exists_trims hset hroot hv .root, fun w hw => ?_⟩⟩
  obtain ⟨depth, hdepth⟩ := writesAs_of_conforms plan.rounding hset hroot
    hidentified hbasic hv .root w hw
  have hmet : LeadHere (Schema.Set.ofStores stores generation)
      (Met anywhere (Schema.Set.ofStores stores generation) base root) [] base root :=
    fun _ h => by cases h
  have hagree := agree_write hset hroot hidentified huncomposed hmirrors
    (SerializeError.greatestDepth + 1) .root hshapes depth hmet v
  rw [hdepth depth (Nat.le_refl depth) [] hmet] at hagree
  have htext : Agree (plan.serialize v) (.ok w.text) := by
    rw [Plan.serialize_eq]
    exact hagree.bind fun w => .refl (pure w.text)
  exact htext.eq hdeep nofun

def countSchema : Json := .object [("type", .string "integer"), ("nullable", .bool true)]

def countsSchema : Json := .object [("type", .string "array"), ("items", countSchema)]

def noteSchema : Json :=
  .object [("type", .string "object"), ("required", .array [.string "counts"]),
    ("properties", .object [("counts", countsSchema), ("next", referenceTo "#")])]

def noteValue : Json :=
  .object [("draft", .bool true), ("next", .object [("counts", .array []), ("draft", .null)]),
    ("counts", .array [.int 2, .null])]

theorem hasType_noteSchema : HasType noteSchema "object" :=
  ⟨rfl, rfl, by decide, fun v hv => by cases hv⟩

theorem hasType_countsSchema : HasType countsSchema "array" := by
  refine ⟨rfl, rfl, by decide, fun v hv => ?_⟩
  cases hv
  rfl

theorem hasType_countSchema : HasType countSchema "integer" :=
  ⟨rfl, rfl, by decide, fun v hv => by cases hv⟩

theorem leadsTo_noteSchema : LeadsTo noteSchema "#" "" noteSchema := ⟨rfl, by decide +kernel⟩

theorem mem_of_reaches_note {s : Source} {schema : Json}
    (h : Reaches anywhere (.ofStores [] 0) (.ofInline noteSchema) noteSchema s schema) :
    s = .ofInline noteSchema ∧ schema ∈ [noteSchema, countsSchema, countSchema, referenceTo "#"] := by
  refine mem_of_reaches_ofInline (by simp) (fun c hc hnone d hd => ?_) (fun c hc r hr => ?_) h
  · have hnote : Sketch.inside noteSchema ++ Sketch.partsOf noteSchema.members =
      [countsSchema, referenceTo "#"] := rfl
    have hcounts : Sketch.inside countsSchema ++ Sketch.partsOf countsSchema.members =
      [countSchema] := rfl
    simp only [List.mem_cons, List.not_mem_nil, or_false] at hc
    rcases hc with rfl | rfl | rfl | rfl
    · rw [hnote] at hd
      simp only [List.mem_cons, List.not_mem_nil, or_false] at hd
      rcases hd with rfl | rfl <;> simp
    · rw [hcounts] at hd
      rw [List.mem_singleton.mp hd]
      simp
    · cases hd
    · cases hnone
  · simp only [List.mem_cons, List.not_mem_nil, or_false] at hc
    rcases hc with rfl | rfl | rfl | rfl <;> cases hr
    exact ⟨"", noteSchema, by simp, leadsTo_noteSchema⟩

theorem exists_target_note : ∃ t, (Schema.Set.ofStores [] 0).resolve "#" (.ofInline noteSchema) =
    .ok t ∧ t.source = .ofInline noteSchema ∧ t.schema = noteSchema := by
  have hsome : ((Schema.Set.ofStores [] 0).resolve "#" (.ofInline noteSchema)).toOption.isSome =
      true := by decide +kernel
  obtain ⟨t, ht⟩ := Option.isSome_iff_exists.mp hsome
  rw [Result.toOption_eq_some] at ht
  exact ⟨t, ht, leadsTo_noteSchema.target ht⟩

theorem conforms_counts (n : Int) : Conforms (.ofStores [] 0) (.ofInline noteSchema) countsSchema
    (.array [.int n, .null]) := by
  refine .array hasType_countsSchema fun i x c hx hc => ?_
  cases hc
  match i with
  | 0 =>
      cases hx
      exact .integer hasType_countSchema n
  | 1 =>
      cases hx
      exact .absent hasType_countSchema rfl
  | i + 2 => cases hx

theorem conforms_noteValue :
    Conforms (.ofStores [] 0) (.ofInline noteSchema) noteSchema noteValue := by
  obtain ⟨t, ht, hsource, hschema⟩ := exists_target_note
  have hentries : Direct.entries "properties" noteSchema =
    [("counts", countsSchema), ("next", referenceTo "#")] := rfl
  have hlast : Conforms (.ofStores [] 0) (.ofInline noteSchema) noteSchema
      (.object [("counts", .array []), ("draft", .null)]) := by
    refine .object hasType_noteSchema (by decide) fun e he x hx => ?_
    rw [hentries] at he
    simp only [List.mem_cons, List.not_mem_nil, or_false] at he
    rcases he with rfl | rfl
    · cases hx
      exact .array hasType_countsSchema fun i x c hx _ => by cases hx
    · cases hx
  refine .object hasType_noteSchema (by decide) fun e he x hx => ?_
  rw [hentries] at he
  simp only [List.mem_cons, List.not_mem_nil, or_false] at he
  rcases he with rfl | rfl
  · cases hx
    exact conforms_counts 2
  · cases hx
    refine .reference rfl ht ?_
    rw [hsource, hschema]
    exact hlast

theorem serialize_conforming_note : ∃ plan,
    Plan.build (.ofStores [] 0) (.ofInline noteSchema) noteSchema .floor = .ok plan ∧
      (∃ w, Trims (.ofStores [] 0) (.ofInline noteSchema) noteSchema noteValue w ∧
        plan.serialize noteValue = .ok w.text) ∧
      plan.serialize noteValue =
        .ok "\x7b\"counts\":[2,null],\"next\":\x7b\"counts\":[]\x7d\x7d" := by
  have hrun : ((Plan.build (.ofStores [] 0) (.ofInline noteSchema) noteSchema .floor).toOption.bind
      fun plan => (plan.serialize noteValue).toOption) =
        some "\x7b\"counts\":[2,null],\"next\":\x7b\"counts\":[]\x7d\x7d" := by
    decide +kernel
  have hcount : countSchema.IsSound :=
    Json.isSound_cons (by decide) (.string _) (Json.isSound_cons (by decide) (.bool _)
      Json.isSound_nil)
  have hcounts : countsSchema.IsSound :=
    Json.isSound_cons (by decide) (.string _) (Json.isSound_cons (by decide) hcount
      Json.isSound_nil)
  have hsound : noteSchema.IsSound := by
    refine Json.isSound_cons (by decide) (.string _) (Json.isSound_cons (by decide) ?_
      (Json.isSound_cons (by decide) ?_ Json.isSound_nil))
    · exact .array fun x hx => List.mem_singleton.mp hx ▸ .string _
    · exact Json.isSound_cons (by decide) hcounts (Json.isSound_cons (by decide)
        (isSound_referenceTo _) Json.isSound_nil)
  have hset : (Schema.Set.ofStores [] 0).IsSound (.ofInline noteSchema) := fun s hs =>
    List.mem_singleton.mp hs ▸ hsound
  have hbasic : ∀ s schema, Reaches anywhere (.ofStores [] 0) (.ofInline noteSchema) noteSchema
      s schema → IsBasic schema := by
    intro s schema h
    obtain ⟨-, hmem⟩ := mem_of_reaches_note h
    simp only [List.mem_cons, List.not_mem_nil, or_false] at hmem
    rcases hmem with rfl | rfl | rfl | rfl
    · exact .typed (by decide) hasType_noteSchema
    · exact .typed (by decide) hasType_countsSchema
    · exact .typed (by decide) hasType_countSchema
    · exact .reference rfl
  have hresolve : ∀ s schema r, Reaches anywhere (.ofStores [] 0) (.ofInline noteSchema) noteSchema
      s schema → reference? schema = some r → ∃ t, (Schema.Set.ofStores [] 0).resolve r s = .ok t := by
    intro s schema r h hr
    obtain ⟨rfl, hmem⟩ := mem_of_reaches_note h
    simp only [List.mem_cons, List.not_mem_nil, or_false] at hmem
    obtain ⟨t, ht, -⟩ := exists_target_note
    rcases hmem with rfl | rfl | rfl | rfl <;> cases hr
    exact ⟨t, ht⟩
  obtain ⟨plan, hplan, hall⟩ := serialize_conforming (Or.inl rfl) hset hsound hbasic hresolve .floor
  rw [hplan] at hrun
  have htext := Result.toOption_eq_some.mp hrun
  obtain ⟨⟨w, hw⟩, hwritten⟩ := hall noteValue conforms_noteValue fun h => by
    rw [h] at htext
    cases htext
  exact ⟨plan, hplan, ⟨w, hw, hwritten w hw⟩, htext⟩

end ReplySchema.Serializer

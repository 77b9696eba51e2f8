import ReplySchema.Proofs.Schema.Aliases
import ReplySchema.Proofs.Serializer.Build
import ReplySchema.Proofs.Serializer.Outlines

/-! # A plan mirrors the schemas that it was built from

While a plan is built, its table holds three kinds of targets: those that have a shape,
those that are being shaped, and those that were left without a shape.  The invariant
(`Mirrors`) says what each of them stands for.  A shape is that of the target's own schema,
its references now naming entries of the table; a target without a shape is being shaped, or
it circles.

Two things have to be shown.  The first is that there is always room for a new target: each
one that is entered has an identity that was not in the table before, and only finitely many
are possible.  The second is that a target which is left without a shape circles: either its
references lead back to it, or they make a chain that is longer than the table.

Main statement: `mirrors_of_build`.
-/

set_option autoImplicit false

namespace ReplySchema.Serializer

open Schema (Key Source Target reference?)

/-! ## §1  Sketches that are references -/

namespace Sketch

theorem sketch_of_reference? {ready : Ready} {schema : Json} {r : String}
    (h : reference? schema = some r) : sketch ready schema = .reference (.ok r) := by
  cases schema with
  | object members => rw [sketch, h]
  | _ => cases h

theorem reference?_of_sketch {ready : Ready} {schema : Json} {r : String}
    (h : sketch ready schema = .reference (.ok r)) : reference? schema = some r := by
  cases schema with
  | object members =>
      rw [sketch] at h
      cases href : reference? (.object members) with
      | some r' =>
          rw [href] at h
          cases h
          rfl
      | none =>
          rw [href] at h
          exact absurd h (Layered.shapeOver_ne_reference _ _)
  | _ =>
      rw [sketch] at h
      · cases h
      all_goals intro members hm; cases hm

end Sketch

namespace Plan

variable {set : Schema.Set} {base : Source} {V : Source → Json → Prop}

/-! ## §2  The schemas that are met -/

/-- Whether the references of a sketch lead to schemas that are met. -/
def Leads (set : Schema.Set) (V : Source → Json → Prop) (s : Source) (sketch : Sketch) : Prop :=
  sketch.Every fun x => ∀ r t, x = .reference (.ok r) → set.resolve r s = .ok t →
    V t.source t.schema

/-- What makes `V` fit to say which schemas are met below the root: they lie in documents that can
be met, their sketches hold no references but those of the document, and these lead to schemas
that are met.  Two documents of one origin are the same. -/
structure Visits (set : Schema.Set) (base : Source) (V : Source → Json → Prop) : Prop where
  source : ∀ s schema, V s schema → s ∈ set.sources base
  identified : ∀ s schema s' schema', V s schema → V s' schema' → s.origin = s'.origin → s = s'
  references : ∀ s schema, V s schema → (Sketch.ofSchema set s schema).Every fun x =>
    ∀ r, x = .reference (.ok r) → r ∈ Schema.Set.refsIn s.root
  leads : ∀ s schema, V s schema → Leads set V s (.ofSchema set s schema)

theorem Visits.target_eq (hvisits : Visits set base V) {t u : Target} (ht : V t.source t.schema)
    (hu : V u.source u.schema) (h : t.key = u.key) : t = u := by
  obtain ⟨s, pointer, schema, hfound⟩ := t
  obtain ⟨s', pointer', schema', hfound'⟩ := u
  obtain ⟨horigin, rfl⟩ := Prod.mk.inj h
  obtain rfl := hvisits.identified s schema s' schema' ht hu horigin
  have hschema : some schema = some schema' := hfound.symm.trans hfound'
  cases hschema
  rfl

/-! ## §3  What a table mirrors -/

/-- What a reference of a document becomes: a name in the table. -/
def RefersTo (set : Schema.Set) (targets : Table Key (Option Node)) (s : Source)
    (reference : Except SchemaError String) (node : Node) : Prop :=
  ∃ r t, reference = .ok r ∧ set.resolve r s = .ok t ∧ node = .reference t.key ∧
    Table.contains t.key targets = true

/-- Whether a shape is that of a sketch, its references naming entries of the table. -/
def Shapes (set : Schema.Set) (targets : Table Key (Option Node)) (s : Source) (sketch : Sketch)
    (node : Node) : Prop :=
  Shape.Links (RefersTo set targets s) (testOf set s) sketch node

/-- **The invariant of the table**, while the targets of `entered` are being shaped. -/
structure Mirrors (set : Schema.Set) (V : Source → Json → Prop) (entered : List Key)
    (targets : Table Key (Option Node)) : Prop where
  shaped : ∀ key node, Table.find? key targets = some (some node) → ∃ t : Target,
    V t.source t.schema ∧ t.key = key ∧
      Shapes set targets t.source (.ofSchema set t.source t.schema) node
  unshaped : ∀ key, Table.find? key targets = some none → ∃ t : Target,
    V t.source t.schema ∧ t.key = key ∧ (key ∈ entered ∨ set.Circles t)

/-- Whether the second table has the names of the first. -/
def Extends (targets targets' : Table Key (Option Node)) : Prop :=
  ∀ key, Table.contains key targets = true → Table.contains key targets' = true

theorem Shapes.extend {targets targets' : Table Key (Option Node)} (h : Extends targets targets')
    {s : Source} {sketch : Sketch} {node : Node} (hshapes : Shapes set targets s sketch node) :
    Shapes set targets' s sketch node :=
  Shape.Links.mono (fun _ _ ⟨r, t, hr, ht, hnode, hcontains⟩ =>
    ⟨r, t, hr, ht, hnode, h _ hcontains⟩) sketch hshapes

theorem extends_insert (targets : Table Key (Option Node)) (key : Key) (entry : Option Node) :
    Extends targets (Table.insert key entry targets) := by
  intro key' h
  rw [Table.contains_insert, h, Bool.or_true]

theorem reference_of_links {R : Except SchemaError String → Node → Prop}
    {test : Json → Option Validator} {sketch : Sketch} {key : Key}
    (h : Shape.Links R test sketch (.reference key)) :
    ∃ r, sketch = .reference r ∧ R r (.reference key) := by
  rcases h.form_parts with ⟨r, hr, hR⟩ | ⟨hform, -⟩
  · exact ⟨r, hr, hR⟩
  · cases sketch with
    | reference r => exact ⟨r, rfl, h⟩
    | _ => cases hform

theorem Visits.next (hvisits : Visits set base V) {t u : Target} (ht : V t.source t.schema)
    (h : set.next? t = some u) : V u.source u.schema := by
  obtain ⟨r, hr, hu⟩ := Schema.Set.next?_eq_some.mp h
  exact (hvisits.leads _ _ ht).self r u (Sketch.sketch_of_reference? hr) hu

/-- A target whose shape is a reference is nothing but a reference itself. -/
theorem next?_of_shapes {targets : Table Key (Option Node)} {t : Target} {key : Key}
    (h : Shapes set targets t.source (.ofSchema set t.source t.schema) (.reference key)) :
    ∃ u, set.next? t = some u ∧ u.key = key ∧ Table.contains key targets = true := by
  obtain ⟨reference, hsketch, r, u, rfl, hu, hnode, hcontains⟩ := reference_of_links h
  cases hnode
  exact ⟨u, Schema.Set.next?_eq_some.mpr ⟨r, Sketch.reference?_of_sketch hsketch, hu⟩, rfl,
    hcontains⟩

/-! ## §4  Targets without a shape -/

/-- A way of references through the table leads to the target that is looked for, or it has as
many steps as one likes. -/
theorem follow_of_leadsTo (hvisits : Visits set base V) {entered : List Key}
    {targets : Table Key (Option Node)} (hmirrors : Mirrors set V entered targets) {key : Key} :
    ∀ (steps : Nat) {t : Target} {node : Node}, V t.source t.schema →
      Shapes set targets t.source (.ofSchema set t.source t.schema) node →
      leadsTo key targets steps node = true →
      (∃ n u, set.follow (n + 1) t = some u ∧ V u.source u.schema ∧ u.key = key) ∨
        ∀ n < steps, ∃ u, set.follow (n + 1) t = some u ∧ V u.source u.schema ∧
          Table.contains u.key targets = true := by
  intro steps
  -- Induction on the steps of the search, each of which is one reference from target to target.
  induction steps with
  | zero => exact fun _ _ _ => Or.inr fun n hn => absurd hn (Nat.not_lt_zero n)
  | succ steps ih =>
      intro t node ht hshapes h
      cases node with
      | reference next =>
          obtain ⟨u, hu, hkey, hcontains⟩ := next?_of_shapes hshapes
          have hV := hvisits.next ht hu
          have hfollow := Schema.Set.follow_succ_of_next? hu
          rw [leadsTo] at h
          split at h
          · next heq => exact Or.inl ⟨0, u, by rw [hfollow]; rfl, hV, hkey.trans heq⟩
          · split at h
            · next shape hshape =>
                obtain ⟨w, hw, hwkey, hwshapes⟩ := hmirrors.shaped next shape hshape
                obtain rfl := hvisits.target_eq hw hV (hwkey.trans hkey.symm)
                rcases ih hV hwshapes h with ⟨n, x, hx, hrest⟩ | hlong
                · exact Or.inl ⟨n + 1, x, by rw [hfollow]; exact hx, hrest⟩
                · refine Or.inr fun n hn => ?_
                  cases n with
                  | zero => exact ⟨w, by rw [hfollow]; rfl, hV, hkey ▸ hcontains⟩
                  | succ n =>
                      obtain ⟨x, hx, hrest⟩ := hlong n (Nat.lt_of_succ_lt_succ hn)
                      exact ⟨x, by rw [hfollow]; exact hx, hrest⟩
            · cases h
      | _ =>
          rw [leadsTo] at h
          · cases h
          all_goals intros; contradiction

/-- **A target that is left without a shape circles.** -/
theorem circles_of_leadsTo (hvisits : Visits set base V) {entered : List Key}
    {targets : Table Key (Option Node)} (hmirrors : Mirrors set V entered targets) {t : Target}
    {node : Node} (ht : V t.source t.schema)
    (hshapes : Shapes set targets t.source (.ofSchema set t.source t.schema) node)
    (h : leadsTo t.key targets (targets.length + 1) node = true) : set.Circles t := by
  rcases follow_of_leadsTo hvisits hmirrors _ ht hshapes h with ⟨n, u, hu, hV, hkey⟩ | hlong
  · obtain rfl := hvisits.target_eq hV ht hkey
    exact Schema.Set.circles_of_return hu
  · obtain ⟨first, hfirst, -⟩ := hlong 0 (Nat.succ_pos _)
    have hnext : set.next? t = some first := by
      obtain ⟨u, hu, hfollow⟩ := Option.bind_eq_some_iff.mp hfirst
      rw [hu, ← hfollow]
      rfl
    refine Schema.Set.circles_of_follow hfirst ?_
    refine @Schema.Set.circles_of_length set (fun u => V u.source u.schema) (Table.keys targets)
      (fun u w hu hw heq => hvisits.target_eq hu hw heq) first fun n hn => ?_
    obtain ⟨u, hu, hV, hcontains⟩ := hlong n (by
      rw [Table.keys, List.length_map] at hn
      exact Nat.lt_succ_of_le hn)
    rw [Schema.Set.follow_succ_of_next? hnext] at hu
    exact ⟨u, hu, hV, (Table.mem_keys_iff_find?_isSome _ _).mpr hcontains⟩

/-! ## §5  Room -/

/-- How many of the possible targets are not in the table. -/
def unmet (set : Schema.Set) (base : Source) (targets : Table Key (Option Node)) : Nat :=
  ((set.possibleKeys base).filter fun key => !Table.contains key targets).length

theorem unmet_le {targets targets' : Table Key (Option Node)} (h : Extends targets targets') :
    unmet set base targets' ≤ unmet set base targets := by
  refine List.Sublist.length_le (List.monotone_filter_right _ fun key hkey => ?_)
  rw [Bool.not_eq_true'] at hkey ⊢
  exact Bool.eq_false_iff.mpr fun hcontains => by
    rw [h key hcontains] at hkey
    cases hkey

theorem unmet_insert_lt {targets : Table Key (Option Node)} {key : Key}
    (hkey : key ∈ set.possibleKeys base) (hfresh : Table.contains key targets = false)
    (entry : Option Node) :
    unmet set base (Table.insert key entry targets) < unmet set base targets := by
  have hfilter : (set.possibleKeys base).filter
        (fun k => !Table.contains k (Table.insert key entry targets)) =
      ((set.possibleKeys base).filter fun k => !Table.contains k targets).filter
        fun k => !decide (key = k) := by
    rw [List.filter_filter]
    refine congrArg (List.filter · _) (funext fun k => ?_)
    rw [Table.contains_insert, Bool.not_or]
  unfold unmet
  rw [hfilter, List.length_filter_lt_length_iff_exists]
  exact ⟨key, List.mem_filter.mpr ⟨hkey, by rw [hfresh]; rfl⟩, by simp⟩

/-- Tables that grow while the targets of `entered` are being shaped and there is room for all
possible targets and `spare` more. -/
def growing (set : Schema.Set) (base : Source) (V : Source → Json → Prop) (entered : List Key)
    (room spare : Nat) : Growth (Table Key (Option Node)) where
  inv targets := Mirrors set V entered targets ∧ unmet set base targets + spare ≤ room
  le := Extends
  refl _ _ h := h
  trans h h' key hkey := h' key (h key hkey)

/-- Whether all references of a sketch lead to possible targets. -/
def LeadsPossible (set : Schema.Set) (base s : Source) (sketch : Sketch) : Prop :=
  sketch.Every fun x => ∀ r t, x = .reference (.ok r) → set.resolve r s = .ok t →
    t.key ∈ set.possibleKeys base

theorem Visits.leadsPossible (hvisits : Visits set base V) {s : Source} {schema : Json}
    (h : V s schema) : LeadsPossible set base s (.ofSchema set s schema) :=
  (hvisits.references s schema h).mono fun _ hx _ _ heq ht =>
    Schema.Set.mem_possibleKeys (hvisits.source s schema h) (hx _ heq) ht

/-! ## §6  Building -/

theorem mirrors_enter {entered : List Key} {targets : Table Key (Option Node)}
    (h : Mirrors set V entered targets) {t : Target} (ht : V t.source t.schema) :
    Mirrors set V (t.key :: entered) (Table.insert t.key none targets) := by
  have hextends := extends_insert targets t.key none
  constructor
  · intro key node hfind
    rw [Table.find?_insert] at hfind
    split at hfind
    · cases hfind
    · obtain ⟨u, hu, hkey, hshapes⟩ := h.shaped key node hfind
      exact ⟨u, hu, hkey, hshapes.extend hextends⟩
  · intro key hfind
    rw [Table.find?_insert] at hfind
    split at hfind
    · next heq => exact ⟨t, ht, heq, Or.inl (heq ▸ List.mem_cons_self)⟩
    · obtain ⟨u, hu, hkey, hcase⟩ := h.unshaped key hfind
      exact ⟨u, hu, hkey, hcase.imp_left (List.mem_cons_of_mem _)⟩

theorem extends_settled (key : Key) (node : Node) (targets : Table Key (Option Node)) :
    Extends targets (settled key node targets) := by
  unfold settled
  split
  · exact fun _ h => h
  · exact extends_insert targets key _

theorem mirrors_settled (hvisits : Visits set base V) {entered : List Key}
    {targets : Table Key (Option Node)} {t : Target} {node : Node}
    (h : Mirrors set V (t.key :: entered) targets) (ht : V t.source t.schema)
    (hshapes : Shapes set targets t.source (.ofSchema set t.source t.schema) node) :
    Mirrors set V entered (settled t.key node targets) := by
  unfold settled
  split
  · next hleads =>
      refine ⟨h.shaped, fun key hfind => ?_⟩
      obtain ⟨u, hu, hkey, hentered | hcircles⟩ := h.unshaped key hfind
      · rcases List.mem_cons.mp hentered with heq | hentered
        · obtain rfl := hvisits.target_eq hu ht (hkey.trans heq)
          exact ⟨u, hu, hkey, Or.inr (circles_of_leadsTo hvisits h ht hshapes hleads)⟩
        · exact ⟨u, hu, hkey, Or.inl hentered⟩
      · exact ⟨u, hu, hkey, Or.inr hcircles⟩
  · have hextends := extends_insert targets t.key (some node)
    constructor
    · intro key shape hfind
      rw [Table.find?_insert] at hfind
      split at hfind
      · next heq =>
          cases hfind
          exact ⟨t, ht, heq, hshapes.extend hextends⟩
      · obtain ⟨u, hu, hkey, hshape⟩ := h.shaped key shape hfind
        exact ⟨u, hu, hkey, hshape.extend hextends⟩
    · intro key hfind
      rw [Table.find?_insert] at hfind
      split at hfind
      · cases hfind
      · next hne =>
          obtain ⟨u, hu, hkey, hcase⟩ := h.unshaped key hfind
          refine ⟨u, hu, hkey, hcase.imp_left fun hentered => ?_⟩
          exact (List.mem_cons.mp hentered).resolve_left fun heq => hne heq.symm

/-- Linking a sketch whose references lead to schemas that are met finds room for each of them, and
ends with a shape of the sketch. -/
theorem ensures_linkBelow (hvisits : Visits set base V) : ∀ (room : Nat) {entered : List Key}
    {spare : Nat} {s : Source} {sketch : Sketch}, Leads set V s sketch →
    (spare = 0 → LeadsPossible set base s sketch) →
    (growing set base V entered room spare).Ensures (linkBelow set room s sketch)
      fun targets node => Shapes set targets s sketch node := by
  intro room
  induction room using Nat.strongRecOn with
  | _ room ih =>
      intro entered spare s sketch hleads hpossible
      rw [linkBelow_eq_link]
      refine Shape.ensures_link (R := fun targets => RefersTo set targets s) ?_ sketch ?_
      · rintro reference node targets targets' hle ⟨r, t, hr, ht, hnode, hcontains⟩
        exact ⟨r, t, hr, ht, hnode, hle _ hcontains⟩
      have hboth : sketch.Every fun x => ∀ r t, x = .reference (.ok r) →
          set.resolve r s = .ok t →
          V t.source t.schema ∧ (spare = 0 → t.key ∈ set.possibleKeys base) := by
        by_cases hspare : spare = 0
        · exact (hleads.and (hpossible hspare)).mono fun x hx r t heq ht =>
            ⟨hx.1 r t heq ht, fun _ => hx.2 r t heq ht⟩
        · exact hleads.mono fun x hx r t heq ht => ⟨hx r t heq ht, fun h => absurd h hspare⟩
      refine hboth.mono fun x hx reference heq before node after hbefore hrun => ?_
      obtain ⟨hmirrors, hroom⟩ := hbefore
      obtain ⟨r, t, rfl, ht, hcase⟩ := run_onReference hrun
      obtain ⟨hV, hkey⟩ := hx r t heq ht
      -- A new target takes up room that is there for it.
      have henter : Table.contains t.key before = false →
          unmet set base (Table.insert t.key none before) < room := by
        intro hfresh
        by_cases hspare : spare = 0
        · have hlt := unmet_insert_lt (hkey hspare) hfresh none
          omega
        · have hle : unmet set base (Table.insert t.key none before) ≤ unmet set base before :=
            unmet_le (extends_insert before t.key none)
          omega
      rcases hcase with ⟨hcontains, rfl, rfl⟩ | ⟨hfresh, rfl, -, -⟩ |
        ⟨hfresh, rfl, less, shape, middle, rfl, hlink, rfl⟩
      · exact ⟨⟨hmirrors, hroom⟩, fun _ h => h, r, t, rfl, ht, rfl, hcontains⟩
      · exact absurd (henter hfresh) (Nat.not_lt_zero _)
      · have hless := Nat.le_of_lt_succ (henter hfresh)
        obtain ⟨⟨hmiddle, hroomMiddle⟩, hgrown, hshape⟩ := ih less (Nat.lt_succ_self less)
          (hvisits.leads _ _ hV) (fun _ => hvisits.leadsPossible hV) _ _ _
          ⟨mirrors_enter hmirrors hV, show _ + 0 ≤ less from hless⟩ hlink
        have hsettled := extends_settled t.key shape middle
        have hgrowth : Extends before (settled t.key shape middle) := fun key hcontains =>
          hsettled key (hgrown key (extends_insert before t.key none key hcontains))
        refine ⟨⟨mirrors_settled hvisits hmiddle hV hshape, ?_⟩, hgrowth, r, t, rfl, ht, rfl, ?_⟩
        · have hle : unmet set base (settled t.key shape middle) ≤ unmet set base before :=
            unmet_le hgrowth
          omega
        · refine hsettled _ (hgrown _ ?_)
          rw [Table.contains_insert, decide_eq_true rfl, Bool.true_or]

/-- **A plan mirrors the schemas that it was built from.** -/
theorem mirrors_of_build (hvisits : Visits set base V) {schema : Json} {rounding : Rounding}
    (hroot : Leads set V base (.ofSchema set base schema)) {plan : Plan}
    (h : build set base schema rounding = .ok plan) :
    Mirrors set V [] plan.targets ∧
      Shapes set plan.targets base (.ofSchema set base schema) plan.root ∧
      plan.rounding = rounding := by
  obtain ⟨⟨root, targets⟩, hlink, h⟩ := Result.bind_eq_ok.mp h
  cases h
  have hempty : (growing set base V [] (set.targetBound base) 1).inv [] := by
    refine ⟨⟨fun _ _ h => (by cases h), fun _ h => (by cases h)⟩, ?_⟩
    have hle : unmet set base [] ≤ (set.possibleKeys base).length := List.length_filter_le _ _
    have hlt := Schema.Set.length_possibleKeys_lt set base
    omega
  obtain ⟨⟨hmirrors, -⟩, -, hshapes⟩ := ensures_linkBelow hvisits _ hroot
    (fun h => by cases h) _ _ _ hempty hlink
  exact ⟨hmirrors, hshapes, rfl⟩

end Plan

end ReplySchema.Serializer

import ReplySchema.Proofs.Serializer.Reach
import ReplySchema.Proofs.Serializer.Tidy

/-! # Closed schemas

A schema is *closed* if it names its type and uses none of the keywords that let more through
than it declares.  A plan of closed schemas should leave undeclared members out, and so it does
as long as references are followed by its table.

The parts of `allOf` come in another way: they are bundled first, and where bundling comes to a
target inside itself it leaves the permissive schema.  So a bundled part is closed all over
except for such cuts (`IsBundled`).  A cut that stands for a part adds nothing; a cut that
stands for a property or for items lets everything through.  A part in which the second does
not happen is *uncut*.

Main statement: the sketch of a closed schema has closed forms only, and forms that write a
value as it is only at cuts (`everyClosed_ofSchema`).
-/

set_option autoImplicit false

namespace ReplySchema.Serializer

open Schema (Source Target reference? permissive)

/-! ## §1  Schemas -/

def composing (keyword : String) : Prop := keyword ∈ ["properties", "items", "prefixItems"]

def looseKeywords : List String :=
  ["additionalProperties", "patternProperties", "const", "default", "anyOf", "oneOf", "nullable"]

def typeNames : List String :=
  ["null", "boolean", "integer", "number", "string", "object", "array"]

/-- Whether a schema uses no keyword that lets more through. -/
def IsStrict (schema : Json) : Prop := ∀ keyword ∈ looseKeywords, schema.get? keyword = none

theorem isStrict_of_keys {members : List (String × Json)}
    (h : ∀ key ∈ Table.keys members, key ∉ looseKeywords) : IsStrict (.object members) := by
  intro keyword hkeyword
  change Table.find? keyword members = none
  cases hfind : Table.find? keyword members with
  | none => rfl
  | some v => exact absurd hkeyword (h keyword (List.mem_map_of_mem (Table.find?_mem hfind)))

/-- Whether a schema names its type; arrays say what their items are. -/
def NamesType (schema : Json) : Prop :=
  ∃ name ∈ typeNames, schema.get? "type" = some (.string name) ∧
    (name = "array" → ∃ inner, schema.get? "items" = some (.object inner))

/-- Whether a schema is closed: a lone reference, or of a type. -/
structure IsClosed (schema : Json) : Prop where
  object : schema.isObject = true
  strict : IsStrict schema
  kind : (∃ r, schema = .object [("$ref", .string r)]) ∨ NamesType schema

theorem IsClosed.namesType {schema : Json} (h : IsClosed schema)
    (hnone : reference? schema = none) : NamesType schema := by
  refine h.kind.resolve_left ?_
  rintro ⟨r, rfl⟩
  cases hnone

def declaredNames (schema : Json) : List String :=
  Table.keys ((schema.get? "properties").getD .null).members

def Declared (set : Schema.Set) (base : Source) (root : Json) (name : String) : Prop :=
  ∃ s schema, Reaches composing set base root s schema ∧ reference? schema = none ∧
    name ∈ declaredNames schema

def AllClosed (set : Schema.Set) (base : Source) (root : Json) : Prop :=
  ∀ s schema, Reaches composing set base root s schema → IsClosed schema

/-! ## §2  Bundled parts -/

/-- What bundling makes of closed schemas: closed schemas without references, and cuts. -/
inductive IsBundled (D : String → Prop) : Json → Prop where
  | cut : IsBundled D permissive
  | kept {members : List (String × Json)} (hclosed : IsClosed (.object members))
      (hnone : reference? (.object members) = none)
      (hnames : ∀ name ∈ declaredNames (.object members), D name)
      (hinside : ∀ key value, composing key → (key, value) ∈ members →
        ∀ c ∈ Sketch.insideKeyword key value, IsBundled D c)
      (hparts : ∀ c ∈ Sketch.partsOf members, IsBundled D c) : IsBundled D (.object members)

/-- Whether no cut stands for a property or for items. -/
inductive IsUncut : Json → Prop where
  | intro {schema : Json}
      (hcut : ∀ key value, composing key → (key, value) ∈ schema.members →
        permissive ∉ Sketch.insideKeyword key value)
      (hinside : ∀ key value, composing key → (key, value) ∈ schema.members →
        ∀ c ∈ Sketch.insideKeyword key value, IsUncut c)
      (hparts : ∀ c ∈ Sketch.partsOf schema.members, IsUncut c) : IsUncut schema

/-- Whether bundling cuts no part of a schema that can be reached. -/
def PartsUncut (set : Schema.Set) (base : Source) (root : Json) : Prop :=
  ∀ s schema, Reaches composing set base root s schema → reference? schema = none →
    ∀ part ∈ Sketch.partsOf schema.members, ∀ j, set.bundleSchema s part = .ok j → IsUncut j

theorem exists_of_inlines {T : Json → Json → Prop} {key : String} {v v' c' : Json}
    (hkey : composing key) (h : Schema.Inlines T key v v')
    (hobject : ∀ c ∈ Sketch.insideKeyword key v, ∀ c', T c c' → c'.isObject = true)
    (hc : c' ∈ Sketch.insideKeyword key v') : ∃ c ∈ Sketch.insideKeyword key v, T c c' := by
  unfold composing at hkey
  simp only [List.mem_cons, List.not_mem_nil, or_false] at hkey
  rcases hkey with rfl | rfl | rfl
  · have hinlining : Schema.inlining "properties" = .named := by decide
    have hholds : Sketch.holds "properties" = .named := by decide
    simp only [Schema.Inlines, Sketch.insideKeyword, hinlining, hholds] at h hc ⊢
    cases v with
    | object entries =>
        obtain ⟨entries', rfl, hentries⟩ := h
        obtain ⟨e', he', rfl⟩ := List.mem_map.mp hc
        obtain ⟨e, he, -, hT⟩ := Schema.exists_of_forall₂ hentries he'
        exact ⟨e.2, List.mem_map_of_mem he, hT⟩
    | _ =>
        subst h
        cases hc
  · have hinlining : Schema.inlining "items" = .either := by decide
    have hholds : Sketch.holds "items" = .either := by decide
    simp only [Schema.Inlines, Sketch.insideKeyword, hinlining, hholds] at h hobject hc ⊢
    cases v with
    | array items =>
        obtain ⟨items', rfl, hitems⟩ := h
        exact Schema.exists_of_forall₂ hitems hc
    | _ =>
        have hv' := hobject _ List.mem_cons_self v' h
        cases v' with
        | object members => exact ⟨_, List.mem_cons_self, List.mem_singleton.mp hc ▸ h⟩
        | _ => cases hv'
  · have hinlining : Schema.inlining "prefixItems" = .list := by decide
    have hholds : Sketch.holds "prefixItems" = .list := by decide
    simp only [Schema.Inlines, Sketch.insideKeyword, hinlining, hholds] at h hc ⊢
    cases v with
    | array items =>
        obtain ⟨items', rfl, hitems⟩ := h
        exact Schema.exists_of_forall₂ hitems hc
    | _ =>
        subst h
        cases hc

/-- The parts of a schema that was put together again come from its parts, one by one. -/
theorem Sketch.forall₂_partsOf {T : Json → Json → Prop} {members members' : List (String × Json)}
    (h : Schema.InlinesMembers T members members') :
    Table.contains "allOf" members' = Table.contains "allOf" members ∧
      List.Forall₂ T (partsOf members) (partsOf members') := by
  have hinlining : Schema.inlining "allOf" = .list := by decide
  unfold partsOf Table.contains
  rcases h.find? "allOf" (by decide) with ⟨hfind, hfind'⟩ | ⟨v, v', hfind, hfind', hv⟩
  · rw [hfind, hfind']
    exact ⟨rfl, .nil⟩
  · rw [hfind, hfind']
    refine ⟨rfl, ?_⟩
    simp only [Schema.Inlines, hinlining] at hv
    cases v with
    | array items =>
        obtain ⟨items', rfl, hitems⟩ := hv
        exact hitems
    | _ =>
        subst hv
        exact .nil

theorem IsBundled.isObject {D : String → Prop} {j : Json} (h : IsBundled D j) :
    j.isObject = true := by
  cases h <;> rfl

theorem IsBundled.strict {D : String → Prop} {j : Json} (h : IsBundled D j) : IsStrict j := by
  cases h with
  | cut => exact fun _ _ => rfl
  | kept hclosed => exact hclosed.strict

theorem IsBundled.reference? {D : String → Prop} {j : Json} (h : IsBundled D j) :
    Schema.reference? j = none := by
  cases h with
  | cut => rfl
  | kept _ hnone => exact hnone

theorem isClosed_of_inlinesMembers {T : Json → Json → Prop} {members members' : List (String × Json)}
    (h : Schema.InlinesMembers T members members') (hclosed : IsClosed (.object members))
    (hnone : Schema.reference? (.object members) = none)
    (hitems : ∀ inner v', Table.find? "items" members = some (.object inner) →
      T (.object inner) v' → v'.isObject = true) : IsClosed (.object members') := by
  refine ⟨rfl, fun keyword hkeyword => ?_, Or.inr ?_⟩
  · have hkey : Schema.inlining keyword ≠ .drop := by
      unfold looseKeywords at hkeyword
      simp only [List.mem_cons, List.not_mem_nil, or_false] at hkeyword
      rcases hkeyword with rfl | rfl | rfl | rfl | rfl | rfl | rfl <;> decide
    rcases h.find? keyword hkey with ⟨-, hfind⟩ | ⟨v, v', hfind, -⟩
    · exact hfind
    · have habsent : Table.find? keyword members = none := hclosed.strict keyword hkeyword
      rw [habsent] at hfind
      cases hfind
  · obtain ⟨name, hname, htype, harray⟩ := hclosed.namesType hnone
    refine ⟨name, hname, (h.find?_keep (by decide)).trans htype, fun heq => ?_⟩
    obtain ⟨inner, hinner⟩ := harray heq
    have hinlining : Schema.inlining "items" = .either := by decide
    rcases h.find? "items" (by decide) with ⟨hfind, -⟩ | ⟨v, v', hfind, hfind', hv⟩
    · have hinner : Table.find? "items" members = _ := hinner
      rw [hfind] at hinner
      cases hinner
    · have hinner : Table.find? "items" members = _ := hinner
      rw [hinner] at hfind
      cases hfind
      simp only [Schema.Inlines, hinlining] at hv
      have hobject := hitems inner v' hinner hv
      cases v' with
      | object inner' => exact ⟨inner', hfind'⟩
      | _ => cases hobject

theorem declaredNames_of_inlinesMembers {T : Json → Json → Prop}
    {members members' : List (String × Json)} (h : Schema.InlinesMembers T members members') :
    declaredNames (.object members') = declaredNames (.object members) := by
  have hinlining : Schema.inlining "properties" = .named := by decide
  change Table.keys ((Table.find? "properties" members').getD .null).members =
    Table.keys ((Table.find? "properties" members).getD .null).members
  rcases h.find? "properties" (by decide) with ⟨hfind, hfind'⟩ | ⟨v, v', hfind, hfind', hv⟩
  · rw [hfind, hfind']
  · rw [hfind, hfind']
    simp only [Schema.Inlines, hinlining] at hv
    cases v with
    | object entries =>
        obtain ⟨entries', rfl, hentries⟩ := hv
        exact Schema.keys_of_forall₂ hentries
    | _ =>
        subst hv
        rfl

/-- What a schema holds that is put together again comes from what it held. -/
theorem exists_inside_of_inlinesMembers {T : Json → Json → Prop}
    {members members' : List (String × Json)} (h : Schema.InlinesMembers T members members')
    {key : String} {value' c' : Json} (hkey : composing key) (hm : (key, value') ∈ members')
    (hobject : ∀ value, (key, value) ∈ members → ∀ c ∈ Sketch.insideKeyword key value,
      ∀ c', T c c' → c'.isObject = true)
    (hc : c' ∈ Sketch.insideKeyword key value') :
    ∃ value, (key, value) ∈ members ∧ ∃ c ∈ Sketch.insideKeyword key value, T c c' := by
  obtain ⟨⟨k, value⟩, hmem, heq, hvalue⟩ := Schema.exists_of_forall₂ h hm
  obtain rfl : key = k := heq
  have hmem := List.mem_of_mem_filter hmem
  exact ⟨value, hmem, exists_of_inlines hkey hvalue (hobject value hmem) hc⟩

/-- A schema that is put together again of bundled ones is bundled. -/
theorem isBundled_of_inlinesMembers {D : String → Prop} {T : Json → Json → Prop}
    {members members' : List (String × Json)} (h : Schema.InlinesMembers T members members')
    (hclosed : IsClosed (.object members)) (hnone : Schema.reference? (.object members) = none)
    (hnames : ∀ name ∈ declaredNames (.object members), D name)
    (hinside : ∀ key value, composing key → (key, value) ∈ members →
      ∀ c ∈ Sketch.insideKeyword key value, ∀ c', T c c' → IsBundled D c')
    (hparts : ∀ c ∈ Sketch.partsOf members, ∀ c', T c c' → IsBundled D c') :
    IsBundled D (.object members') := by
  refine .kept (isClosed_of_inlinesMembers h hclosed hnone fun inner v' hinner hv' => ?_)
    (h.reference?.trans hnone) (fun name hname => ?_) ?_ ?_
  · exact (hinside "items" _ (by simp [composing]) (Table.find?_mem hinner) _
      List.mem_cons_self v' hv').isObject
  · rw [declaredNames_of_inlinesMembers h] at hname
    exact hnames name hname
  · intro key value' hkey hm' c' hc'
    obtain ⟨value, hm, c, hc, hT⟩ := exists_inside_of_inlinesMembers h hkey hm'
      (fun value hm c hc c' hT => (hinside key value hkey hm c hc c' hT).isObject) hc'
    exact hinside key value hkey hm c hc c' hT
  · intro c' hc'
    obtain ⟨c, hc, hT⟩ := Schema.exists_of_forall₂ (Sketch.forall₂_partsOf h).2 hc'
    exact hparts c hc c' hT

/-- **Bundling closed schemas leaves closed schemas and cuts.** -/
theorem isBundled_bundleSchema {set : Schema.Set} {base : Source} {root : Json}
    (hclosed : AllClosed set base root) {s : Source} {schema j : Json}
    (h : Reaches composing set base root s schema) (hbundle : set.bundleSchema s schema = .ok j) :
    IsBundled (Declared set base root) j := by
  have hbundles : set.Bundles (Reaches composing set base root)
      (fun _ _ j => IsBundled (Declared set base root) j) := {
    cut := fun _ _ _ _ _ => .cut
    data := fun s v hv hdata => by
      rw [(hclosed s v hv).object] at hdata
      cases hdata
    reference := fun s schema r t hschema hr ht => ⟨hschema.target hr ht, fun _ hj => hj⟩
    object := fun s members members' hmembers hnone hinlines =>
      isBundled_of_inlinesMembers hinlines (hclosed s _ hmembers) hnone
        (fun _ hname => ⟨s, _, hmembers, hnone, hname⟩)
        (fun _ _ hkey hm _ hc _ hT => hT (hmembers.inside hnone hkey hm hc))
        fun _ hc _ hT => hT (hmembers.part hnone hc) }
  exact hbundles.bundleBelow Schema.Set.bundleDepth [] h hbundle

theorem IsBundled.bundleSchema {D : String → Prop} {set : Schema.Set} {s : Source} {c j : Json}
    (h : IsBundled D c) (hbundle : set.bundleSchema s c = .ok j) :
    IsBundled D j ∧ (IsUncut c → IsUncut j) := by
  have hbundles : set.Bundles (fun _ c => IsBundled D c) (fun _ c j =>
      IsBundled D j ∧ (IsUncut c → IsUncut j) ∧ (j = permissive → c = permissive)) := {
    cut := fun s c r hc hr => by
      rw [hc.reference?] at hr
      cases hr
    data := fun s v hv hdata => by
      rw [hv.isObject] at hdata
      cases hdata
    reference := fun s c r t hc hr => by
      rw [hc.reference?] at hr
      cases hr
    object := fun s members members' hmembers hnone hinlines => by
      cases hmembers with
      | cut =>
          cases hinlines
          exact ⟨.cut, id, id⟩
      | kept hclosed _ hnames hinside hparts =>
          have hbundled : IsBundled D (.object members') :=
            isBundled_of_inlinesMembers hinlines hclosed hnone hnames
              (fun key value hkey hm c hc c' hT => (hT (hinside key value hkey hm c hc)).1)
              fun c hc c' hT => (hT (hparts c hc)).1
          -- besides being closed, what is free of cuts stays so, and nothing becomes a cut
          refine ⟨hbundled, fun huncut => ?_, fun hcut => ?_⟩
          · obtain ⟨hcuts, huncutInside, huncutParts⟩ := huncut
            have hcomes : ∀ key value', composing key → (key, value') ∈ members' →
                ∀ c' ∈ Sketch.insideKeyword key value', IsUncut c' ∧ c' ≠ permissive := by
              intro key value' hkey hm' c' hc'
              obtain ⟨value, hm, c, hc, hT⟩ := exists_inside_of_inlinesMembers hinlines hkey hm'
                (fun value hm c hc c' hT => (hT (hinside key value hkey hm c hc)).1.isObject) hc'
              obtain ⟨-, hkeeps, hcut⟩ := hT (hinside key value hkey hm c hc)
              exact ⟨hkeeps (huncutInside key value hkey hm c hc),
                fun heq => hcuts key value hkey hm (hcut heq ▸ hc)⟩
            refine .intro (fun key value' hkey hm' hmem => (hcomes key value' hkey hm' _ hmem).2 rfl)
              (fun key value' hkey hm' c' hc' => (hcomes key value' hkey hm' c' hc').1) ?_
            intro c' hc'
            obtain ⟨c, hc, hT⟩ :=
              Schema.exists_of_forall₂ (Sketch.forall₂_partsOf hinlines).2 hc'
            exact (hT (hparts c hc)).2.1 (huncutParts c hc)
          · -- the type is still there
            obtain ⟨name, -, htype, -⟩ := hclosed.namesType hnone
            have htype' : Table.find? "type" members' = some (.string name) :=
              (hinlines.find?_keep (by decide)).trans htype
            rw [Json.object.inj hcut] at htype'
            cases htype' }
  have hj := hbundles.bundleBelow Schema.Set.bundleDepth [] h hbundle
  exact ⟨hj.1, hj.2.1⟩

/-! ## §3  Outlines -/

namespace Outline

/-- Whether an outline lets nothing through but what is declared; `D` is to hold of the names and
`G` of the sketches inside that count. -/
structure IsClosed (D : String → Prop) (G : Sketch → Prop) (o : Outline) : Prop where
  nullable : o.nullable = .absent
  const : o.const = .absent
  anyOf : o.anyOf = .absent
  oneOf : o.oneOf = .absent
  patterns : o.patternProperties = .absent
  others : o.additionalProperties = .absent
  properties : ∀ ps, o.properties = .given ps → ∀ p ∈ ps, D p.name ∧ p.default = none ∧ G p.shape
  front : ∀ ss, o.prefixItems = .given ss → ∀ s ∈ ss, G s
  each : ∀ s, o.items = .given (.each s) → G s

/-- Whether an outline names its type; arrays say what their items are. -/
def NamesType (o : Outline) : Prop :=
  ∃ name ∈ typeNames, o.type = .given (.one name) ∧
    (name = "array" → ∃ s, o.items = .given (.each s))

variable {D : String → Prop} {G : Sketch → Prop}

theorem isClosed_ofSchema {sketch : Json → Sketch} {members : List (String × Json)}
    (hstrict : IsStrict (.object members)) (hnames : ∀ name ∈ declaredNames (.object members), D name)
    (hinside : ∀ key value, composing key → (key, value) ∈ members →
      ∀ c ∈ Sketch.insideKeyword key value, IsStrict c ∧ G (sketch c)) :
    (ofSchema sketch members).IsClosed D G := by
  have habsent : ∀ keyword ∈ looseKeywords, Table.find? keyword members = none := hstrict
  have hfound : ∀ {key value c}, composing key → Table.find? key members = some value →
      c ∈ Sketch.insideKeyword key value → IsStrict c ∧ G (sketch c) :=
    fun hkey hfind hc => hinside _ _ hkey (Table.find?_mem hfind) _ hc
  refine ⟨facetAt_eq_absent (habsent _ (by decide)), facetAt_eq_absent (habsent _ (by decide)),
    facetAt_eq_absent (habsent _ (by decide)), facetAt_eq_absent (habsent _ (by decide)),
    facetAt_eq_absent (habsent _ (by decide)), facetAt_eq_absent (habsent _ (by decide)), ?_, ?_, ?_⟩
  · intro ps hps p hp
    obtain ⟨v, hv, hread⟩ := facetAt_eq_given.mp hps
    obtain ⟨entries, hentries, rfl⟩ := Option.map_eq_some_iff.mp hread
    cases v with
    | object es =>
        cases hentries
        obtain ⟨e, he, rfl⟩ := List.mem_map.mp hp
        obtain ⟨hdefault, hG⟩ := hfound (c := e.2) (by simp [composing]) hv (List.mem_map_of_mem he)
        refine ⟨hnames e.1 ?_, hdefault "default" (by decide), hG⟩
        have hget : (Json.object members).get? "properties" = some (.object entries) := hv
        unfold declaredNames
        rw [hget]
        exact List.mem_map_of_mem he
    | _ => cases hentries
  · intro ss hss s hs
    obtain ⟨v, hv, hread⟩ := facetAt_eq_given.mp hss
    obtain ⟨items, hitems, rfl⟩ := Option.map_eq_some_iff.mp hread
    cases v with
    | array xs =>
        cases hitems
        obtain ⟨c, hc, rfl⟩ := List.mem_map.mp hs
        exact (hfound (by simp [composing]) hv hc).2
    | _ => cases hitems
  · intro s hs
    obtain ⟨v, hv, hread⟩ := facetAt_eq_given.mp hs
    cases v with
    | object ms =>
        cases hread
        exact (hfound (by simp [composing]) hv List.mem_cons_self).2
    | _ => cases hread

theorem namesType_ofSchema {sketch : Json → Sketch} {members : List (String × Json)}
    (h : Serializer.NamesType (.object members)) : (ofSchema sketch members).NamesType := by
  obtain ⟨name, hname, htype, harray⟩ := h
  refine ⟨name, hname, facetAt_eq_given.mpr ⟨_, htype, rfl⟩, fun heq => ?_⟩
  obtain ⟨inner, hinner⟩ := harray heq
  exact ⟨sketch (.object inner), facetAt_eq_given.mpr ⟨_, hinner, rfl⟩⟩

theorem IsClosed.merge {o part : Outline} (h : o.IsClosed D G) (hpart : part.IsClosed D G) :
    (o.merge part).IsClosed D G where
  nullable := by rw [Outline.merge, h.nullable]; exact hpart.nullable
  const := by rw [Outline.merge, h.const]; exact hpart.const
  anyOf := by rw [Outline.merge, h.anyOf]; exact hpart.anyOf
  oneOf := by rw [Outline.merge, h.oneOf]; exact hpart.oneOf
  patterns := by rw [Outline.merge, h.patterns]; exact hpart.patterns
  others := by rw [Outline.merge, h.others]; exact hpart.others
  properties ps hps p hp := by
    rcases Facet.join_eq_given hps with hps | hps | ⟨own, more, hown, hmore, rfl⟩
    · exact h.properties ps hps p hp
    · exact hpart.properties ps hps p hp
    · rcases mem_addProperties hp with hp | hp
      · exact h.properties own hown p hp
      · exact hpart.properties more hmore p hp
  front ss hss := (Facet.orElse_eq_given hss).elim (h.front ss) (hpart.front ss)
  each s hs := (Facet.orElse_eq_given hs).elim (h.each s) (hpart.each s)

theorem NamesType.merge {o : Outline} (h : o.NamesType) (part : Outline) :
    (o.merge part).NamesType := by
  obtain ⟨name, hname, htype, harray⟩ := h
  refine ⟨name, hname, ?_, fun heq => ?_⟩
  · rw [Outline.merge, htype]
    rfl
  · obtain ⟨s, hs⟩ := harray heq
    exact ⟨s, by rw [Outline.merge, hs]; rfl⟩

end Outline

/-! ## §4  Sketches -/

/-- Whether a form lets nothing through but declared members; `cut` is to hold where values are
written as they are. -/
def Shape.Form.IsClosed (D : String → Prop) (cut : Prop) : Form → Prop
  | .any => cut
  | .object properties _ patterns others =>
      (∀ p ∈ properties, D p.1 ∧ p.2 = none) ∧ patterns = [] ∧ others = .dropped
  | .const _ | .union | .nullable => False
  | _ => True

namespace Sketch

/-- Whether all forms of a sketch are closed; `Q` is to hold of the references. -/
abbrev EveryClosed (D : String → Prop) (cut : Prop) (Q : String → Prop) (sketch : Sketch) : Prop :=
  sketch.Every fun x => x.form.IsClosed D cut ∧ ∀ r, x = .reference (.ok r) → Q r

variable {D : String → Prop} {cut : Prop} {Q : String → Prop}

theorem everyClosed_shape {o : Outline} (ho : o.IsClosed D (EveryClosed D cut Q))
    (htype : o.NamesType) : EveryClosed D cut Q o.shape := by
  have hleaf : ∀ s : Sketch, s.parts = [] → s.form.IsClosed D cut → s.form ≠ .reference →
      EveryClosed D cut Q s := by
    intro s hparts hform hne
    refine .intro ⟨hform, fun r heq => ?_⟩ fun t ht => by rw [hparts] at ht; cases ht
    rw [heq] at hne
    exact absurd rfl hne
  have hobject : EveryClosed D cut Q o.objectShape := by
    have hproperties : ∀ p ∈ o.properties.value?.getD [],
        D p.name ∧ p.default = none ∧ EveryClosed D cut Q p.shape := by
      intro p hp
      cases hgiven : o.properties with
      | given ps => exact ho.properties ps hgiven p (by simpa [hgiven, Facet.value?] using hp)
      | _ => simp [hgiven, Facet.value?] at hp
    unfold Outline.objectShape
    rw [ho.patterns, ho.others]
    refine .intro ⟨⟨fun q hq => ?_, rfl, rfl⟩, fun r heq => by cases heq⟩ fun t ht => ?_
    · obtain ⟨p, hp, rfl⟩ := List.mem_map.mp hq
      exact ⟨(hproperties p hp).1, (hproperties p hp).2.1⟩
    · have ht : t ∈ (o.properties.value?.getD []).map (·.shape) := by
        simpa [Shape.parts, Facet.value?, Others.shapes] using ht
      obtain ⟨p, hp, rfl⟩ := List.mem_map.mp ht
      exact (hproperties p hp).2.2
  have harray : ∀ s, o.items = .given (.each s) → EveryClosed D cut Q o.arrayShape := by
    intro s hs
    have hfront : ∀ t ∈ o.prefixItems.value?.getD [], EveryClosed D cut Q t := by
      intro t ht
      cases hgiven : o.prefixItems with
      | given ss => exact ho.front ss hgiven t (by simpa [hgiven, Facet.value?] using ht)
      | _ => simp [hgiven, Facet.value?] at ht
    unfold Outline.arrayShape
    rw [hs]
    refine .intro ⟨trivial, fun r heq => by cases heq⟩ fun t ht => ?_
    rcases List.mem_append.mp ht with ht | ht
    · exact hfront t ht
    · exact List.mem_singleton.mp ht ▸ ho.each s hs
  -- A named type leaves seven shapes, and no alternatives beside them.
  obtain ⟨name, hname, hgiven, hitems⟩ := htype
  unfold Outline.shape Outline.kindShape
  rw [ho.anyOf, ho.oneOf, hgiven]
  dsimp only
  unfold typeNames at hname
  simp only [List.mem_cons, List.not_mem_nil, or_false] at hname
  rcases hname with rfl | rfl | rfl | rfl | rfl | rfl | rfl
  · exact hleaf _ rfl trivial Shape.Form.noConfusion
  · exact hleaf _ rfl trivial Shape.Form.noConfusion
  · exact hleaf _ rfl trivial Shape.Form.noConfusion
  · exact hleaf _ rfl trivial Shape.Form.noConfusion
  · exact hleaf _ rfl trivial Shape.Form.noConfusion
  · exact hobject
  · obtain ⟨s, hs⟩ := hitems rfl
    exact harray s hs

theorem follows_closed {ready : Ready} {H K L : Json → Prop}
    (hobject : ∀ c, H c → c.isObject = true)
    (href : ∀ c r, H c → reference? c = some r → Q r)
    (hown : ∀ members, H (.object members) → reference? (.object members) = none →
      K (.object members) ∨ (members = [] ∧ cut))
    (htype : ∀ c, K c → NamesType c)
    (hsound : ∀ c, K c ∨ L c → c.IsSound)
    (hstrict : ∀ c, K c ∨ L c → IsStrict c ∧ ∀ name ∈ declaredNames c, D name)
    (hinside : ∀ c, K c ∨ L c → ∀ key value, composing key → (key, value) ∈ c.members →
      ∀ d ∈ insideKeyword key value, H d ∧ IsStrict d)
    (hpart : ready = none → ∀ members, K (.object members) ∨ L (.object members) →
      ∀ part ∈ partsOf members, part.isObject = true → L part)
    (hmade : ∀ make, ready = some make → ∀ members, K (.object members) ∨ L (.object members) →
      ∀ ls, make (partsOf members) = .ok ls → ∀ l ∈ ls,
      l.Every (Outline.IsClosed D (EveryClosed D cut Q)) (Fails (EveryClosed D cut Q))) :
    Follows ready H K L (fun o => o.IsClosed D (EveryClosed D cut Q) ∧ o.NamesType)
      (Outline.IsClosed D (EveryClosed D cut Q)) (EveryClosed D cut Q) := by
  have houtline : ∀ members, K (.object members) ∨ L (.object members) →
      (∀ c ∈ inside (.object members), H c → EveryClosed D cut Q (sketch ready c)) →
      (Outline.ofSchema (sketch ready) members).IsClosed D (EveryClosed D cut Q) := by
    intro members h ih
    obtain ⟨hstrict, hnames⟩ := hstrict _ h
    refine Outline.isClosed_ofSchema hstrict hnames fun key value hkey hm c hc => ?_
    obtain ⟨hH, hstrictInside⟩ := hinside _ h key value hkey hm c hc
    exact ⟨hstrictInside, ih c (List.mem_flatMap.mpr ⟨(key, value), hm, hc⟩) hH⟩
  have hnone : ∀ t : Sketch, t ∈ ([] : List Sketch) → EveryClosed D cut Q t := fun _ h => by cases h
  exact {
    data := fun v hv hdata => by
      rw [hobject v hv] at hdata
      cases hdata
    reference := fun c r h hr => .intro ⟨trivial, fun r' heq => by
      cases heq
      exact href c r h hr⟩ hnone
    error := fun _ _ _ _ e _ => .intro ⟨trivial, fun r heq => by cases heq⟩ hnone
    own := fun members h href => (hown members h href).imp_right fun ⟨hnil, hcut⟩ => by
      subst hnil
      rw [sketch]
      exact .intro ⟨hcut, fun r heq => by cases heq⟩ hnone
    nodup := fun members h => (hsound _ h).nodup
    outline := fun members h ih =>
      ⟨houtline members (Or.inl h) ih, Outline.namesType_ofSchema (htype _ h)⟩
    outlinePart := fun members h ih => houtline members (Or.inr h) ih
    merge := fun o part ho hpart => ⟨ho.1.merge hpart, ho.2.merge part⟩
    -- a closed outline has no `nullable` that could be taken away
    bare := fun o ho => by
      have hbare : ({ o with nullable := .absent } : Outline) = o := by rw [← ho.1.nullable]
      rw [hbare]
      exact ho
    shape := fun o ho => everyClosed_shape ho.1 ho.2
    const := fun o v ho hv => by
      rw [ho.1.const] at hv
      cases hv
    nullable := fun o s ho hgiven _ _ => by
      rw [ho.1.nullable] at hgiven
      cases hgiven
    part := hpart
    made := hmade }

/-- What is known of a bundled part. -/
structure IsReady (D : String → Prop) (cut : Prop) (part : Json) : Prop where
  sound : part.IsSound
  bundled : IsBundled D part
  uncut : cut ∨ IsUncut part

theorem IsReady.inside {c : Json} (h : IsReady D cut c) {key : String} {value d : Json}
    (hkey : composing key) (hm : (key, value) ∈ c.members) (hd : d ∈ insideKeyword key value) :
    IsReady D cut d ∧ (cut ∨ d ≠ permissive) := by
  obtain ⟨hsound, hbundled, huncut⟩ := h
  cases hbundled with
  | cut => cases hm
  | kept _ _ _ hinside _ =>
      have huncut : cut ∨ d ≠ permissive ∧ IsUncut d := by
        refine huncut.imp_right fun h => ?_
        cases h with
        | intro hcut hinside _ =>
            exact ⟨fun heq => hcut key value hkey hm (heq ▸ hd), hinside key value hkey hm d hd⟩
      have hheld := Schema.mem_held hm (heldUnder_of_mem_insideKeyword hd)
      exact ⟨⟨Schema.every_of_held hheld hsound, hinside key value hkey hm d hd,
        huncut.imp_right And.right⟩, huncut.imp_right And.left⟩

theorem IsReady.part {members : List (String × Json)} (h : IsReady D cut (.object members))
    {part : Json} (hpart : part ∈ partsOf members) : IsReady D cut part := by
  obtain ⟨hsound, hbundled, huncut⟩ := h
  cases hbundled with
  | cut => cases hpart
  | kept _ _ _ _ hparts =>
      refine ⟨every_of_mem_partsOf hsound hpart, hparts part hpart, huncut.imp_right fun h => ?_⟩
      cases h with
      | intro _ _ hparts => exact hparts part hpart

theorem IsReady.declares {c : Json} (h : IsReady D cut c) : ∀ name ∈ declaredNames c, D name := by
  cases h.bundled with
  | cut => exact fun _ h => by cases h
  | kept _ _ hnames => exact hnames

variable {set : Schema.Set} {base : Source} {root : Json}

theorem IsReady.bundleSchema (hset : set.IsSound base) {s : Source} (hs : s ∈ set.sources base)
    {c j : Json} (h : IsReady D cut c) (hbundle : set.bundleSchema s c = .ok j) :
    IsReady D cut j :=
  have hbundled := h.bundled.bundleSchema hbundle
  ⟨Schema.Set.isSound_bundleSchema hset hs h.sound hbundle, hbundled.1,
    h.uncut.imp_right hbundled.2⟩

/-- Bundled parts have closed outlines, if the parts inside them have or are taken as they are. -/
theorem isClosed_layeredList {ready : Ready} (hmade : ∀ make, ready = some make → ∀ parts,
      (∀ part ∈ parts, IsReady D cut part) → ∀ ls, make parts = .ok ls → ∀ l ∈ ls,
      l.Every (Outline.IsClosed D (EveryClosed D cut Q)) (Fails (EveryClosed D cut Q)))
    {parts : List Json} (h : ∀ part ∈ parts, IsReady D cut part) :
    ∀ l ∈ layeredList ready parts,
      l.Every (Outline.IsClosed D (EveryClosed D cut Q)) (Fails (EveryClosed D cut Q)) := by
  have hfollows : Follows ready (fun c => IsReady D cut c ∧ (cut ∨ c ≠ permissive))
      (fun c => IsReady D cut c ∧ c ≠ permissive) (IsReady D cut)
      (fun o => o.IsClosed D (EveryClosed D cut Q) ∧ o.NamesType)
      (Outline.IsClosed D (EveryClosed D cut Q)) (EveryClosed D cut Q) := by
    have hready : ∀ c, (IsReady D cut c ∧ c ≠ permissive) ∨ IsReady D cut c → IsReady D cut c :=
      fun c h => h.elim And.left id
    refine follows_closed (fun c h => h.1.bundled.isObject) (fun c r h hr => ?_)
      (fun members h _ => ?_) (fun c h => ?_) (fun c h => (hready c h).sound)
      (fun c h => ⟨(hready c h).bundled.strict, (hready c h).declares⟩)
      (fun c h key value hkey hm d hd => ?_) (fun _ members h part hpart _ => (hready _ h).part hpart)
      (fun make hmake members h => hmade make hmake _ fun part hpart => (hready _ h).part hpart)
    · rw [h.1.bundled.reference?] at hr
      cases hr
    · by_cases hnil : members = []
      · subst hnil
        exact Or.inr ⟨rfl, h.2.resolve_right fun hne => hne rfl⟩
      · exact Or.inl ⟨h.1, fun heq => hnil (Json.object.inj heq)⟩
    · cases h.1.bundled with
      | cut => exact absurd rfl h.2
      | kept hclosed hnone => exact hclosed.namesType hnone
    · obtain ⟨hd, hcut⟩ := (hready c h).inside hkey hm hd
      exact ⟨⟨hd, hcut⟩, hd.bundled.strict⟩
  exact hfollows.layeredList fun part hpart _ => h part hpart

/-- **The sketch of a closed schema is closed**, and writes values as they are only where bundling
cut a part. -/
theorem everyClosed_ofSchema (hset : set.IsSound base) (hroot : root.IsSound)
    (hclosed : AllClosed set base root) (hcut : cut ∨ PartsUncut set base root) {s : Source}
    {H : Json → Prop} (hH : Spreads composing set base root s H)
    (href : ∀ c r, H c → reference? c = some r → Q r) {schema : Json} (h : H schema) :
    EveryClosed (Declared set base root) cut Q (.ofSchema set s schema) := by
  have hreaches : ∀ c, (H c ∧ reference? c = none) ∨ False → Reaches composing set base root s c :=
    fun c h => hH.reaches c (h.resolve_right id).1
  refine (follows_closed (K := fun c => H c ∧ reference? c = none) (L := fun _ => False)
    (fun c hc => (hclosed s c (hH.reaches c hc)).object) href
    (fun members hc hnone => Or.inl ⟨hc, hnone⟩)
    (fun c hc => (hclosed s c (hH.reaches c hc.1)).namesType hc.2)
    (fun c hc => (hreaches c hc).isSound hset hroot)
    (fun c hc => ⟨(hclosed s c (hreaches c hc)).strict, fun name hname =>
      ⟨s, c, hreaches c hc, (hc.resolve_right id).2, hname⟩⟩)
    (fun c hc key value hkey hm d hd => ?_) (fun hready => by cases hready) ?_).sketch h
  · have hc := hc.resolve_right id
    have hd := hH.inside c hc.1 hc.2 key value hkey hm d hd
    exact ⟨hd, (hclosed s d (hH.reaches d hd)).strict⟩
  · intro make hmake members hc ls hls
    cases hmake
    have hmembers := hreaches _ hc
    have hnone := (hc.resolve_right id).2
    refine every_bundled (P := fun part => ∀ j, set.bundleSchema s part = .ok j →
        IsReady (Declared set base root) cut j)
      (fun part j hpart => hpart j)
      (fun ready hmade parts hparts => isClosed_layeredList (fun make hmake parts hparts =>
        hmade make hmake parts fun part hpart j =>
          (hparts part hpart).bundleSchema hset hmembers.source) hparts)
      stackRoom (fun part hpart j hbundle => ?_) hls
    have hreached : Reaches composing set base root s part := hmembers.part hnone hpart
    exact ⟨Schema.Set.isSound_bundleSchema hset hmembers.source (hreached.isSound hset hroot) hbundle,
      isBundled_bundleSchema hclosed hreached hbundle,
      hcut.imp_right fun huncut => huncut s _ hmembers hnone part hpart j hbundle⟩

end Sketch

theorem looksWithin_of_allClosed {set : Schema.Set} {base : Source} {root : Json}
    (hset : set.IsSound base) (hroot : root.IsSound)
    (hclosed : AllClosed set base root) : LooksWithin composing set base root :=
  fun _ _ hH _ href _ h => (Sketch.everyClosed_ofSchema hset hroot hclosed
    (Or.inl trivial : True ∨ PartsUncut set base root) hH href h).mono fun _ hx => hx.2

end ReplySchema.Serializer

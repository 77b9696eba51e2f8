import ReplySchema.Proofs.Serializer.Unfolding

/-! # Values that conform

A basic schema names one type, or says nothing, or is nothing but a reference.  A value conforms
to it if it has the named type all the way down and no required member is missing.  What is
kept of a conforming value (`Trims`) is the value itself, except that an object keeps its
declared members only, in the order of the schema.

Both relations follow the schema and the value together.  So the chain of references at the
start of a schema has an end if a value conforms to it (`Conforms.not_circles`), and something
is kept of every conforming value (`exists_trims`).
-/

set_option autoImplicit false

namespace ReplySchema.Serializer

open Schema (Key Source Target reference? referenceTo)

/-! ## §1  Basic schemas -/

def basicTypes : List String := ["object", "array", "string", "boolean", "null", "integer"]

def basicKeywords : List String :=
  ["type", "nullable", "properties", "required", "items", "prefixItems"]

def foreignKeywords : List String :=
  ["allOf", "anyOf", "oneOf", "const", "default", "patternProperties", "additionalProperties",
    "additionalItems"]

/-- Whether a schema names one type and has no foreign keywords; its items are one schema. -/
structure HasType (schema : Json) (name : String) : Prop where
  reference : reference? schema = none
  type : schema.get? "type" = some (.string name)
  foreign : ∀ keyword ∈ foreignKeywords, schema.get? keyword = none
  items : ∀ v, schema.get? "items" = some v → v.isObject = true

/-- Whether a schema says nothing. -/
structure IsFree (schema : Json) : Prop where
  object : schema.isObject = true
  reference : reference? schema = none
  keyword : ∀ keyword ∈ basicKeywords ++ foreignKeywords, schema.get? keyword = none

/-- Whether a schema is basic, the schemas inside it aside. -/
inductive IsBasic (schema : Json) : Prop where
  | reference {r : String} (h : schema = referenceTo r)
  | free (h : IsFree schema)
  | typed {name : String} (hname : name ∈ basicTypes) (h : HasType schema name)

theorem IsBasic.foreign {schema : Json} (h : IsBasic schema) :
    ∀ keyword ∈ foreignKeywords, schema.get? keyword = none := by
  cases h with
  | reference h =>
      have hother : ∀ keyword ∈ foreignKeywords, "$ref" ≠ keyword := by decide
      subst h
      exact fun keyword hkeyword => if_neg (hother keyword hkeyword)
  | free h => exact fun keyword hkeyword => h.keyword keyword (List.mem_append_right _ hkeyword)
  | typed _ h => exact h.foreign

theorem IsBasic.isUncomposed {schema : Json} (h : IsBasic schema) : IsUncomposed schema := by
  intro keyword hkeyword
  refine h.foreign keyword ?_
  simp only [List.mem_cons, List.not_mem_nil, or_false] at hkeyword
  rcases hkeyword with rfl | rfl | rfl <;> decide

/-! ## §2  Conforming values -/

def itemSchema? (schema : Json) (i : Nat) : Option Json :=
  (Direct.front schema)[i]? <|> Direct.rest? schema

/-- Whether a value conforms to a basic schema. -/
inductive Conforms (set : Schema.Set) : Source → Json → Json → Prop where
  | reference {s : Source} {schema v : Json} {r : String} {t : Target} (hr : reference? schema = some r)
      (ht : set.resolve r s = .ok t) (h : Conforms set t.source t.schema v) :
      Conforms set s schema v
  | free {s : Source} {schema : Json} (h : IsFree schema) (v : Json) : Conforms set s schema v
  | absent {s : Source} {schema : Json} {name : String} (h : HasType schema name)
      (hnullable : schema.get? "nullable" = some (.bool true)) : Conforms set s schema .null
  | null {s : Source} {schema : Json} (h : HasType schema "null") : Conforms set s schema .null
  | boolean {s : Source} {schema : Json} (h : HasType schema "boolean") (b : Bool) :
      Conforms set s schema (.bool b)
  | integer {s : Source} {schema : Json} (h : HasType schema "integer") (n : Int) :
      Conforms set s schema (.int n)
  | string {s : Source} {schema : Json} (h : HasType schema "string") (text : String) :
      Conforms set s schema (.string text)
  | array {s : Source} {schema : Json} {items : List Json} (h : HasType schema "array")
      (hitems : ∀ (i : Nat) (x c : Json), items[i]? = some x → itemSchema? schema i = some c →
        Conforms set s c x) : Conforms set s schema (.array items)
  | object {s : Source} {schema : Json} {members : List (String × Json)}
      (h : HasType schema "object")
      (hrequired : ∀ name ∈ Direct.required schema, Table.contains name members = true)
      (hmembers : ∀ e ∈ Direct.entries "properties" schema, ∀ x,
        Table.find? e.1 members = some x → Conforms set s e.2 x) :
      Conforms set s schema (.object members)

/-- Whether a value is what is kept of another by a basic schema: an object keeps the declared
members that are there, in the order of the schema, and nothing else changes. -/
inductive Trims (set : Schema.Set) : Source → Json → Json → Json → Prop where
  | reference {s : Source} {schema v w : Json} {r : String} {t : Target}
      (hr : reference? schema = some r) (ht : set.resolve r s = .ok t)
      (h : Trims set t.source t.schema v w) : Trims set s schema v w
  | array {s : Source} {schema : Json} {items kept : List Json} (h : HasType schema "array")
      (hlength : kept.length = items.length)
      (hitems : ∀ (i : Nat) (x x' c : Json), items[i]? = some x → kept[i]? = some x' →
        itemSchema? schema i = some c → Trims set s c x x')
      (hfree : ∀ i : Nat, itemSchema? schema i = none → kept[i]? = items[i]?) :
      Trims set s schema (.array items) (.array kept)
  | object {s : Source} {schema : Json} {members kept : List (String × Json)}
      (h : HasType schema "object")
      (hnames : Table.keys kept = (Table.keys (Direct.entries "properties" schema)).filter
        fun name => Table.contains name members)
      (hmembers : ∀ e ∈ Direct.entries "properties" schema, ∀ x x',
        Table.find? e.1 members = some x → Table.find? e.1 kept = some x' →
        Trims set s e.2 x x') : Trims set s schema (.object members) (.object kept)
  /-- No other schema looks into a value. -/
  | same {s : Source} {schema v : Json} (hreference : reference? schema = none)
      (hobject : HasType schema "object" → v.isObject = false)
      (harray : HasType schema "array" → v.asArray? = none) : Trims set s schema v v

section

variable {set : Schema.Set}

/-- Where a value conforms, the references at the start come to an end. -/
theorem Conforms.not_circles {s : Source} {schema v : Json} (h : Conforms set s schema v) :
    ∀ t : Target, t.source = s → t.schema = schema → ¬ set.Circles t := by
  have hend : ∀ {schema : Json}, reference? schema = none →
      ∀ t : Target, t.schema = schema → ¬ set.Circles t := by
    intro schema hnone t hschema hcircles
    obtain ⟨u, hu, -⟩ := hcircles.next
    obtain ⟨r, hr, -⟩ := Schema.Set.next?_eq_some.mp hu
    rw [hschema, hnone] at hr
    cases hr
  induction h with
  | reference hr ht _ ih =>
      rintro t rfl rfl hcircles
      obtain ⟨u, hu, hcirclesNext⟩ := hcircles.next
      obtain ⟨r', hr', ht'⟩ := Schema.Set.next?_eq_some.mp hu
      rw [hr] at hr'
      cases hr'
      rw [ht] at ht'
      cases ht'
      exact ih _ rfl rfl hcirclesNext
  | free h => exact fun t _ => hend h.reference t
  | absent h => exact fun t _ => hend h.reference t
  | null h => exact fun t _ => hend h.reference t
  | boolean h => exact fun t _ => hend h.reference t
  | integer h => exact fun t _ => hend h.reference t
  | string h => exact fun t _ => hend h.reference t
  | array h => exact fun t _ => hend h.reference t
  | object h => exact fun t _ => hend h.reference t

/-! ## §3  What is kept -/

theorem exists_kept {P : String × Json → Json → Json → Prop} {members : List (String × Json)} :
    ∀ {entries : List (String × Json)}, (Table.keys entries).Nodup →
      (∀ e ∈ entries, ∀ x, Table.find? e.1 members = some x → ∃ x', P e x x') →
      ∃ kept : List (String × Json),
        Table.keys kept = (Table.keys entries).filter (fun name => Table.contains name members) ∧
        ∀ e ∈ entries, ∀ x x', Table.find? e.1 members = some x →
          Table.find? e.1 kept = some x' → P e x x'
  | [], _, _ => ⟨[], rfl, fun _ h => by cases h⟩
  | e :: rest, hnodup, h => by
      obtain ⟨hfresh, hrest⟩ := List.nodup_cons.mp hnodup
      obtain ⟨kept, hnames, hkept⟩ := exists_kept hrest fun e he => h e (List.mem_cons_of_mem _ he)
      have hkeys : Table.keys (e :: rest) = e.1 :: Table.keys rest := rfl
      have hne : ∀ e' ∈ rest, e.1 ≠ e'.1 := fun e' he' heq =>
        hfresh (List.mem_map.mpr ⟨e', he', heq.symm⟩)
      cases hfind : Table.find? e.1 members with
      | none =>
          have hnot := Table.contains_of_find?_none hfind
          refine ⟨kept, ?_, fun e' he' x x' hx hx' => ?_⟩
          · rw [hnames, hkeys, List.filter_cons, hnot]
            rfl
          · rcases List.mem_cons.mp he' with rfl | he'
            · rw [hfind] at hx
              cases hx
            · exact hkept e' he' x x' hx hx'
      | some x =>
          have hthere := Table.contains_of_find?_some hfind
          obtain ⟨x', hP⟩ := h e List.mem_cons_self x hfind
          refine ⟨(e.1, x') :: kept, ?_, fun e' he' y y' hy hy' => ?_⟩
          · rw [hkeys, List.filter_cons, hthere, if_pos rfl, ← hnames]
            rfl
          · rw [Table.find?_cons] at hy'
            rcases List.mem_cons.mp he' with rfl | he'
            · rw [if_pos rfl] at hy'
              rw [hfind] at hy
              cases hy
              cases hy'
              exact hP
            · rw [if_neg (hne e' he')] at hy'
              exact hkept e' he' y y' hy hy'

theorem exists_keptItems {P : Nat → Json → Json → Prop} : ∀ {items : List Json},
    (∀ (i : Nat) (x : Json), items[i]? = some x → ∃ x', P i x x') →
    ∃ kept : List Json, kept.length = items.length ∧
      ∀ (i : Nat) (x x' : Json), items[i]? = some x → kept[i]? = some x' → P i x x' := by
  intro items
  induction items generalizing P with
  | nil => exact fun _ => ⟨[], rfl, fun i x x' hx => by cases hx⟩
  | cons x rest ih =>
      intro h
      obtain ⟨x', hP⟩ := h 0 x rfl
      obtain ⟨kept, hlength, hkept⟩ := @ih (fun i => P (i + 1)) fun i => h (i + 1)
      refine ⟨x' :: kept, congrArg Nat.succ hlength, fun i y y' hy hy' => ?_⟩
      cases i with
      | zero =>
          cases hy
          cases hy'
          exact hP
      | succ i => exact hkept i y y' hy hy'

theorem nodup_entries {schema : Json} (h : schema.IsSound) (keyword : String) :
    (Table.keys (Direct.entries keyword schema)).Nodup := by
  unfold Direct.entries
  cases hfind : schema.get? keyword with
  | none => exact List.nodup_nil
  | some v =>
      cases v with
      | object es =>
          have hsound : (Json.object es).IsSound := by
            cases schema with
            | object ms => exact h.find? hfind
            | _ => cases hfind
          exact hsound.nodup
      | _ => exact List.nodup_nil

theorem mem_inside_of_itemSchema? {schema c : Json} {i : Nat} (h : itemSchema? schema i = some c) :
    c ∈ Sketch.inside schema := by
  rcases Result.eq_some_of_orElse h with h | h
  · exact mem_inside_of_front (List.mem_of_getElem? h)
  · exact mem_inside_of_rest? h

theorem not_hasType_of_isFree {schema : Json} (h : IsFree schema) {name : String} :
    ¬ HasType schema name := by
  intro h'
  have hnone := h.keyword "type" (by decide)
  rw [h'.type] at hnone
  cases hnone

theorem Trims.of_reference {s : Source} {schema v w : Json} {r : String} {t : Target}
    (h : Trims set s schema v w) (hr : reference? schema = some r) (ht : set.resolve r s = .ok t) :
    Trims set t.source t.schema v w := by
  have hnot : reference? schema ≠ none := by
    rw [hr]
    exact nofun
  cases h with
  | reference hr' ht' h =>
      rw [hr] at hr'
      cases hr'
      rw [ht] at ht'
      cases ht'
      exact h
  | array h => exact absurd h.reference hnot
  | object h => exact absurd h.reference hnot
  | same hnone => exact absurd hnone hnot

theorem Trims.of_array {s : Source} {schema w : Json} {items : List Json}
    (h : Trims set s schema (.array items) w) (htype : HasType schema "array") :
    ∃ kept, w = .array kept ∧ kept.length = items.length ∧
      ∀ (i : Nat) (x x' : Json), items[i]? = some x → kept[i]? = some x' →
        (∀ c, itemSchema? schema i = some c → Trims set s c x x') ∧
          (itemSchema? schema i = none → x' = x) := by
  cases h with
  | reference hr =>
      rw [htype.reference] at hr
      cases hr
  | array h hlength hitems hfree =>
      refine ⟨_, rfl, hlength, fun i x x' hx hx' => ⟨fun c => hitems i x x' c hx hx', fun hnone => ?_⟩⟩
      rw [hfree i hnone, hx] at hx'
      cases hx'
      rfl
  | same _ _ harray => cases harray htype

theorem Trims.of_object {s : Source} {schema w : Json} {members : List (String × Json)}
    (h : Trims set s schema (.object members) w) (htype : HasType schema "object") :
    ∃ kept, w = .object kept ∧
      Table.keys kept = (Table.keys (Direct.entries "properties" schema)).filter
        (fun name => Table.contains name members) ∧
      ∀ e ∈ Direct.entries "properties" schema, ∀ x x', Table.find? e.1 members = some x →
        Table.find? e.1 kept = some x' → Trims set s e.2 x x' := by
  cases h with
  | reference hr =>
      rw [htype.reference] at hr
      cases hr
  | object h hnames hmembers => exact ⟨_, rfl, hnames, hmembers⟩
  | same _ hobject => cases hobject htype

theorem Trims.eq_of_scalar {s : Source} {schema v w : Json} (h : Trims set s schema v w)
    (hnone : reference? schema = none) (hobject : v.isObject = false)
    (harray : v.asArray? = none) : w = v := by
  cases h with
  | reference hr =>
      rw [hnone] at hr
      cases hr
  | array => cases harray
  | object => cases hobject
  | same => rfl

theorem Trims.eq_of_isFree {s : Source} {schema v w : Json} (h : Trims set s schema v w)
    (hfree : IsFree schema) : w = v := by
  cases h with
  | reference hr =>
      rw [hfree.reference] at hr
      cases hr
  | array h => exact absurd h (not_hasType_of_isFree hfree)
  | object h => exact absurd h (not_hasType_of_isFree hfree)
  | same => rfl

variable {base : Source} {root : Json}

/-- **Something is kept of every conforming value.** -/
theorem exists_trims (hset : set.IsSound base) (hroot : root.IsSound) {s : Source}
    {schema v : Json} (h : Conforms set s schema v) :
    Reaches anywhere set base root s schema → ∃ w, Trims set s schema v w := by
  -- Induction on why the value conforms: what is kept of the parts is put together again.
  induction h with
  | reference hr ht _ ih =>
      intro hreaches
      obtain ⟨w, hw⟩ := ih (hreaches.target hr ht)
      exact ⟨w, .reference hr ht hw⟩
  | free h v =>
      exact fun _ => ⟨v, .same h.reference (fun h' => absurd h' (not_hasType_of_isFree h))
        fun h' => absurd h' (not_hasType_of_isFree h)⟩
  | absent h => exact fun _ => ⟨_, .same h.reference (fun _ => rfl) fun _ => rfl⟩
  | null h => exact fun _ => ⟨_, .same h.reference (fun _ => rfl) fun _ => rfl⟩
  | boolean h => exact fun _ => ⟨_, .same h.reference (fun _ => rfl) fun _ => rfl⟩
  | integer h => exact fun _ => ⟨_, .same h.reference (fun _ => rfl) fun _ => rfl⟩
  | string h => exact fun _ => ⟨_, .same h.reference (fun _ => rfl) fun _ => rfl⟩
  | @array s schema items h hitems ih =>
      intro hreaches
      have hone : ∀ (i : Nat) (x : Json), items[i]? = some x → ∃ x',
          (∀ c, itemSchema? schema i = some c → Trims set s c x x') ∧
            (itemSchema? schema i = none → x' = x) := by
        intro i x hx
        cases hc : itemSchema? schema i with
        | none => exact ⟨x, nofun, fun _ => rfl⟩
        | some c =>
            obtain ⟨x', hx'⟩ := ih i x c hx hc
              (hreaches.anywhere_inside h.reference (mem_inside_of_itemSchema? hc))
            refine ⟨x', fun c' hc' => ?_, nofun⟩
            cases hc'
            exact hx'
      obtain ⟨kept, hlength, hkept⟩ := exists_keptItems hone
      refine ⟨.array kept, .array h hlength (fun i x x' c hx hx' => (hkept i x x' hx hx').1 c)
        fun i hnone => ?_⟩
      cases hx : items[i]? with
      | none =>
          rw [List.getElem?_eq_none_iff] at hx ⊢
          rwa [hlength]
      | some x =>
          have hlt : i < kept.length := by
            rw [hlength]
            exact (List.getElem?_eq_some_iff.mp hx).1
          rw [List.getElem?_eq_getElem hlt]
          exact congrArg some ((hkept i x _ hx (List.getElem?_eq_getElem hlt)).2 hnone)
  | @object s schema members h hrequired hmembers ih =>
      intro hreaches
      obtain ⟨kept, hnames, hkept⟩ := exists_kept
        (nodup_entries (hreaches.isSound hset hroot) "properties") fun e he x hx =>
          ih e he x hx (hreaches.anywhere_inside h.reference (mem_inside_of_entries rfl he))
      exact ⟨.object kept, .object h hnames hkept⟩

end

end ReplySchema.Serializer

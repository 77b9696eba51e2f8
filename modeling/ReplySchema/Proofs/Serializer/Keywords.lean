import ReplySchema.Serializer.Sketch

/-! # The outline of a schema, keyword by keyword

An outline is gathered member by member.  If the members have distinct names, it can be
read off the schema instead: every facet is what its keyword says, and absent if the keyword
is (`ofMembers_inners`).  All that is proved about sketches starts from this second form.
-/

set_option autoImplicit false

namespace ReplySchema.Serializer

open Schema (Holds)

namespace Sketch

/-- How the parts of `allOf` are made ready; nothing if they are so already. -/
abbrev Ready := Option (List Json → Except SchemaError (List Layered))

def innerOf (ready : Ready) (key : String) (value : Json) : Outline.Inner :=
  match holds key, value with
  | .schema, v => .schema v (sketch ready v)
  | .named, .object entries => .named (entries.map fun e => (e.1, e.2, sketch ready e.2))
  | .list, .array items => .list (items.map fun j => (j, sketch ready j))
  | .either, .array items => .list (items.map fun j => (j, sketch ready j))
  | .either, v => .schema v (sketch ready v)
  | _, v => .data v

theorem namedInners_eq_map (ready : Ready) (entries : List (String × Json)) :
    namedInners ready entries = entries.map fun e => (e.1, e.2, sketch ready e.2) := by
  induction entries with
  | nil => simp [namedInners]
  | cons e rest ih => simp [namedInners, ih]

theorem listInners_eq_map (ready : Ready) (items : List Json) :
    listInners ready items = items.map fun j => (j, sketch ready j) := by
  induction items with
  | nil => simp [listInners]
  | cons j rest ih => simp [listInners, ih]

theorem inners_eq_map (ready : Ready) (members : List (String × Json)) :
    inners ready members = members.map fun m => (m.1, innerOf ready m.1 m.2) := by
  induction members with
  | nil => simp [inners]
  | cons m rest ih =>
      obtain ⟨key, value⟩ := m
      rw [inners.eq_def]
      simp only [namedInners_eq_map, listInners_eq_map, ih, List.map_cons]
      unfold innerOf
      cases holds key <;> cases value <;> rfl

end Sketch

namespace Outline

/-! ## §1  Facets by their keywords -/

def facetAt {α : Type} (read : Json → Option α) (keyword : String)
    (members : List (String × Json)) : Facet α :=
  match Table.find? keyword members with
  | none => .absent
  | some v => .ofOption (read v)

section
variable (sketch : Json → Sketch)

def trueAt : Json → Option Unit
  | .bool true => some ()
  | _ => none

def branchesAt (v : Json) : Option (List (Branch Json Sketch)) :=
  v.asArray?.map fun items => items.map fun j => ⟨some j, sketch j⟩

def propertiesAt (v : Json) : Option (List (Property Sketch)) :=
  v.asObject?.map fun entries => entries.map fun e => ⟨e.1, e.2.get? "default", sketch e.2⟩

def patternsAt (v : Json) : Option (List (String × Sketch)) :=
  v.asObject?.map fun entries => entries.map fun e => (e.1, sketch e.2)

def objectAt (v : Json) : Option Sketch := if v.isObject then some (sketch v) else none

def othersAt : Json → Option (Others Sketch)
  | .bool true => some .plain
  | v => (objectAt sketch v).map .shaped

def listAt (v : Json) : Option (List Sketch) := v.asArray?.map fun items => items.map sketch

def itemsAt : Json → Option ItemShapes
  | .array items => some (.listed (items.map sketch))
  | v => (objectAt sketch v).map .each

def ofSchema (members : List (String × Json)) : Outline where
  nullable := facetAt trueAt "nullable" members
  const := facetAt some "const" members
  anyOf := facetAt (branchesAt sketch) "anyOf" members
  oneOf := facetAt (branchesAt sketch) "oneOf" members
  type := facetAt kindsOf "type" members
  properties := facetAt (propertiesAt sketch) "properties" members
  required := facetAt Json.asArray? "required" members
  patternProperties := facetAt (patternsAt sketch) "patternProperties" members
  additionalProperties := facetAt (othersAt sketch) "additionalProperties" members
  prefixItems := facetAt (listAt sketch) "prefixItems" members
  items := facetAt (itemsAt sketch) "items" members
  additionalItems := facetAt (objectAt sketch) "additionalItems" members

end

/-! ## §2  One member after the other -/

theorem facetAt_concat {α : Type} (read : Json → Option α) (keyword : String)
    {members : List (String × Json)} {key : String} (hfresh : key ∉ Table.keys members)
    (value : Json) : facetAt read keyword (members ++ [(key, value)]) =
      if key = keyword then .ofOption (read value) else facetAt read keyword members := by
  have hfind : Table.find? keyword (members ++ [(key, value)]) =
      if key = keyword then some value else Table.find? keyword members := by
    induction members with
    | nil => simp [Table.find?]
    | cons m rest ih =>
        obtain ⟨k, v⟩ := m
        simp only [Table.keys, List.map_cons, List.mem_cons, not_or] at hfresh
        rw [List.cons_append, Table.find?_cons, Table.find?_cons, ih hfresh.2]
        by_cases hkey : key = keyword
        · rw [if_pos hkey, if_neg fun h => hfresh.1 (hkey.trans h.symm), if_pos hkey]
        · rw [if_neg hkey, if_neg hkey]
  unfold facetAt
  rw [hfind]
  by_cases hkey : key = keyword
  · rw [if_pos hkey, if_pos hkey]
  · rw [if_neg hkey, if_neg hkey]

theorem ofSchema_concat (ready : Sketch.Ready) {members : List (String × Json)} {key : String}
    (hfresh : key ∉ Table.keys members) (value : Json) :
    ofSchema (Sketch.sketch ready) (members ++ [(key, value)]) =
      (ofSchema (Sketch.sketch ready) members).add key (Sketch.innerOf ready key value) := by
  unfold ofSchema
  simp only [facetAt_concat _ _ hfresh]
  by_cases hkey : key ∈ ["nullable", "const", "anyOf", "oneOf", "type", "properties", "required",
      "patternProperties", "additionalProperties", "prefixItems", "items", "additionalItems"]
  · simp only [List.mem_cons, List.not_mem_nil, or_false] at hkey
    rcases hkey with rfl | rfl | rfl | rfl | rfl | rfl | rfl | rfl | rfl | rfl | rfl | rfl
    all_goals
      cases value with
      | bool b =>
          cases b <;> simp [add, Sketch.innerOf, Sketch.holds, Facet.ofOption, trueAt, branchesAt,
            propertiesAt, patternsAt, othersAt, listAt, itemsAt, objectAt, othersOf, itemsOf,
            Inner.list?, Inner.named?, Inner.objectSketch?, Json.asArray?, Json.asObject?,
            Json.isObject]
      | _ =>
          simp [add, Sketch.innerOf, Sketch.holds, Facet.ofOption, trueAt, branchesAt,
            propertiesAt, patternsAt, othersAt, listAt, itemsAt, objectAt, branchesOf, othersOf,
            itemsOf, Inner.list?, Inner.named?, Inner.objectSketch?, Json.asArray?,
            Json.asObject?, Json.isObject, Function.comp_def]
  · simp only [List.mem_cons, List.not_mem_nil, or_false, not_or] at hkey
    obtain ⟨h₁, h₂, h₃, h₄, h₅, h₆, h₇, h₈, h₉, h₁₀, h₁₁, h₁₂⟩ := hkey
    simp only [if_neg, h₁, h₂, h₃, h₄, h₅, h₆, h₇, h₈, h₉, h₁₀, h₁₁, h₁₂, not_false_eq_true]
    unfold add
    split <;> first | rfl | contradiction

/-- **The outline of a schema is what its keywords say.** -/
theorem ofMembers_inners (ready : Sketch.Ready) {members : List (String × Json)}
    (hnodup : (Table.keys members).Nodup) :
    ofMembers (Sketch.inners ready members) = ofSchema (Sketch.sketch ready) members := by
  have hbehind : ∀ rest done : List (String × Json), (Table.keys (done ++ rest)).Nodup →
      (Sketch.inners ready rest).foldl (fun o m => o.add m.1 m.2)
        (ofSchema (Sketch.sketch ready) done) =
        ofSchema (Sketch.sketch ready) (done ++ rest) := by
    intro rest
    induction rest with
    | nil =>
        intro done _
        rw [List.append_nil, Sketch.inners_eq_map]
        rfl
    | cons m rest ih =>
        obtain ⟨key, value⟩ := m
        intro done hkeys
        have hfresh : key ∉ Table.keys done := by
          rw [Table.keys, List.map_append] at hkeys
          exact fun hmem => (List.nodup_append.mp hkeys).2.2 key hmem key (by simp) rfl
        have hrest := ih (done ++ [(key, value)]) (by rwa [List.append_assoc])
        rw [ofSchema_concat ready hfresh, List.append_assoc] at hrest
        rw [Sketch.inners_eq_map, List.map_cons, List.foldl_cons, ← Sketch.inners_eq_map]
        exact hrest
  exact hbehind members [] hnodup

end Outline

end ReplySchema.Serializer

import ReplySchema.Proofs.Serializer.Direct
import ReplySchema.Proofs.Serializer.Mirror

/-! # A shape writes what its schema says, if its parts do

Writing by a plan and writing straight by the schema both have a bound on their depth, and
they spend it differently.  So two runs are compared with `Agree`, which asks for nothing if
one of them has gone too deep.  That relation passes through every composition of steps.

The outline of a schema is read off its keywords, so the shape of an object or an array is
put together from the same entries that the direct way reads.  If the shapes inside write
what the schemas inside say, the runs agree step by step, first for objects and arrays, then
for types, and then for the whole schema (`agree_writeBy`).
-/

set_option autoImplicit false

namespace ReplySchema.Serializer

/-! ## §1  Agreement up to the depth -/

/-- Whether two runs come to the same, if neither goes too deep. -/
def Agree {α : Type} (x y : Except SerializeError α) : Prop :=
  x = .error .tooDeep ∨ y = .error .tooDeep ∨ x = y

namespace Agree

variable {α β : Type} {x y : Except SerializeError α}

theorem refl (x : Except SerializeError α) : Agree x x := Or.inr (Or.inr rfl)

theorem tooDeep_left (y : Except SerializeError α) : Agree (throw .tooDeep) y := Or.inl rfl

theorem tooDeep_right (x : Except SerializeError α) : Agree x (throw .tooDeep) :=
  Or.inr (Or.inl rfl)

theorem eq (h : Agree x y) (hx : x ≠ .error .tooDeep) (hy : y ≠ .error .tooDeep) : x = y :=
  (h.resolve_left hx).resolve_left hy

theorem bind (h : Agree x y) {f g : α → Except SerializeError β} (hfg : ∀ a, Agree (f a) (g a)) :
    Agree (x >>= f) (y >>= g) := by
  rcases h with rfl | rfl | rfl
  · exact tooDeep_left _
  · exact tooDeep_right _
  · cases x with
    | error e => exact refl _
    | ok a => exact hfg a

end Agree

/-! ## §2  Outlines, read off the schema -/

namespace Outline

variable {sketch : Json → Sketch} {members : List (String × Json)}

theorem value?_facetAt {α : Type} (read : Json → Option α) (keyword : String) :
    (facetAt read keyword members).value? = (Table.find? keyword members).bind read := by
  unfold facetAt
  cases Table.find? keyword members with
  | none => rfl
  | some v => cases hv : read v <;> simp [Facet.ofOption, Facet.value?, hv]

theorem isPresent_facetAt {α : Type} (read : Json → Option α) (keyword : String) :
    (facetAt read keyword members).isPresent = (Table.find? keyword members).isSome := by
  unfold facetAt
  cases Table.find? keyword members with
  | none => rfl
  | some v => cases hv : read v <;> simp [Facet.ofOption, Facet.isPresent, hv]

def othersOfSchema (sketch : Json → Sketch) (schema : Json) : Others Sketch :=
  match Direct.additional? schema with
  | none => .dropped
  | some none => .plain
  | some (some inner) => .shaped (sketch inner)

theorem objectShape_ofSchema : (ofSchema sketch members).objectShape =
    .object
      ((Direct.entries "properties" (.object members)).map fun e =>
        ⟨e.1, e.2.get? "default", sketch e.2⟩)
      (Direct.required (.object members))
      ((Direct.entries "patternProperties" (.object members)).filterMap fun e =>
        (Pattern.read? e.1).map fun pattern => (pattern, sketch e.2))
      (othersOfSchema sketch (.object members)) := by
  have hentries : ∀ {α : Type} (keyword : String) (f : String × Json → α),
      (((Table.find? keyword members).bind fun v => v.asObject?.map (List.map f)).getD []) =
        (Direct.entries keyword (.object members)).map f := by
    intro α keyword f
    have hget : (Json.object members).get? keyword = Table.find? keyword members := rfl
    unfold Direct.entries
    rw [hget]
    cases Table.find? keyword members with
    | none => rfl
    | some v => cases v <;> rfl
  have hothers : (((Table.find? "additionalProperties" members).bind (othersAt sketch)).getD
      .dropped) = othersOfSchema sketch (.object members) := by
    have hget : (Json.object members).get? "additionalProperties" =
        Table.find? "additionalProperties" members := rfl
    unfold othersOfSchema Direct.additional? Direct.object?
    rw [hget]
    cases Table.find? "additionalProperties" members with
    | none => rfl
    | some v =>
        cases v with
        | bool b => cases b <;> rfl
        | _ => rfl
  unfold objectShape requiredNames ofSchema
  simp only [value?_facetAt]
  rw [hothers]
  unfold propertiesAt patternsAt
  rw [hentries, hentries, List.filterMap_map]
  rfl

theorem arrayShape_ofSchema : (ofSchema sketch members).arrayShape =
    .array ((Direct.front (.object members)).map sketch)
      ((Direct.rest? (.object members)).elim .any sketch) := by
  have hget : ∀ keyword, (Json.object members).get? keyword = Table.find? keyword members :=
    fun _ => rfl
  have hfront : ∀ inner : List Json,
      ((Table.find? "prefixItems" members).bind (listAt sketch)).getD (inner.map sketch) =
        (((Table.find? "prefixItems" members).bind Json.asArray?).getD inner).map sketch := by
    intro inner
    cases Table.find? "prefixItems" members with
    | none => rfl
    | some v => cases v <;> rfl
  unfold arrayShape ofSchema Direct.front Direct.rest? Direct.list? Direct.object?
  simp only [value?_facetAt, hget]
  cases hitems : Table.find? "items" members with
  | none => exact congrArg (Shape.array · _) (hfront [])
  | some v =>
      cases v with
      | array schemas =>
          refine (congrArg (Shape.array · _) (hfront schemas)).trans (congrArg _ ?_)
          cases Table.find? "additionalItems" members with
          | none => rfl
          | some inner => cases inner <;> rfl
      | _ => exact congrArg (Shape.array · _) (hfront [])

end Outline

/-! ## §3  Objects and arrays -/

section

variable {R : Except SchemaError String → Node → Prop} {test : Json → Option Validator}
variable {sketch : Json → Sketch} {write : Node → Json → Except SerializeError Written}
variable {direct : Json → Json → Except SerializeError Written}

/-- Whether the shapes of a schema write what the schema says. -/
def Agrees (R : Except SchemaError String → Node → Prop) (test : Json → Option Validator)
    (sketch : Json → Sketch) (write : Node → Json → Except SerializeError Written)
    (direct : Json → Json → Except SerializeError Written) (schema : Json) : Prop :=
  ∀ node, Shape.Links R test (sketch schema) node → ∀ v, Agree (write node v) (direct schema v)

theorem agree_writeProperties {members : List (String × Json)} :
    ∀ {entries : List (String × Json)} {properties : List (Property Node)},
      Shape.LinksProperties R test
        (entries.map fun e => ⟨e.1, e.2.get? "default", sketch e.2⟩) properties →
      (∀ e ∈ entries, Agrees R test sketch write direct e.2) →
      Agree (Plan.writeDeclared write members properties)
        (Direct.writeProperties direct members entries)
  | [], _, hlinks, _ => by
      cases hlinks
      exact .refl _
  | (name, schema) :: rest, _, hlinks, hentries => by
      obtain ⟨node, more, rfl, hnode, hmore⟩ := hlinks
      have hrest : Agree (Plan.writeDeclared write members more)
          (Direct.writeProperties direct members rest) :=
        agree_writeProperties hmore fun e he => hentries e (List.mem_cons_of_mem _ he)
      rw [Plan.writeDeclared, Direct.writeProperties]
      cases (Table.find? name members <|> schema.get? "default") with
      | none => exact hrest
      | some v =>
          refine (hentries _ List.mem_cons_self node hnode v).bind fun written => ?_
          exact hrest.bind fun _ => .refl _

theorem find?_patterns (name : String) : ∀ {entries : List (String × Json)}
    {patterns : List (Pattern × Node)},
    Shape.LinksPatterns R test (entries.filterMap fun e =>
      (Pattern.read? e.1).map fun pattern => (pattern, sketch e.2)) patterns →
    (patterns.find? (fun p => p.1.isIn name) = none ∧
      entries.find? (fun e => (Pattern.read? e.1).any fun p => p.isIn name) = none) ∨
    ∃ p, ∃ e ∈ entries, patterns.find? (fun p => p.1.isIn name) = some p ∧
      entries.find? (fun e => (Pattern.read? e.1).any fun p => p.isIn name) = some e ∧
      Shape.Links R test (sketch e.2) p.2
  | [], _, hlinks => by
      cases hlinks
      exact Or.inl ⟨rfl, rfl⟩
  | (text, schema) :: rest, patterns, hlinks => by
      -- an entry that is no pattern, or does not match, leaves the search to the rest
      have hbehind : ∀ {more : List (Pattern × Node)}, Shape.LinksPatterns R test
          (rest.filterMap fun e =>
            (Pattern.read? e.1).map fun pattern => (pattern, sketch e.2)) more →
          (more.find? (fun p => p.1.isIn name) = none ∧
            rest.find? (fun e => (Pattern.read? e.1).any fun p => p.isIn name) = none) ∨
          ∃ p, ∃ e ∈ (text, schema) :: rest, more.find? (fun p => p.1.isIn name) = some p ∧
            rest.find? (fun e => (Pattern.read? e.1).any fun p => p.isIn name) = some e ∧
            Shape.Links R test (sketch e.2) p.2 := by
        intro more hmore
        rcases find?_patterns name hmore with hnone | ⟨p, e, he, hp, hfind, hlinks⟩
        · exact Or.inl hnone
        · exact Or.inr ⟨p, e, List.mem_cons_of_mem _ he, hp, hfind, hlinks⟩
      cases hread : Pattern.read? text with
      | none =>
          rw [List.filterMap_cons] at hlinks
          simp only [hread, Option.map_none] at hlinks
          simp only [List.find?_cons, hread, Option.any_none]
          exact hbehind hlinks
      | some pattern =>
          rw [List.filterMap_cons] at hlinks
          simp only [hread, Option.map_some] at hlinks
          obtain ⟨node, more, rfl, hnode, hmore⟩ := hlinks
          simp only [List.find?_cons, hread, Option.any_some]
          cases hmatch : pattern.isIn name with
          | true => exact Or.inr ⟨_, _, List.mem_cons_self, rfl, rfl, hnode⟩
          | false => exact hbehind hmore

/-- What is linked to the shape of an object, and agrees on the schemas inside. -/
structure AgreesObject (R : Except SchemaError String → Node → Prop)
    (test : Json → Option Validator) (sketch : Json → Sketch)
    (write : Node → Json → Except SerializeError Written)
    (direct : Json → Json → Except SerializeError Written) (schema : Json)
    (properties : List (Property Node)) (patterns : List (Pattern × Node)) (others : Others Node) :
    Prop where
  properties : Shape.LinksProperties R test
    ((Direct.entries "properties" schema).map fun e => ⟨e.1, e.2.get? "default", sketch e.2⟩)
    properties
  patterns : Shape.LinksPatterns R test
    ((Direct.entries "patternProperties" schema).filterMap fun e =>
      (Pattern.read? e.1).map fun pattern => (pattern, sketch e.2)) patterns
  others : Shape.LinksOthers R test (Outline.othersOfSchema sketch schema) others
  inside : ∀ c ∈ Sketch.inside schema, Agrees R test sketch write direct c

theorem mem_inside_of_entries {keyword : String} (hkeyword : Sketch.holds keyword = .named)
    {schema : Json} {e : String × Json} (he : e ∈ Direct.entries keyword schema) :
    e.2 ∈ Sketch.inside schema := by
  cases schema with
  | object members =>
      unfold Direct.entries at he
      cases hfind : (Json.object members).get? keyword with
      | none => simp [hfind] at he
      | some v =>
          cases v with
          | object es =>
              simp only [hfind, Option.bind_some, Json.asObject?, Option.getD_some] at he
              exact Sketch.mem_inside_of_asObject? hkeyword hfind rfl he
          | _ => simp [hfind, Json.asObject?] at he
  | _ => simp [Direct.entries, Json.get?] at he

theorem mem_inside_of_object? {keyword : String}
    (hkeyword : Sketch.holds keyword = .schema ∨ Sketch.holds keyword = .either) {schema c : Json}
    (hc : Direct.object? keyword schema = some c) : c ∈ Sketch.inside schema := by
  unfold Direct.object? at hc
  obtain ⟨hfind, hobject⟩ := Option.filter_eq_some_iff.mp hc
  cases schema with
  | object members => exact Sketch.mem_inside_of_isObject hkeyword hfind hobject
  | _ => cases hfind

theorem mem_inside_of_list? {keyword : String}
    (hkeyword : Sketch.holds keyword = .list ∨ Sketch.holds keyword = .either) {schema c : Json}
    (hc : c ∈ (Direct.list? keyword schema).getD []) : c ∈ Sketch.inside schema := by
  unfold Direct.list? at hc
  cases hfind : schema.get? keyword with
  | none => simp [hfind] at hc
  | some v =>
      cases v with
      | array items =>
          simp only [hfind, Option.bind_some, Json.asArray?, Option.getD_some] at hc
          cases schema with
          | object members => exact Sketch.mem_inside_of_asArray? hkeyword hfind rfl hc
          | _ => cases hfind
      | _ => simp [hfind, Json.asArray?] at hc

theorem mem_inside_of_front {schema c : Json} (hc : c ∈ Direct.front schema) :
    c ∈ Sketch.inside schema := by
  unfold Direct.front at hc
  cases hlisted : Direct.list? "prefixItems" schema with
  | some schemas =>
      have hfront : c ∈ (Direct.list? "prefixItems" schema).getD [] := by
        rw [hlisted] at hc ⊢
        exact hc
      exact mem_inside_of_list? (Or.inl rfl) hfront
  | none =>
      rw [hlisted] at hc
      exact mem_inside_of_list? (Or.inr rfl) hc

theorem mem_inside_of_rest? {schema c : Json} (hc : Direct.rest? schema = some c) :
    c ∈ Sketch.inside schema := by
  unfold Direct.rest? at hc
  split at hc
  · exact mem_inside_of_object? (Or.inl rfl) hc
  · exact mem_inside_of_object? (Or.inr rfl) hc

variable {schema : Json} {properties : List (Property Node)} {patterns : List (Pattern × Node)}
variable {others : Others Node}
variable (hagrees : AgreesObject R test sketch write direct schema properties patterns others)
include hagrees

/-- A member that is not declared is treated in the same way on both sides. -/
theorem agree_other (name : String) :
    (Plan.otherShape? patterns others name = none ∧ Direct.other? schema name = none) ∨
      (Plan.otherShape? patterns others name = some none ∧
        Direct.other? schema name = some none) ∨
      ∃ node inner, Plan.otherShape? patterns others name = some (some node) ∧
        Direct.other? schema name = some (some inner) ∧
        ∀ v, Agree (write node v) (direct inner v) := by
  unfold Plan.otherShape? Direct.other?
  rcases find?_patterns name hagrees.patterns with ⟨hnone, hnone'⟩ | ⟨p, e, he, hp, he', hlinks⟩
  · rw [hnone, hnone']
    have hothers := hagrees.others
    unfold Outline.othersOfSchema at hothers
    cases hadditional : Direct.additional? schema with
    | none =>
        rw [hadditional] at hothers
        cases hothers
        exact Or.inl ⟨rfl, rfl⟩
    | some inner =>
        rw [hadditional] at hothers
        cases inner with
        | none =>
            cases hothers
            exact Or.inr (Or.inl ⟨rfl, rfl⟩)
        | some inner =>
            obtain ⟨node, rfl, hnode⟩ := hothers
            have hobject : Direct.object? "additionalProperties" schema = some inner := by
              unfold Direct.additional? at hadditional
              split at hadditional
              · cases hadditional
              · obtain ⟨c, hc, heq⟩ := Option.map_eq_some_iff.mp hadditional
                cases heq
                exact hc
            exact Or.inr (Or.inr ⟨node, inner, rfl, rfl,
              hagrees.inside _ (mem_inside_of_object? (Or.inl rfl) hobject) node hnode⟩)
  · rw [hp, he']
    exact Or.inr (Or.inr ⟨p.2, e.2, rfl, rfl,
      hagrees.inside _ (mem_inside_of_entries rfl he) p.2 hlinks⟩)

theorem any_name (name : String) : (properties.any fun p => p.name == name) =
    (Direct.entries "properties" schema).any fun e => e.1 == name := by
  have hforms := hagrees.properties.parts.1
  have hany : ∀ {α : Type} (xs : List α) (f : α → String × Option Json),
      (xs.any fun x => (f x).1 == name) = (xs.map f).any fun q => q.1 == name := by
    intro α xs f
    rw [List.any_map]
    rfl
  rw [hany properties fun p => (p.name, p.default), hforms, List.map_map, List.any_map]
  rfl

theorem missing?_eq (members : List (String × Json)) :
    Plan.missing? properties (Direct.required schema) members = Direct.missing? schema members := by
  have hforms := hagrees.properties.parts.1
  unfold Plan.missing? Direct.missing?
  refine congrArg (List.find? · _) (funext fun name => ?_)
  have hany : (properties.any fun p => p.name == name && p.default.isSome) =
      (properties.map fun p => (p.name, p.default)).any fun q => q.1 == name && q.2.isSome := by
    rw [List.any_map]
    rfl
  rw [hany, hforms, List.map_map, List.any_map]
  rfl

theorem agree_writeOthers (members : List (String × Json)) :
    Agree (Plan.writeOthers write properties patterns others members)
      (Direct.writeOthers direct schema members) := by
  induction members with
  | nil => exact .refl _
  | cons m rest hrest =>
      rw [Plan.writeOthers, Direct.writeOthers, any_name hagrees m.1]
      split
      · exact hrest
      · rcases agree_other hagrees m.1 with ⟨h, h'⟩ | ⟨h, h'⟩ | ⟨node, inner, h, h', hinner⟩
        · rw [h, h']
          exact hrest
        · rw [h, h']
          exact hrest.bind fun _ => .refl _
        · rw [h, h']
          exact (hinner m.2).bind fun _ => hrest.bind fun _ => .refl _

theorem agree_writeObject (v : Json) :
    Agree (Plan.writeObject write properties (Direct.required schema) patterns others v)
      (Direct.writeObject direct schema v) := by
  unfold Plan.writeObject Direct.writeObject
  rw [missing?_eq hagrees]
  cases Direct.missing? schema v.members with
  | some name => exact .refl _
  | none =>
      refine (agree_writeProperties hagrees.properties fun e he =>
        hagrees.inside _ (mem_inside_of_entries rfl he)).bind fun _ => ?_
      exact (agree_writeOthers hagrees v.members).bind fun _ => .refl _

omit hagrees

theorem agree_writeItems {rest : Option Json} {node : Node}
    (hrest : Shape.Links R test (rest.elim .any sketch) node)
    (hany : ∀ v, Agree (write .any v) (pure (.ofJson v)))
    (hrestAgrees : ∀ c ∈ rest, Agrees R test sketch write direct c) :
    ∀ {front : List Json} {nodes : List Node}, Shape.LinksList R test (front.map sketch) nodes →
      (∀ c ∈ front, Agrees R test sketch write direct c) → ∀ items : List Json,
      Agree (Plan.writeItems write node nodes items) (Direct.writeItems direct rest front items)
  | front, nodes, _, _, [] => by
      cases front <;> cases nodes <;> exact .refl _
  | [], _, hlinks, hfront, x :: xs => by
      cases hlinks
      rw [Plan.writeItems, Direct.writeItems.eq_def]
      dsimp only
      have hone : Agree (write node x) (Direct.writeAny direct rest x) := by
        cases rest with
        | none =>
            cases hrest
            exact hany x
        | some c => exact hrestAgrees c rfl node hrest x
      have hnil : Shape.LinksList R test (([] : List Json).map sketch) [] := rfl
      have hmore := agree_writeItems hrest hany hrestAgrees hnil hfront xs
      exact hone.bind fun _ => hmore.bind fun _ => .refl _
  | c :: front, _, hlinks, hfront, x :: xs => by
      obtain ⟨first, nodes, rfl, hfirst, hlinks⟩ := hlinks
      rw [Plan.writeItems, Direct.writeItems]
      refine (hfront c List.mem_cons_self first hfirst x).bind fun _ => ?_
      exact (agree_writeItems hrest hany hrestAgrees hlinks
        (fun c hc => hfront c (List.mem_cons_of_mem _ hc)) xs).bind fun _ => .refl _

end

/-! ## §4  One schema -/

section

variable {R : Except SchemaError String → Node → Prop} {test : Json → Option Validator}
variable {sketch : Json → Sketch} {direct : Json → Json → Except SerializeError Written}
variable {plan : Plan} {members : List (String × Json)} {bound : Nat}

theorem agree_any (room : Nat) (v : Json) :
    Agree (plan.write room .any v) (pure (.ofJson v)) := by
  cases room with
  | zero => exact .tooDeep_left _
  | succ room => exact .refl _

theorem looksLike_typed {name : String} {node : Node}
    (hlinks : Shape.Links R test ((Outline.ofSchema sketch members).typedShape name) node)
    (room : Nat) (v : Json) : plan.looksLike (room + 1) node v = Direct.admits name v := by
  unfold Outline.typedShape at hlinks
  split at hlinks
  · cases hlinks
    cases v <;> rfl
  · cases hlinks
    cases v <;> rfl
  · cases hlinks
    cases v <;> rfl
  · cases hlinks
    cases v <;> rfl
  · cases hlinks
    cases v <;> rfl
  · obtain ⟨_, _, _, rfl, -⟩ := hlinks
    cases v <;> rfl
  · rw [Outline.arrayShape_ofSchema] at hlinks
    obtain ⟨_, _, rfl, -⟩ := hlinks
    cases v <;> rfl
  · next hnull hboolean hinteger hnumber hstring hobject harray =>
    cases hlinks
    have hunknown : Validation.TypeName.read? name = none := by
      refine List.find?_eq_none.mpr fun t _ h => ?_
      have heq := (eq_of_beq h).symm
      cases t with
      | array => exact harray heq
      | boolean => exact hboolean heq
      | integer => exact hinteger heq
      | null => exact hnull heq
      | number => exact hnumber heq
      | object => exact hobject heq
      | string => exact hstring heq
    unfold Direct.admits
    rw [hunknown]
    rfl

/-- The type that is chosen among several is the one whose shape is chosen. -/
theorem choose?_names {names : List String} {branches : List (Branch Validator Node)}
    (hlinks : Shape.LinksBranches R test
      (names.map fun name => ⟨none, (Outline.ofSchema sketch members).typedShape name⟩) branches)
    (v : Json) :
    (plan.choose? branches v = none ∧ Direct.firstAdmitting? names v = none) ∨
    ∃ node name, plan.choose? branches v = some node ∧
      Direct.firstAdmitting? names v = some name ∧
      Shape.Links R test ((Outline.ofSchema sketch members).typedShape name) node := by
  -- The branches stand in the order of the names, and each asks what its name admits.
  have hfind : ∀ {names : List String} {branches : List (Branch Validator Node)},
      Shape.LinksBranches R test
        (names.map fun name => ⟨none, (Outline.ofSchema sketch members).typedShape name⟩)
        branches →
      (branches.find? (fun b => plan.accepts b v) = none ∧
        names.find? (Direct.admits · v) = none) ∨
      ∃ b name, branches.find? (fun b => plan.accepts b v) = some b ∧
        names.find? (Direct.admits · v) = some name ∧
        Shape.Links R test ((Outline.ofSchema sketch members).typedShape name) b.shape := by
    intro names
    induction names with
    | nil =>
        intro branches hlinks
        cases hlinks
        exact Or.inl ⟨rfl, rfl⟩
    | cons name rest ih =>
        intro branches hlinks
        obtain ⟨node, more, rfl, hnode, hmore⟩ := hlinks
        have haccepts : plan.accepts ⟨none, node⟩ v = Direct.admits name v :=
          looksLike_typed hnode 16 v
        rw [List.find?_cons, List.find?_cons, Option.bind_none, haccepts]
        cases Direct.admits name v with
        | true => exact Or.inr ⟨_, name, rfl, rfl, hnode⟩
        | false => exact ih hmore
  unfold Plan.choose? Direct.firstAdmitting?
  rcases hfind hlinks with ⟨h, h'⟩ | ⟨b, name, h, h', hnode⟩
  · rw [h, h']
    cases names with
    | nil =>
        cases hlinks
        exact Or.inl ⟨rfl, rfl⟩
    | cons name rest =>
        obtain ⟨node, more, rfl, hnode, -⟩ := hlinks
        exact Or.inr ⟨node, name, rfl, rfl, hnode⟩
  · rw [h, h']
    exact Or.inr ⟨b.shape, name, rfl, rfl, hnode⟩

variable (hinside : ∀ room < bound, ∀ c ∈ Sketch.inside (.object members),
  Agrees R test sketch (plan.write room) direct c)
include hinside

theorem agree_typed {name : String} {node : Node}
    (hlinks : Shape.Links R test ((Outline.ofSchema sketch members).typedShape name) node)
    {room : Nat} (hroom : room ≤ bound) (v : Json) :
    Agree (plan.write room node v)
      (Direct.writeTyped plan.rounding direct (.object members) name v) := by
  cases room with
  | zero => exact .tooDeep_left _
  | succ room =>
      unfold Outline.typedShape at hlinks
      split at hlinks
      · cases hlinks
        exact .refl _
      · cases hlinks
        exact .refl _
      · cases hlinks
        exact .refl _
      · cases hlinks
        exact .refl _
      · cases hlinks
        exact .refl _
      · rw [Outline.objectShape_ofSchema] at hlinks
        obtain ⟨properties, patterns, others, rfl, hproperties, hpatterns, hothers⟩ := hlinks
        exact agree_writeObject ⟨hproperties, hpatterns, hothers, hinside room hroom⟩ v
      · rw [Outline.arrayShape_ofSchema] at hlinks
        obtain ⟨front, rest, rfl, hfront, hrest⟩ := hlinks
        cases v with
        | array items =>
            refine (agree_writeItems hrest (agree_any room) (fun c hc => ?_) hfront
              (fun c hc => ?_) items).bind fun _ => .refl _
            · exact hinside room hroom c (mem_inside_of_rest? hc)
            · exact hinside room hroom c (mem_inside_of_front hc)
        | _ => exact .refl _
      · next hnull hboolean hinteger hnumber hstring hobject harray =>
        cases hlinks
        unfold Direct.writeTyped
        split <;> first | contradiction | exact .refl _

/-- What a schema says of a value by the type that its keywords hint at. -/
theorem agree_hinted {node : Node}
    (hlinks : Shape.Links R test (Outline.ofSchema sketch members).hintedShape node) {room : Nat}
    (hroom : room ≤ bound) (v : Json) :
    Agree (plan.write room node v)
      (Direct.writeAs plan.rounding direct (.object members)
        (Direct.hinted? (.object members)) v) := by
  have hget : ∀ keyword, (Json.object members).get? keyword = Table.find? keyword members :=
    fun _ => rfl
  unfold Outline.hintedShape Outline.ofSchema at hlinks
  simp only [Outline.isPresent_facetAt] at hlinks
  unfold Direct.hinted? Direct.hasAny
  simp only [hget, List.any_cons, List.any_nil, Bool.or_false, ← Bool.or_assoc]
  split at hlinks
  · next h =>
      have hobject : Shape.Links R test
        ((Outline.ofSchema sketch members).typedShape "object") node := hlinks
      rw [if_pos h]
      exact agree_typed hinside hobject hroom v
  · next h =>
      rw [if_neg h]
      split at hlinks
      · next h =>
          have harray : Shape.Links R test
            ((Outline.ofSchema sketch members).typedShape "array") node := hlinks
          rw [if_pos h]
          exact agree_typed hinside harray hroom v
      · next h =>
          rw [if_neg h]
          cases hlinks
          exact agree_any room v

/-- What a schema says of a value by one of several types. -/
theorem agree_union {names : List String} {branches : List (Branch Validator Node)}
    (hlinks : Shape.LinksBranches R test
      (names.map fun name => ⟨none, (Outline.ofSchema sketch members).typedShape name⟩) branches)
    {room : Nat} (hroom : room ≤ bound) (v : Json) :
    Agree (plan.write room (.union branches) v)
      (Direct.writeAs plan.rounding direct (.object members)
        (Direct.firstAdmitting? names v) v) := by
  cases room with
  | zero => exact .tooDeep_left _
  | succ room =>
      rw [Plan.write]
      rcases choose?_names hlinks v with ⟨h, h'⟩ | ⟨node, name, h, h', hnode⟩
      · rw [h, h']
        exact .refl _
      · rw [h, h']
        exact agree_typed hinside hnode (Nat.le_of_lt hroom) v

/-- What a schema says of a value by its type. -/
theorem agree_kind {node : Node}
    (hlinks : Shape.Links R test (Outline.ofSchema sketch members).kindShape node) {room : Nat}
    (hroom : room ≤ bound) (v : Json) :
    Agree (plan.write room node v)
      (Direct.writeAs plan.rounding direct (.object members)
        (Direct.type? (.object members) v) v) := by
  have hget : (Json.object members).get? "type" = Table.find? "type" members := rfl
  have htype : (Outline.ofSchema sketch members).type =
      Outline.facetAt Outline.kindsOf "type" members := rfl
  unfold Direct.type?
  unfold Outline.kindShape at hlinks
  rw [htype] at hlinks
  unfold Outline.facetAt at hlinks
  rw [hget]
  cases hfind : Table.find? "type" members with
  | none =>
      rw [hfind] at hlinks
      exact agree_hinted hinside hlinks hroom v
  | some kinds =>
      rw [hfind] at hlinks
      cases kinds with
      | string name => exact agree_typed hinside hlinks hroom v
      | array kinds =>
          dsimp only [Outline.kindsOf, Facet.ofOption] at hlinks ⊢
          generalize kinds.filterMap Json.asString? = names at hlinks ⊢
          rcases names with _ | ⟨name, _ | ⟨second, rest⟩⟩
          · obtain ⟨branches, rfl, hbranches⟩ := hlinks
            exact agree_union hinside hbranches hroom v
          · -- A list of one type is that type, whether or not it has the value.
            have hone : Direct.firstAdmitting? [name] v = some name := by
              unfold Direct.firstAdmitting?
              rw [List.find?_cons]
              cases Direct.admits name v <;> rfl
            rw [hone]
            exact agree_typed hinside hlinks hroom v
          · obtain ⟨branches, rfl, hbranches⟩ := hlinks
            exact agree_union hinside hbranches hroom v
      | _ => exact agree_hinted hinside hlinks hroom v

theorem agree_fixed (hanyOf : Table.find? "anyOf" members = none)
    (honeOf : Table.find? "oneOf" members = none) {node : Node}
    (hlinks : Shape.Links R test
      (Outline.fixed Outline.shape (Outline.ofSchema sketch members)) node)
    {room : Nat} (hroom : room ≤ bound) (v : Json) :
    Agree (plan.write room node v)
      (Direct.writeFixed plan.rounding direct (.object members) v) := by
  have hget : (Json.object members).get? "const" = Table.find? "const" members := rfl
  have hconst : (Outline.ofSchema sketch members).const =
      Outline.facetAt some "const" members := rfl
  have hshape : (Outline.ofSchema sketch members).shape =
      (Outline.ofSchema sketch members).kindShape := by
    have hany : (Outline.ofSchema sketch members).anyOf = .absent := by
      simp only [Outline.ofSchema, Outline.facetAt, hanyOf]
    have hone : (Outline.ofSchema sketch members).oneOf = .absent := by
      simp only [Outline.ofSchema, Outline.facetAt, honeOf]
    unfold Outline.shape
    rw [hany, hone]
  unfold Outline.fixed at hlinks
  unfold Direct.writeFixed
  rw [hconst, hshape] at hlinks
  unfold Outline.facetAt at hlinks
  rw [hget]
  cases hfind : Table.find? "const" members with
  | none =>
      rw [hfind] at hlinks
      exact agree_kind hinside hlinks hroom v
  | some expected =>
      rw [hfind] at hlinks
      cases hlinks
      cases room with
      | zero => exact .tooDeep_left _
      | succ room => exact .refl _

/-- **What a schema says of a value.** -/
theorem agree_writeBy (hanyOf : Table.find? "anyOf" members = none)
    (honeOf : Table.find? "oneOf" members = none) {node : Node}
    (hlinks : Shape.Links R test ((Outline.ofSchema sketch members).guarded Outline.shape) node)
    {room : Nat} (hroom : room ≤ bound) (v : Json) :
    Agree (plan.write room node v) (Direct.writeBy plan.rounding direct (.object members) v) := by
  have hget : (Json.object members).get? "nullable" = Table.find? "nullable" members := rfl
  have hfacet : (Outline.ofSchema sketch members).nullable =
      Outline.facetAt Outline.trueAt "nullable" members := rfl
  unfold Direct.writeBy
  rw [Outline.guarded_eq] at hlinks
  split at hlinks
  · next hnullable =>
      rw [hfacet, Outline.facetAt_eq_given] at hnullable
      obtain ⟨w, hw, hread⟩ := hnullable
      obtain ⟨inner, rfl, hinner⟩ := hlinks
      have htrue : w = .bool true := by
        unfold Outline.trueAt at hread
        split at hread
        · rfl
        · cases hread
      rw [hget, hw, htrue]
      cases room with
      | zero => exact .tooDeep_left _
      | succ room =>
          have hfixed := agree_fixed hinside hanyOf honeOf hinner (Nat.le_of_lt hroom) v
          cases v with
          | null => exact .refl _
          | _ => exact hfixed
  · next hnullable =>
      have hfixed := agree_fixed hinside hanyOf honeOf hlinks hroom v
      have hnot : (Json.object members).get? "nullable" ≠ some (.bool true) := by
        intro htrue
        refine hnullable () ?_
        rw [hfacet, Outline.facetAt_eq_given]
        exact ⟨_, htrue, rfl⟩
      split
      · next htrue => exact absurd htrue hnot
      · exact hfixed

end

end ReplySchema.Serializer

import ReplySchema.Proofs.Serializer.WellFormed

/-! # The members of a written object

Which members of a value are written, in which order and by which shape, can be said before
any of them is written: it is a list (`Listing`).  The declared members that are there or have
a default come first, in the order of the schema, then the others that are admitted, in the
order of the value.  Writing the object is writing this list member by member, unless a
required name is missing (`writeObject_eq`).

What the list holds is said here in the terms of the outline, keyword by keyword: which names
are declared, which text of `patternProperties` is the first that can be read and matches, and
what `additionalProperties` says of the rest (`Outline.Governs`).

Main statement: `write_objectShape`.
-/

set_option autoImplicit false

namespace ReplySchema.Serializer

namespace Outline

/-! ## §1  What an outline says of a name -/

def declared (o : Outline) : List (Property Sketch) := o.properties.value?.getD []

/-- What happens to the members that are neither declared nor match a pattern. -/
def others (o : Outline) : Others Sketch := o.additionalProperties.value?.getD .dropped

/-- The first pattern that a name matches, of those that can be read. -/
def pattern? (o : Outline) (name : String) : Option (String × Sketch) :=
  (o.patternProperties.value?.getD []).find? fun e =>
    (Pattern.read? e.1).any fun pattern => pattern.isIn name

def admits (o : Outline) (name : String) : Bool :=
  (o.pattern? name).isSome ||
    match o.others with
    | .dropped => false
    | _ => true

/-- The first required name that is not there, and has no default. -/
def firstMissing? (o : Outline) (members : List (String × Json)) : Option String :=
  o.requiredNames.find? fun name =>
    !(Table.contains name members || o.declared.any fun p => p.name == name && p.default.isSome)

/-- Whether members of a name are written by a sketch, or by none and as they are: a declared one
by its own, another by that of the first pattern that it matches, and one without a pattern as
`additionalProperties` says. -/
inductive Governs (o : Outline) (name : String) : Option Sketch → Prop where
  | own {p : Property Sketch} (hp : p ∈ o.declared) (hname : p.name = name) :
      Governs o name (some p.shape)
  | pattern {e : String × Sketch} (hfresh : ∀ p ∈ o.declared, p.name ≠ name)
      (he : o.pattern? name = some e) : Governs o name (some e.2)
  | additional {s : Sketch} (hfresh : ∀ p ∈ o.declared, p.name ≠ name)
      (hnone : o.pattern? name = none) (hs : o.others = .shaped s) : Governs o name (some s)
  | plain (hfresh : ∀ p ∈ o.declared, p.name ≠ name) (hnone : o.pattern? name = none)
      (hplain : o.others = .plain) : Governs o name none

end Outline

namespace Plan

/-! ## §2  Writing as a list -/

/-- A member to be written, with its shape; without one it is written as it is. -/
structure Listing where
  name : String
  shape : Option Node
  value : Json

section

variable (write : Node → Json → Except SerializeError Written)

def writeListing (m : Listing) : Except SerializeError (String × Written) := do
  let written ← match m.shape with
    | some s => write s m.value
    | none => pure (.ofJson m.value)
  return (m.name, written)

def listDeclared (members : List (String × Json)) (properties : List (Property Node)) :
    List Listing :=
  properties.filterMap fun p =>
    (Table.find? p.name members <|> p.default).map fun v => ⟨p.name, some p.shape, v⟩

def listOthers (properties : List (Property Node)) (patterns : List (Pattern × Node))
    (others : Others Node) (members : List (String × Json)) : List Listing :=
  (members.filter fun m => !properties.any fun p => p.name == m.1).filterMap fun m =>
    (otherShape? patterns others m.1).map fun shape => ⟨m.1, shape, m.2⟩

theorem writeDeclared_eq_mapM (members : List (String × Json)) :
    ∀ properties : List (Property Node), writeDeclared write members properties =
      (listDeclared members properties).mapM (writeListing write)
  | [] => rfl
  | p :: rest => by
      have ih := writeDeclared_eq_mapM members rest
      rw [writeDeclared, listDeclared, List.filterMap_cons]
      cases (Table.find? p.name members <|> p.default) with
      | none => exact ih
      | some v =>
          dsimp only [Option.map_some]
          rw [List.mapM_cons, ← listDeclared, ← ih, writeListing, bind_assoc]
          rfl

theorem writeOthers_eq_mapM (properties : List (Property Node)) (patterns : List (Pattern × Node))
    (others : Others Node) (members : List (String × Json)) :
    writeOthers write properties patterns others members =
      (listOthers properties patterns others members).mapM (writeListing write) := by
  induction members with
  | nil => rfl
  | cons m rest ih =>
      obtain ⟨name, v⟩ := m
      rw [writeOthers, listOthers, List.filter_cons]
      cases properties.any fun p => p.name == name with
      | true => exact ih
      | false =>
          rw [if_neg Bool.false_ne_true, Bool.not_false, if_pos rfl, List.filterMap_cons]
          cases otherShape? patterns others name with
          | none => exact ih
          | some shape =>
              dsimp only [Option.map_some]
              rw [List.mapM_cons, ← listOthers, ← ih]
              cases shape with
              | none => rfl
              | some s =>
                  rw [writeListing, bind_assoc]
                  rfl

/-- **Writing an object is writing the list of its members**, if no required name is missing. -/
theorem writeObject_eq (properties : List (Property Node)) (required : List String)
    (patterns : List (Pattern × Node)) (others : Others Node) (v : Json) :
    writeObject write properties required patterns others v =
      match missing? properties required v.members with
      | some name => .error (.missing name)
      | none => Written.object <$> (listDeclared v.members properties ++
          listOthers properties patterns others v.members).mapM (writeListing write) := by
  rw [writeObject]
  cases missing? properties required v.members with
  | some name => rfl
  | none =>
      dsimp only
      rw [writeDeclared_eq_mapM, writeOthers_eq_mapM, List.mapM_append, map_eq_pure_bind]
      simp only [bind_assoc, pure_bind]

end

/-! ## §3  What the list holds -/

section

variable {properties : List (Property Node)} {patterns : List (Pattern × Node)}
variable {others : Others Node}

theorem names_listDeclared (members : List (String × Json)) :
    (listDeclared members properties).map (·.name) =
      (properties.filter fun p => Table.contains p.name members || p.default.isSome).map
        (·.name) := by
  induction properties with
  | nil => rfl
  | cons p rest ih =>
      have hthere : (Table.contains p.name members || p.default.isSome) =
          (Table.find? p.name members <|> p.default).isSome := by simp [Table.contains]
      rw [listDeclared, List.filterMap_cons, List.filter_cons, hthere]
      cases (Table.find? p.name members <|> p.default) with
      | none => exact ih
      | some v => exact congrArg (p.name :: ·) ih

theorem names_listOthers (members : List (String × Json)) :
    (listOthers properties patterns others members).map (·.name) =
      (Table.keys members).filter fun name => (!properties.any fun p => p.name == name) &&
        (otherShape? patterns others name).isSome := by
  induction members with
  | nil => rfl
  | cons m rest ih =>
      rw [listOthers, List.filter_cons, Table.keys, List.map_cons, List.filter_cons]
      cases properties.any fun p => p.name == m.1 with
      | true => exact ih
      | false =>
          rw [Bool.not_false, if_pos rfl, List.filterMap_cons, Bool.true_and]
          cases otherShape? patterns others m.1 with
          | none => exact ih
          | some shape => exact congrArg (m.1 :: ·) ih

theorem mem_listDeclared {members : List (String × Json)} {m : Listing} :
    m ∈ listDeclared members properties ↔ ∃ p ∈ properties, p.name = m.name ∧
      m.shape = some p.shape ∧ (Table.find? p.name members <|> p.default) = some m.value := by
  unfold listDeclared
  rw [List.mem_filterMap]
  constructor
  · rintro ⟨p, hp, hm⟩
    obtain ⟨v, hv, rfl⟩ := Option.map_eq_some_iff.mp hm
    exact ⟨p, hp, rfl, rfl, hv⟩
  · rintro ⟨p, hp, hname, hshape, hv⟩
    refine ⟨p, hp, Option.map_eq_some_iff.mpr ⟨m.value, hv, ?_⟩⟩
    rw [hname, ← hshape]

theorem mem_listOthers {members : List (String × Json)} {m : Listing} :
    m ∈ listOthers properties patterns others members ↔ (m.name, m.value) ∈ members ∧
      (∀ p ∈ properties, p.name ≠ m.name) ∧
      otherShape? patterns others m.name = some m.shape := by
  unfold listOthers
  rw [List.mem_filterMap]
  have hfresh : ∀ name, (!properties.any fun p => p.name == name) = true ↔
      ∀ p ∈ properties, p.name ≠ name := by
    intro name
    rw [Bool.not_eq_true', List.any_eq_false]
    simp only [beq_iff_eq, ne_eq]
  constructor
  · rintro ⟨e, he, hm⟩
    obtain ⟨shape, hshape, rfl⟩ := Option.map_eq_some_iff.mp hm
    obtain ⟨hmem, hnew⟩ := List.mem_filter.mp he
    exact ⟨hmem, (hfresh e.1).mp hnew, hshape⟩
  · rintro ⟨hmem, hnew, hshape⟩
    exact ⟨(m.name, m.value), List.mem_filter.mpr ⟨hmem, (hfresh m.name).mpr hnew⟩,
      Option.map_eq_some_iff.mpr ⟨m.shape, hshape, rfl⟩⟩

end

/-! ## §4  The main statement -/

section

variable {R : Except SchemaError String → Node → Prop} {test : Json → Option Validator}
variable {o : Outline} {properties : List (Property Node)} {patterns : List (Pattern × Node)}
variable {others : Others Node}

/-- A finished pattern is the first that a name matches if its text is in the outline. -/
theorem find?_of_links (hpatterns : Shape.LinksPatterns R test
      ((o.patternProperties.value?.getD []).filterMap fun p =>
        (Pattern.read? p.1).map fun pattern => (pattern, p.2)) patterns) (name : String) :
    Option.Rel (fun e p => Shape.Links R test e.2 p.2) (o.pattern? name)
      (patterns.find? fun p => p.1.isIn name) := by
  have hfirst := hpatterns.find? fun pattern => pattern.isIn name
  rw [List.find?_filterMap] at hfirst
  simp only [Option.any_map] at hfirst
  change Option.Rel _ ((o.pattern? name).bind _) _ at hfirst
  cases he : o.pattern? name with
  | none =>
      rw [he] at hfirst
      cases hfound : patterns.find? fun p => p.1.isIn name with
      | none => exact .none
      | some p =>
          rw [hfound] at hfirst
          cases hfirst
  | some e =>
      have hread := List.find?_some he
      obtain ⟨pattern, hpattern, -⟩ := (Option.any_eq_true _ _).mp hread
      rw [he, Option.bind_some, hpattern, Option.map_some] at hfirst
      cases hfound : patterns.find? fun p => p.1.isIn name with
      | none =>
          rw [hfound] at hfirst
          cases hfirst
      | some p =>
          rw [hfound] at hfirst
          cases hfirst with
          | some hlinks => exact .some hlinks

/-- Another member is admitted as the outline says, and written by what governs its name. -/
theorem otherShape?_of_links (hpatterns : Shape.LinksPatterns R test
      ((o.patternProperties.value?.getD []).filterMap fun p =>
        (Pattern.read? p.1).map fun pattern => (pattern, p.2)) patterns)
    (hothers : Shape.LinksOthers R test o.others others) (name : String) :
    (otherShape? patterns others name).isSome = o.admits name ∧
      ∀ shape, otherShape? patterns others name = some shape →
        (∀ p ∈ o.declared, p.name ≠ name) →
        ∃ sketch, o.Governs name sketch ∧ Option.Rel (Shape.Links R test) sketch shape := by
  have hfirst := find?_of_links hpatterns name
  unfold otherShape? Outline.admits
  -- The first pattern that the name matches governs; only without one `additionalProperties`
  -- counts.
  cases he : o.pattern? name with
  | some e =>
      rw [he] at hfirst
      cases hfound : patterns.find? fun p => p.1.isIn name with
      | none =>
          rw [hfound] at hfirst
          cases hfirst
      | some p =>
          rw [hfound] at hfirst
          cases hfirst with
          | some hlinks =>
              refine ⟨rfl, fun shape hshape hfresh => ⟨some e.2, .pattern hfresh he, ?_⟩⟩
              cases hshape
              exact .some hlinks
  | none =>
      rw [he] at hfirst
      cases hfound : patterns.find? fun p => p.1.isIn name with
      | some p =>
          rw [hfound] at hfirst
          cases hfirst
      | none =>
          cases hkind : o.others with
          | dropped =>
              rw [hkind] at hothers
              cases hothers
              exact ⟨rfl, fun _ hshape => by cases hshape⟩
          | plain =>
              rw [hkind] at hothers
              cases hothers
              refine ⟨rfl, fun shape hshape hfresh => ⟨none, .plain hfresh he hkind, ?_⟩⟩
              cases hshape
              exact .none
          | shaped s =>
              rw [hkind] at hothers
              obtain ⟨s', rfl, hlinks⟩ := hothers
              refine ⟨rfl, fun shape hshape hfresh => ⟨some s, .additional hfresh he hkind, ?_⟩⟩
              cases hshape
              exact .some hlinks

theorem any_of_links {properties : List (Property Sketch)} {properties' : List (Property Node)}
    (h : Shape.LinksProperties R test properties properties')
    (f : String × Option Json → Bool) :
    (properties'.any fun p => f (p.name, p.default)) =
      properties.any fun p => f (p.name, p.default) := by
  have hnames := congrArg (List.any · f) h.parts.1
  simpa only [List.any_map, Function.comp_def] using hnames

theorem filter_of_links {properties : List (Property Sketch)} {properties' : List (Property Node)}
    (h : Shape.LinksProperties R test properties properties')
    (f : String × Option Json → Bool) :
    ((properties'.filter fun p => f (p.name, p.default)).map (·.name)) =
      (properties.filter fun p => f (p.name, p.default)).map (·.name) := by
  have hnames := congrArg (fun ps => (List.filter f ps).map (·.1)) h.parts.1
  simpa only [List.filter_map, List.map_map, Function.comp_def] using hnames

theorem names_list_of_links (hproperties : Shape.LinksProperties R test o.declared properties)
    (hadmits : ∀ name, (otherShape? patterns others name).isSome = o.admits name)
    (members : List (String × Json)) :
    (listDeclared members properties ++ listOthers properties patterns others members).map
        (·.name) =
      (o.declared.filter fun p => Table.contains p.name members || p.default.isSome).map
        (·.name) ++
      (Table.keys members).filter fun name =>
        (!o.declared.any fun p => p.name == name) && o.admits name := by
  rw [List.map_append, names_listDeclared, names_listOthers]
  congr 1
  · exact filter_of_links hproperties fun e => Table.contains e.1 members || e.2.isSome
  · refine List.filter_congr fun name _ => ?_
    rw [hadmits name]
    exact congrArg (!· && o.admits name) (any_of_links hproperties fun e => e.1 == name)

theorem nodup_names (hnames : (o.declared.map (·.name)).Nodup) {members : List (String × Json)}
    (hmembers : (Table.keys members).Nodup) (f : Property Sketch → Bool) (g : String → Bool) :
    ((o.declared.filter f).map (·.name) ++ (Table.keys members).filter fun name =>
      (!o.declared.any fun p => p.name == name) && g name).Nodup := by
  refine List.nodup_append.mpr ⟨hnames.sublist (List.filter_sublist.map _),
    hmembers.sublist List.filter_sublist, ?_⟩
  rintro name hname other hother rfl
  obtain ⟨p, hp, rfl⟩ := List.mem_map.mp hname
  have hnew := (Bool.and_eq_true _ _ ▸ (List.mem_filter.mp hother).2).1
  have hdeclared : (o.declared.any fun q => q.name == p.name) = true :=
    List.any_eq_true.mpr ⟨p, (List.mem_filter.mp hp).1, beq_self_eq_true _⟩
  rw [hdeclared] at hnew
  cases hnew

theorem value_of_mem_list (hproperties : Shape.LinksProperties R test o.declared properties)
    {members : List (String × Json)} (hmembers : (Table.keys members).Nodup) {m : Listing}
    (hm : m ∈ listDeclared members properties ++ listOthers properties patterns others members) :
    Table.find? m.name members = some m.value ∨ Table.find? m.name members = none ∧
      ∃ p ∈ o.declared, p.name = m.name ∧ p.default = some m.value := by
  rcases List.mem_append.mp hm with hm | hm
  · obtain ⟨p', hp', hname', -, hvalue⟩ := mem_listDeclared.mp hm
    obtain ⟨p, hp, ⟨hname, hdefault⟩, -⟩ := hproperties.parts.2 p' hp'
    rw [hname'] at hvalue
    cases hfind : Table.find? m.name members with
    | some w =>
        rw [hfind] at hvalue
        exact Or.inl hvalue
    | none =>
        rw [hfind] at hvalue
        exact Or.inr ⟨rfl, p, hp, hname.trans hname', hdefault.trans hvalue⟩
  · obtain ⟨hmem, -, -⟩ := mem_listOthers.mp hm
    exact Or.inl ((Table.find?_eq_some_iff hmembers).mpr hmem)

theorem governs_of_mem_list (hproperties : Shape.LinksProperties R test o.declared properties)
    (hgoverns : ∀ name shape, otherShape? patterns others name = some shape →
      (∀ p ∈ o.declared, p.name ≠ name) →
      ∃ sketch, o.Governs name sketch ∧ Option.Rel (Shape.Links R test) sketch shape)
    {members : List (String × Json)} {m : Listing}
    (hm : m ∈ listDeclared members properties ++ listOthers properties patterns others members) :
    ∃ sketch, o.Governs m.name sketch ∧ Option.Rel (Shape.Links R test) sketch m.shape := by
  rcases List.mem_append.mp hm with hm | hm
  · obtain ⟨p', hp', hname', hshape, -⟩ := mem_listDeclared.mp hm
    obtain ⟨p, hp, ⟨hname, -⟩, hlinks⟩ := hproperties.parts.2 p' hp'
    exact ⟨some p.shape, .own hp (hname.trans hname'), hshape ▸ .some hlinks⟩
  · obtain ⟨-, hnew, hshape⟩ := mem_listOthers.mp hm
    refine hgoverns m.name m.shape hshape fun p hp hname => ?_
    have hany := (any_of_links hproperties fun e => e.1 == m.name).trans
      (List.any_eq_true.mpr ⟨p, hp, by rw [hname, beq_self_eq_true]⟩)
    obtain ⟨p', hp', heq⟩ := List.any_eq_true.mp hany
    exact hnew p' hp' (beq_iff_eq.mp heq)

theorem missing?_of_links (hproperties : Shape.LinksProperties R test o.declared properties)
    (members : List (String × Json)) :
    missing? properties o.requiredNames members = o.firstMissing? members := by
  refine List.find?_congr fun name _ => ?_
  exact congrArg (fun b => !(Table.contains name members || b))
    (any_of_links hproperties fun e => e.1 == name && e.2.isSome)

end

/-- **The members of a written object.**  They are, each once, the declared ones that are there or
have a default, in the order of the schema, and then the others that are admitted, in the order
of the value.  Each has its value from the written value, or from the default if it is not
there, and is written by what governs its name.  The object fails if a required name is missing,
with the first such name, and else only where one of its members fails. -/
theorem write_objectShape {R : Except SchemaError String → Node → Prop}
    {test : Json → Option Validator} {o : Outline} {node : Node}
    (hnames : (o.declared.map (·.name)).Nodup)
    (hnode : Shape.Links R test o.objectShape node) (plan : Plan) (room : Nat) {v : Json}
    (hv : (Table.keys v.members).Nodup) : ∃ list : List Listing,
      list.map (·.name) =
        (o.declared.filter fun p => Table.contains p.name v.members || p.default.isSome).map
          (·.name) ++
        (Table.keys v.members).filter fun name =>
          (!o.declared.any fun p => p.name == name) && o.admits name ∧
      (list.map (·.name)).Nodup ∧
      (∀ m ∈ list, Table.find? m.name v.members = some m.value ∨
        Table.find? m.name v.members = none ∧
          ∃ p ∈ o.declared, p.name = m.name ∧ p.default = some m.value) ∧
      (∀ m ∈ list, ∃ sketch, o.Governs m.name sketch ∧
        Option.Rel (Shape.Links R test) sketch m.shape) ∧
      plan.write (room + 1) node v =
        match o.firstMissing? v.members with
        | some name => .error (.missing name)
        | none => Written.object <$> list.mapM (writeListing (plan.write room)) := by
  obtain ⟨properties, patterns, others, rfl, hproperties, hpatterns, hothers⟩ := hnode
  have hother := otherShape?_of_links hpatterns hothers
  have hlist := names_list_of_links hproperties (fun name => (hother name).1) v.members
  refine ⟨_, hlist, ?_, fun m hm => value_of_mem_list hproperties hv hm,
    fun m hm => governs_of_mem_list hproperties (fun name => (hother name).2) hm, ?_⟩
  · rw [hlist]
    exact nodup_names hnames hv _ _
  · rw [write, writeObject_eq, missing?_of_links hproperties]

/-- A record with a number and a kind, and whatever else it has. -/
def shelfOutline : Outline where
  properties := .given [⟨"id", none, .integer⟩, ⟨"kind", some (.string "book"), .string⟩]
  required := .given [.string "id", .string "kind"]
  additionalProperties := .given .plain

def shelfPlan : Plan where
  root := .object [⟨"id", none, .integer⟩, ⟨"kind", some (.string "book"), .string⟩]
    ["id", "kind"] [] .plain
  targets := []
  rounding := .trunc

def shelfValue : Json := .object [("note", .null), ("id", .bool true)]

theorem write_objectShape_shelf : ∃ list : List Listing,
    list.map (·.name) = ["id", "kind", "note"] ∧
      shelfPlan.write 2 shelfPlan.root shelfValue =
        Written.object <$> list.mapM (writeListing (shelfPlan.write 1)) := by
  have hlinks : Shape.Links (fun _ _ => False) (fun _ => none) shelfOutline.objectShape
      shelfPlan.root :=
    ⟨_, _, _, rfl, ⟨_, _, rfl, rfl, _, _, rfl, rfl, rfl⟩, rfl, rfl⟩
  obtain ⟨list, hnames, -, -, -, hwrite⟩ :=
    write_objectShape (o := shelfOutline) (by decide) hlinks shelfPlan 1 (v := shelfValue) (by decide)
  exact ⟨list, hnames, hwrite⟩

end Plan

end ReplySchema.Serializer

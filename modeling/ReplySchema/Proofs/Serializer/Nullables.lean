import ReplySchema.Proofs.Number.Text
import ReplySchema.Proofs.Serializer.Agreement
import ReplySchema.Proofs.Serializer.Alone
import ReplySchema.Proofs.Serializer.Depth
import ReplySchema.Proofs.Serializer.Output

/-! # Null beside a type

A schema that names one type can admit null beside it in three ways: by the keyword `nullable`,
by a list of the type and null, or by such a list with null in front.  All three put something
around the shape of the type, and the rest of the plan is the same (`build_schema`).

The keyword looks at the value only to see whether it is null.  A list chooses by the outermost
form of the value, and if no type of the list has the value it is written by the first.  So the
list that begins with the type writes what the keyword writes, and the list that begins with null
does so only where the type has the value; any other value is written as null, also one that the
type would take in (`nulls_agree`).
-/

set_option autoImplicit false

namespace ReplySchema.Serializer

open Schema (Source StandsAlone reference?)
open Validation (TypeName)

/-! ## §1  Schemas and shapes -/

/-- How a schema admits null beside its type: by a keyword, or by a list in which null comes last or
first. -/
inductive Nulls where
  | keyword
  | last
  | first

namespace Nulls

def members (given : List (String × Json)) (t : TypeName) : Nulls → List (String × Json)
  | keyword => Table.insert "nullable" (.bool true) given
  | last => Table.insert "type" (.array [.string t.text, .string "null"]) given
  | first => Table.insert "type" (.array [.string "null", .string t.text]) given

def schema (given : List (String × Json)) (t : TypeName) (nulls : Nulls) : Json :=
  .object (nulls.members given t)

section

variable {ρ τ : Type}

def guard (nullable : Bool) (shape : Shape ρ τ) : Shape ρ τ :=
  if nullable then .nullable shape else shape

/-- What is put around the shape of the type; `nullable` says whether null is admitted by a keyword
of the schema already. -/
def around (nullable : Bool) (shape : Shape ρ τ) : Nulls → Shape ρ τ
  | keyword => .nullable shape
  | last => guard nullable (.union [⟨none, shape⟩, ⟨none, .null⟩])
  | first => guard nullable (.union [⟨none, .null⟩, ⟨none, shape⟩])

end

end Nulls

/-- Whether a schema says by a keyword that null is admitted. -/
def isNullable (members : List (String × Json)) : Bool :=
  match Table.find? "nullable" members with
  | some (.bool true) => true
  | _ => false

/-- Whether a schema names one type, by itself or in a list, and not null, and has no keyword that
would count for more. -/
structure NamesOneType (members : List (String × Json)) (t : TypeName) : Prop where
  type : Table.find? "type" members = some (.string t.text) ∨
    Table.find? "type" members = some (.array [.string t.text])
  notNull : t ≠ .null
  alone : ∀ key ∈ ["$ref", "const", "allOf", "anyOf", "oneOf"], Table.find? key members = none

/-! ## §2  Sketches -/

namespace Outline

theorem facetAt_insert {α : Type} (read : Json → Option α) (keyword key : String) (value : Json)
    (members : List (String × Json)) : facetAt read keyword (Table.insert key value members) =
      if key = keyword then .ofOption (read value) else facetAt read keyword members := by
  unfold facetAt
  rw [Table.find?_insert]
  by_cases hkey : key = keyword
  · rw [if_pos hkey, if_pos hkey]
  · rw [if_neg hkey, if_neg hkey]

theorem ofSchema_insert_nullable (sketch : Json → Sketch) (value : Json)
    (members : List (String × Json)) :
    ofSchema sketch (Table.insert "nullable" value members) =
      { ofSchema sketch members with nullable := .ofOption (trueAt value) } := by
  simp [ofSchema, facetAt_insert]

theorem ofSchema_insert_type (sketch : Json → Sketch) (value : Json)
    (members : List (String × Json)) :
    ofSchema sketch (Table.insert "type" value members) =
      { ofSchema sketch members with type := .ofOption (kindsOf value) } := by
  simp [ofSchema, facetAt_insert]

end Outline

variable {given : List (String × Json)} {t : TypeName} {set : Schema.Set} {base : Source}

theorem NamesOneType.find?_eq_none (h : NamesOneType given t) (nulls : Nulls) {key : String}
    (hkey : key ∈ ["$ref", "const", "allOf", "anyOf", "oneOf"]) :
    Table.find? key (nulls.members given t) = none := by
  have hnone : Table.find? key given = none := h.alone key hkey
  have hother : key ≠ "nullable" ∧ key ≠ "type" := by
    constructor <;> rintro rfl <;> revert hkey <;> decide
  cases nulls with
  | keyword => rw [Nulls.members, Table.find?_insert_ne hother.1.symm, hnone]
  | last => rw [Nulls.members, Table.find?_insert_ne hother.2.symm, hnone]
  | first => rw [Nulls.members, Table.find?_insert_ne hother.2.symm, hnone]

/-- An outline without a fixed value and without alternatives says its type, and perhaps null. -/
theorem Outline.guarded_shape {o : Outline} (hconst : o.const = .absent)
    (hanyOf : o.anyOf = .absent) (honeOf : o.oneOf = .absent) :
    o.guarded shape = Nulls.guard o.nullable.value?.isSome o.kindShape := by
  have hshape : o.shape = o.kindShape := by
    unfold shape
    rw [hanyOf, honeOf]
  have hfixed : ∀ o' : Outline, o'.const = .absent → o'.fixed shape = o'.shape := by
    intro o' h
    unfold fixed
    rw [h]
  rw [guarded_eq]
  cases o.nullable with
  | given _ =>
      have hbare := hfixed { o with nullable := .absent } hconst
      exact congrArg Shape.nullable (hbare.trans hshape)
  | _ =>
      rw [hfixed o hconst]
      exact hshape

theorem isSome_nullable (sketch : Json → Sketch) (members : List (String × Json)) :
    (Outline.ofSchema sketch members).nullable.value?.isSome = isNullable members := by
  have hvalue : (Outline.ofSchema sketch members).nullable.value? =
      (Table.find? "nullable" members).bind Outline.trueAt := Outline.value?_facetAt _ _
  rw [hvalue]
  unfold isNullable
  cases Table.find? "nullable" members with
  | none => rfl
  | some v =>
      cases v with
      | bool b => cases b <;> rfl
      | _ => rfl

def typeSketch (set : Schema.Set) (base : Source) (given : List (String × Json)) (t : TypeName) :
    Sketch :=
  (Outline.ofSchema (Sketch.ofSchema set base) given).typedShape t.text

theorem NamesOneType.kindShape_ofSchema (h : NamesOneType given t) (sketch : Json → Sketch) :
    (Outline.ofSchema sketch given).kindShape =
      (Outline.ofSchema sketch given).typedShape t.text := by
  have htype : (Outline.ofSchema sketch given).type =
      Outline.facetAt Outline.kindsOf "type" given := rfl
  unfold Outline.kindShape
  rw [htype]
  unfold Outline.facetAt
  rcases h.type with h | h <;> rw [h] <;> rfl

/-- **All three schemas put something around the sketch of the type.** -/
theorem ofSchema_nulls (h : NamesOneType given t) (hdistinct : (Table.keys given).Nodup)
    (nulls : Nulls) : Sketch.ofSchema set base (nulls.schema given t) =
      nulls.around (isNullable given) (typeSketch set base given t) := by
  have hnodup : (Table.keys (nulls.members given t)).Nodup := by
    cases nulls <;> exact Table.nodup_keys_insert _ _ hdistinct
  have hreference : reference? (nulls.schema given t) = none :=
    congrArg (fun found => found.bind Json.asString?) (h.find?_eq_none nulls (by simp))
  have hguarded : Sketch.ofSchema set base (nulls.schema given t) =
      (Outline.ofSchema (Sketch.ofSchema set base) (nulls.members given t)).guarded
        Outline.shape := by
    unfold Sketch.ofSchema Nulls.schema at *
    rw [Sketch.sketch, hreference]
    dsimp only
    rw [Sketch.withParts_eq, h.find?_eq_none nulls (by simp), Outline.ofMembers_inners _ hnodup]
    rfl
  have habsent : ∀ {α : Type} (read : Json → Option α) {key : String},
      key ∈ ["$ref", "const", "allOf", "anyOf", "oneOf"] →
      Outline.facetAt read key (nulls.members given t) = .absent := fun _ _ hkey =>
    Outline.facetAt_eq_absent (h.find?_eq_none nulls hkey)
  rw [hguarded, Outline.guarded_shape (habsent _ (by simp)) (habsent _ (by simp))
    (habsent _ (by simp))]
  cases nulls with
  | keyword =>
      unfold Nulls.members Nulls.around
      rw [Outline.ofSchema_insert_nullable]
      exact congrArg Shape.nullable (h.kindShape_ofSchema _)
  | last =>
      unfold Nulls.members Nulls.around
      rw [Outline.ofSchema_insert_type]
      exact congrArg₂ Nulls.guard (isSome_nullable (Sketch.ofSchema set base) given) rfl
  | first =>
      unfold Nulls.members Nulls.around
      rw [Outline.ofSchema_insert_type]
      exact congrArg₂ Nulls.guard (isSome_nullable (Sketch.ofSchema set base) given) rfl

/-! ## §3  Plans -/

namespace Shape

variable {σ ε ρ τ ρ' τ' : Type} (onReference : ρ → StateT σ (Except ε) (Shape ρ' τ'))
variable (onTest : τ → StateT σ (Except ε) (Option τ'))

theorem link_around (nulls : Nulls) (nullable : Bool) (shape : Shape ρ τ) :
    (nulls.around nullable shape).link onReference onTest =
      nulls.around nullable <$> shape.link onReference onTest := by
  cases nulls <;> cases nullable <;>
    simp [Nulls.around, Nulls.guard, link, linkBranches]

end Shape

/-- The type of a schema, finished: its shape and the targets that it leads to. -/
def typePlan (set : Schema.Set) (base : Source) (given : List (String × Json)) (t : TypeName) :
    Except SchemaError (Node × Table Schema.Key (Option Node)) :=
  (Plan.linkBelow set (set.targetBound base) base (typeSketch set base given t)).run []

def Nulls.plan (nullable : Bool) (made : Node × Table Schema.Key (Option Node))
    (rounding : Rounding) (nulls : Nulls) : Plan :=
  ⟨nulls.around nullable made.1, made.2, rounding⟩

/-- **The three plans have the shape of the type in common, and all targets.** -/
theorem build_schema (h : NamesOneType given t) (hdistinct : (Table.keys given).Nodup)
    (nulls : Nulls) (rounding : Rounding) :
    Plan.build set base (nulls.schema given t) rounding =
      (typePlan set base given t).map fun made =>
        nulls.plan (isNullable given) made rounding := by
  unfold Plan.build typePlan
  dsimp only
  rw [ofSchema_nulls h hdistinct, Plan.linkBelow_eq_link, Plan.linkBelow_eq_link,
    Shape.link_around, StateT.run_map]
  generalize StateT.run (Shape.link (Plan.onReference set (set.targetBound base) base)
    (fun schema => pure (Plan.testOf set base schema)) (typeSketch set base given t)) [] = made
  cases made with
  | error fault => rfl
  | ok made => rfl

/-! ## §4  The shape of a type -/

theorem links_of_typePlan {node : Node} {targets : Table Schema.Key (Option Node)}
    (h : typePlan set base given t = .ok (node, targets)) :
    Shape.Links (fun _ _ => True) (Plan.testOf set base) (typeSketch set base given t) node := by
  let anyhow : Growth (Table Schema.Key (Option Node)) :=
    ⟨fun _ => True, fun _ _ => True, fun _ => trivial, fun _ _ => trivial⟩
  have hensures : anyhow.Ensures
      (Plan.linkBelow set (set.targetBound base) base (typeSketch set base given t))
      fun _ => Shape.Links (fun _ _ => True) (Plan.testOf set base)
        (typeSketch set base given t) := by
    rw [Plan.linkBelow_eq_link]
    refine Shape.ensures_link (R := fun _ _ _ => True) (fun _ _ _ _ _ => id) _ ?_
    exact Shape.Every.of_forall (fun _ _ _ _ _ _ _ _ => ⟨trivial, trivial, trivial⟩) _
  exact (hensures [] node targets trivial h).2.2

theorem admits_text (t : TypeName) : Direct.admits t.text = t.admits := by
  have hread : TypeName.read? t.text = some t := by
    cases t <;> decide
  funext v
  unfold Direct.admits
  rw [hread]

theorem NamesOneType.admits_null (h : NamesOneType given t) : t.admits .null = false := by
  cases t with
  | null => exact absurd rfl h.notNull
  | _ => rfl

/-! ## §5  Writing -/

/-- Whether a run comes to what another comes to.  One that has a shape more to enter may go too
deep instead. -/
def ComesTo {α : Type} (more : Bool) (x y : Except SerializeError α) : Prop :=
  x = y ∨ more = true ∧ x = .error .tooDeep

theorem ComesTo.map {α β : Type} {more : Bool} {x y : Except SerializeError α}
    (h : ComesTo more x y) (f : α → β) : ComesTo more (x.map f) (y.map f) := by
  rcases h with rfl | ⟨hmore, rfl⟩
  · exact Or.inl rfl
  · exact Or.inr ⟨hmore, rfl⟩

namespace Plan

variable {plan : Plan} {node : Node}

theorem serialize_eq_map (plan : Plan) (v : Json) :
    plan.serialize v = (plan.written v).map Written.text := by
  rw [serialize_eq]
  cases plan.written v <;> rfl

theorem comesTo_guard {inner : Node} {v : Json} {room : Nat}
    (hnull : v.isNull = true → plan.write (room + 1) inner v = pure .null) (nullable : Bool) :
    ComesTo nullable (plan.write (room + 1) (Nulls.guard nullable inner) v)
      (plan.write (room + 1) inner v) := by
  cases nullable with
  | false => exact Or.inl rfl
  | true =>
      show ComesTo true (if v.isNull then pure .null else plan.write room inner v) _
      split
      · next h => exact Or.inl (hnull h).symm
      · exact (write_succ plan room inner v).elim (fun h => Or.inr ⟨rfl, h⟩) Or.inl

section

variable (hlooks : ∀ v, plan.looksLike lookDepth node v = t.admits v)
variable (hnull : t.admits .null = false)
include hlooks

theorem choose?_first (v : Json) : plan.choose? [⟨none, .null⟩, ⟨none, node⟩] v =
    some (if !v.isNull && t.admits v then node else .null) := by
  have htype : plan.accepts ⟨none, node⟩ v = t.admits v := hlooks v
  have hother : plan.accepts ⟨none, .null⟩ v = v.isNull := rfl
  unfold choose?
  rw [List.find?_cons, List.find?_cons, htype, hother]
  cases v.isNull <;> cases t.admits v <;> rfl

include hnull

/-- With the type in front, null is chosen only for null. -/
theorem choose?_last (v : Json) : plan.choose? [⟨none, node⟩, ⟨none, .null⟩] v =
    some (if v.isNull then .null else node) := by
  have htype : plan.accepts ⟨none, node⟩ v = t.admits v := hlooks v
  have hother : plan.accepts ⟨none, .null⟩ v = v.isNull := rfl
  unfold choose?
  rw [List.find?_cons, List.find?_cons, htype, hother]
  cases v with
  | null =>
      rw [hnull]
      rfl
  | _ => cases t.admits _ <;> rfl

theorem write_last (room : Nat) (v : Json) :
    plan.write (room + 2) (.union [⟨none, node⟩, ⟨none, .null⟩]) v =
      plan.write (room + 2) (.nullable node) v := by
  rw [write, write, choose?_last hlooks hnull]
  cases v.isNull with
  | true => rfl
  | false => rfl

omit hnull

theorem write_first (room : Nat) (v : Json) :
    plan.write (room + 2) (.union [⟨none, .null⟩, ⟨none, node⟩]) v =
      if v.isNull || t.admits v then plan.write (room + 2) (.nullable node) v
      else pure .null := by
  rw [write, write, choose?_first hlooks]
  cases v.isNull <;> cases t.admits v <;> rfl

theorem write_first_eq_null {v : Json} (hvalue : v.isNull = false)
    (hother : t.admits v = false) (room : Nat) (nullable : Bool) :
    plan.write (room + 3) (Nulls.guard nullable (.union [⟨none, .null⟩, ⟨none, node⟩])) v =
      pure .null := by
  cases nullable with
  | false =>
      show plan.write (room + 1 + 2) (.union [⟨none, .null⟩, ⟨none, node⟩]) v = _
      rw [write_first hlooks, hvalue, hother]
      rfl
  | true =>
      show (if v.isNull then pure .null
        else plan.write (room + 2) (.union [⟨none, .null⟩, ⟨none, node⟩]) v) = _
      rw [write_first hlooks, hvalue, hother]
      rfl

end

end Plan

/-! ## §6  What is written as null -/

theorem head?_ne_of_isNumber {cs : List Char} (h : Grammar.IsNumber cs) : cs.head? ≠ some 'n' := by
  obtain ⟨sign, hsign, whole, fraction, exponent, hwhole, -, -, rfl⟩ := h
  rcases List.mem_cons.mp hsign with rfl | hsign
  · rcases hwhole with rfl | ⟨⟨hne, hdigits⟩, -⟩
    · simp
    · cases whole with
      | nil => exact absurd rfl hne
      | cons c rest =>
          intro hhead
          have hc : c = 'n' := by simpa using hhead
          have hdigit : c.isDigit = true := hdigits c List.mem_cons_self
          rw [hc] at hdigit
          exact absurd hdigit (by decide)
  · rw [List.mem_singleton.mp hsign]
    simp

theorem text_ne_null_of_head? {w : Written} (h : w.chars.head? ≠ some 'n') : w.text ≠ "null" := by
  intro htext
  have hchars : w.chars = ['n', 'u', 'l', 'l'] := by
    have htoList := congrArg String.toList htext
    simpa [Written.text] using htoList
  rw [hchars] at h
  exact h rfl

/-- **A type other than null writes nothing as null.** -/
theorem text_ne_null {plan : Plan} {node : Node} (h : NamesOneType given t)
    {R : Except SchemaError String → Node → Prop} {test : Json → Option Validator}
    (hlinks : Shape.Links R test (typeSketch set base given t) node) {room : Nat} {v : Json}
    (hv : v.IsSound) {w : Written} (hwrite : plan.write room node v = .ok w) :
    w.text ≠ "null" := by
  -- The first character decides: a digit, a sign, a quote, a bracket, or `t` or `f`.
  refine text_ne_null_of_head? ?_
  cases room with
  | zero => cases hwrite
  | succ room =>
      cases t with
      | null => exact absurd rfl h.notNull
      | boolean =>
          have hnode : node = .boolean := hlinks
          subst hnode
          cases hwrite
          cases Coercion.truthy v <;> decide
      | integer =>
          have hnode : node = .integer := hlinks
          subst hnode
          rw [Plan.write] at hwrite
          split at hwrite
          · next digits hdigits =>
              cases hwrite
              exact head?_ne_of_isNumber (Coercion.isNumber_integerChars? hv hdigits)
          · cases hwrite
      | number =>
          have hnode : node = .number := hlinks
          subst hnode
          rw [Plan.write] at hwrite
          split at hwrite
          · next digits hdigits =>
              cases hwrite
              exact head?_ne_of_isNumber (Coercion.isNumber_numberChars? hdigits)
          · cases hwrite
      | string =>
          have hnode : node = .string := hlinks
          subst hnode
          cases hwrite
          simp [Written.chars, Written.quoteChars]
      | object =>
          obtain ⟨properties, patterns, others, rfl, -⟩ := hlinks
          rw [Plan.write, Plan.writeObject] at hwrite
          split at hwrite
          · cases hwrite
          · obtain ⟨declared, -, hwrite⟩ := Result.bind_eq_ok.mp hwrite
            obtain ⟨more, -, hwrite⟩ := Result.bind_eq_ok.mp hwrite
            cases hwrite
            cases declared ++ more <;> simp [Written.chars]
      | array =>
          have hshape : Shape.Links R test
            (Outline.ofSchema (Sketch.ofSchema set base) given).arrayShape node := hlinks
          rw [Outline.arrayShape_ofSchema] at hshape
          obtain ⟨front, rest, rfl, -⟩ := hshape
          cases v with
          | array values =>
              obtain ⟨items, -, hwrite⟩ := Result.bind_eq_ok.mp hwrite
              cases hwrite
              cases items <;> simp [Written.chars]
          | _ => cases hwrite

/-! ## §7  The three encodings -/

/-- Whether it is of no account in which document a schema stands: all stand in one, or there is
nothing to look up. -/
def SameDocument (documentOf : Json → Source) (v : Json) : Prop :=
  (∀ schema schema', documentOf schema = documentOf schema') ∨ StandsAlone v

theorem build_nulls (set : Schema.Set) (h : NamesOneType given t)
    (hsound : (Json.object given).IsSound) {documentOf : Json → Source}
    (hdocument : SameDocument documentOf (.object given)) (rounding : Rounding) (nulls : Nulls) :
    Plan.build set (documentOf (nulls.schema given t)) (nulls.schema given t) rounding =
      (typePlan set (documentOf .null) given t).map fun made =>
        nulls.plan (isNullable given) made rounding := by
  have hbuild : Plan.build set (documentOf .null) (nulls.schema given t) rounding = _ :=
    build_schema h hsound.nodup nulls rounding
  rcases hdocument with hsame | halone
  · rw [hsame _ .null]
    exact hbuild
  · have hschema : StandsAlone (nulls.schema given t) := by
      cases nulls <;> exact standsAlone_insert halone (by decide) (by decide) _
    have hschemaSound : (nulls.schema given t).IsSound := by
      have hnames : ∀ names : List String, (Json.array (names.map Json.string)).IsSound := by
        intro names
        refine .array fun x hx => ?_
        obtain ⟨text, -, rfl⟩ := List.mem_map.mp hx
        exact .string text
      cases nulls with
      | keyword => exact isSound_insert hsound _ (.bool true)
      | last => exact isSound_insert hsound _ (hnames [t.text, "null"])
      | first => exact isSound_insert hsound _ (hnames ["null", t.text])
    obtain ⟨plan, hthere, hhere⟩ := Plan.exists_plan_of_standsAlone set set
      (documentOf (nulls.schema given t)) (documentOf .null) hschema hschemaSound rounding
    rw [hthere, ← hhere]
    exact hbuild

section

variable {nullable : Bool} {made : Node × Table Schema.Key (Option Node)} {rounding : Rounding}

/-- The plans have their targets in common, so any of them can write for the others. -/
theorem written_plan (nulls : Nulls) (v : Json) : (nulls.plan nullable made rounding).written v =
    (Nulls.keyword.plan nullable made rounding).write (SerializeError.greatestDepth + 1)
      (nulls.around nullable made.1) v := by
  unfold Plan.written
  rw [Plan.write_congr (p := nulls.plan nullable made rounding)
    (q := Nulls.keyword.plan nullable made rounding) rfl rfl]
  rfl

/-- A list that writes a value as the keyword does goes on doing so under a guard. -/
theorem comesTo_guarded {nulls : Nulls} {inner : Node} {v : Json}
    (haround : nulls.around nullable made.1 = Nulls.guard nullable inner)
    (hinner : (Nulls.keyword.plan nullable made rounding).write
        (SerializeError.greatestDepth + 1) inner v =
      (Nulls.keyword.plan nullable made rounding).write
        (SerializeError.greatestDepth + 1) (.nullable made.1) v) :
    ComesTo nullable ((nulls.plan nullable made rounding).serialize v)
      ((Nulls.keyword.plan nullable made rounding).serialize v) := by
  rw [Plan.serialize_eq_map, Plan.serialize_eq_map]
  refine ComesTo.map ?_ Written.text
  rw [written_plan nulls, written_plan .keyword, haround]
  have hguard := Plan.comesTo_guard (fun hv => hinner.trans (by rw [Plan.write, if_pos hv]))
    nullable
  rwa [hinner] at hguard

section

variable (hlooks : ∀ v,
  (Nulls.keyword.plan nullable made rounding).looksLike Plan.lookDepth made.1 v = t.admits v)
include hlooks

theorem comesTo_last (hnull : t.admits .null = false) (v : Json) :
    ComesTo nullable ((Nulls.last.plan nullable made rounding).serialize v)
      ((Nulls.keyword.plan nullable made rounding).serialize v) :=
  comesTo_guarded rfl (Plan.write_last hlooks hnull 255 v)

theorem comesTo_first {v : Json} (hv : (v.isNull || t.admits v) = true) :
    ComesTo nullable ((Nulls.first.plan nullable made rounding).serialize v)
      ((Nulls.keyword.plan nullable made rounding).serialize v) :=
  comesTo_guarded rfl ((Plan.write_first hlooks 255 v).trans (if_pos hv))

theorem serialize_first_eq_null {v : Json} (hv : (v.isNull || t.admits v) = false) :
    (Nulls.first.plan nullable made rounding).serialize v = .ok "null" := by
  rw [Bool.or_eq_false_iff] at hv
  have hwritten : (Nulls.first.plan nullable made rounding).written v = .ok .null := by
    rw [written_plan]
    exact Plan.write_first_eq_null hlooks hv.1 hv.2 254 nullable
  rw [Plan.serialize_eq_map, hwritten]
  rfl

end

theorem serialize_keyword_eq_null_iff (h : NamesOneType given t)
    {R : Except SchemaError String → Node → Prop} {test : Json → Option Validator}
    (hlinks : Shape.Links R test (typeSketch set base given t) made.1) {v : Json}
    (hv : v.IsSound) :
    (Nulls.keyword.plan nullable made rounding).serialize v = .ok "null" ↔ v.isNull = true := by
  have hwritten : (Nulls.keyword.plan nullable made rounding).written v =
      if v.isNull then pure .null
      else (Nulls.keyword.plan nullable made rounding).write 256 made.1 v := written_plan .keyword v
  rw [Plan.serialize_eq_map, hwritten]
  cases v.isNull with
  | true => exact ⟨fun _ => rfl, fun _ => rfl⟩
  | false =>
      constructor
      · intro hnothing
        obtain ⟨w, hwrite, htext⟩ := Result.map_eq_ok.mp hnothing
        exact absurd htext (text_ne_null h hlinks hv hwrite)
      · exact nofun

end

/-- **Null beside a type.**  Of a schema that names one type the three plans come to be, or fail
with one error, together.  The list that begins with the type writes every value as the keyword
does.  The list that begins with null does so for null and for what the type has, and for no other
value: that is written as null, which the keyword keeps for null. -/
theorem nulls_agree (h : NamesOneType given t) (hsound : (Json.object given).IsSound)
    (set : Schema.Set) {documentOf : Json → Source}
    (hdocument : SameDocument documentOf (.object given)) (rounding : Rounding) :
    (∃ fault, ∀ nulls : Nulls, Plan.build set (documentOf (nulls.schema given t))
      (nulls.schema given t) rounding = .error fault) ∨
    ∃ plan : Nulls → Plan,
      (∀ nulls : Nulls, Plan.build set (documentOf (nulls.schema given t)) (nulls.schema given t)
        rounding = .ok (plan nulls)) ∧
      (∀ v, ComesTo (isNullable given) ((plan .last).serialize v)
        ((plan .keyword).serialize v)) ∧
      (∀ v, v.IsSound → (ComesTo (isNullable given) ((plan .first).serialize v)
        ((plan .keyword).serialize v) ↔ (v.isNull || t.admits v) = true)) ∧
      (∀ v, (v.isNull || t.admits v) = false → (plan .first).serialize v = .ok "null") ∧
      ∀ v, v.IsSound → ((plan .keyword).serialize v = .ok "null" ↔ v.isNull = true) := by
  have hbuild := build_nulls set h hsound hdocument rounding
  cases hmade : typePlan set (documentOf .null) given t with
  | error fault =>
      left
      refine ⟨fault, fun nulls => ?_⟩
      rw [hbuild, hmade]
      rfl
  | ok made =>
      right
      have hlinks := links_of_typePlan hmade
      have hlooks : ∀ v, (Nulls.keyword.plan (isNullable given) made rounding).looksLike
          Plan.lookDepth made.1 v = t.admits v := by
        intro v
        rw [← admits_text]
        exact looksLike_typed hlinks 16 v
      refine ⟨fun nulls => nulls.plan (isNullable given) made rounding, fun nulls => ?_,
        comesTo_last hlooks h.admits_null, fun v hv => ⟨fun hcomes => ?_, comesTo_first hlooks⟩,
        fun v => serialize_first_eq_null hlooks, fun v => serialize_keyword_eq_null_iff h hlinks⟩
      · rw [hbuild, hmade]
        rfl
      -- with null in front whatever matches no alternative becomes null, which the keyword never
      -- does
      · by_contra hother
        rw [Bool.not_eq_true] at hother
        have hfirst := serialize_first_eq_null hlooks hother
        rcases hcomes with hsame | ⟨-, hdeep⟩
        · rw [hfirst] at hsame
          have hnull := (serialize_keyword_eq_null_iff h hlinks hv).mp hsame.symm
          rw [hnull] at hother
          cases hother
        · rw [hfirst] at hdeep
          cases hdeep

def wholeNumber : List (String × Json) := [("type", .string "integer")]

theorem namesOneType_wholeNumber : NamesOneType wholeNumber .integer where
  type := Or.inl rfl
  notNull := nofun
  alone := by decide

theorem build_wholeNumber (nulls : Nulls) :
    Plan.build {} (.ofInline (nulls.schema wholeNumber .integer))
      (nulls.schema wholeNumber .integer) .trunc =
      .ok (nulls.plan false (.integer, []) .trunc) := by
  rw [build_schema namesOneType_wholeNumber (by decide) nulls .trunc, typePlan,
    Plan.linkBelow_eq_link]
  rfl

/-- Digits in a string are no integer, but can be made one. -/
theorem nulls_agree_wholeNumber :
    NamesOneType wholeNumber .integer ∧ (Json.object wholeNumber).IsSound ∧
    SameDocument Source.ofInline (.object wholeNumber) ∧
    ∃ plan : Nulls → Plan,
      (∀ nulls : Nulls, Plan.build {} (.ofInline (nulls.schema wholeNumber .integer))
        (nulls.schema wholeNumber .integer) .trunc = .ok (plan nulls)) ∧
      (plan .keyword).serialize (.string "7") = .ok "7" ∧
      (plan .last).serialize (.string "7") = .ok "7" ∧
      (plan .first).serialize (.string "7") = .ok "null" := by
  have hsound : (Json.object wholeNumber).IsSound :=
    Json.isSound_cons (by decide) (.string _) Json.isSound_nil
  have hdocument : SameDocument Source.ofInline (.object wholeNumber) := by
    right
    intro w hw
    rcases Schema.mem_schemasIn_iff.mp hw with rfl | ⟨c, hc, -⟩
    · rfl
    · cases hc
  refine ⟨namesOneType_wholeNumber, hsound, hdocument, ?_⟩
  rcases nulls_agree namesOneType_wholeNumber hsound {} hdocument .trunc with
    ⟨fault, hfault⟩ | ⟨plan, hplan, hlast, -, hfirst, -⟩
  · have hkeyword := hfault .keyword
    rw [build_wholeNumber] at hkeyword
    cases hkeyword
  · have hseven : (plan .keyword).serialize (.string "7") = .ok "7" := by
      have hkeyword := hplan .keyword
      rw [build_wholeNumber] at hkeyword
      rw [← Except.ok.inj hkeyword]
      exact Result.toOption_eq_some.mp (by decide +kernel)
    refine ⟨plan, hplan, hseven, ?_, hfirst _ rfl⟩
    rcases hlast (.string "7") with hsame | ⟨hnullable, -⟩
    · rw [hsame, hseven]
    · cases hnullable

/-- **The three encodings are not one**: a list that begins with null loses what the type would take
in. -/
theorem not_nulls_same :
    ¬ ∀ (given : List (String × Json)) (t : TypeName), NamesOneType given t →
      ∀ (nulls nulls' : Nulls) (plan plan' : Plan),
        Plan.build {} (.ofInline (nulls.schema given t)) (nulls.schema given t) .trunc = .ok plan →
        Plan.build {} (.ofInline (nulls'.schema given t)) (nulls'.schema given t) .trunc =
          .ok plan' →
        ∀ v, plan.serialize v = plan'.serialize v := by
  intro hsame
  have hseven := hsame wholeNumber .integer namesOneType_wholeNumber .keyword .first _ _
    (build_wholeNumber .keyword) (build_wholeNumber .first) (.string "7")
  have hkeyword : ((Nulls.keyword.plan false (.integer, []) .trunc).serialize
      (.string "7")).toOption = some "7" := by
    decide +kernel
  rw [hseven] at hkeyword
  have hfirst : ((Nulls.first.plan false (.integer, []) .trunc).serialize
      (.string "7")).toOption = some "null" := by
    decide +kernel
  rw [hfirst] at hkeyword
  exact absurd hkeyword (by decide)

end ReplySchema.Serializer

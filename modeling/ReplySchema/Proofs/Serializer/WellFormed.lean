import Mathlib.Data.List.Find
import ReplySchema.Proofs.Json.Grammar
import ReplySchema.Proofs.Number.Text
import ReplySchema.Proofs.Serializer.Build
import ReplySchema.Proofs.Serializer.Output
import ReplySchema.Proofs.Serializer.Tidy

/-! # What a plan writes is JSON

An object is written in two runs: declared members in the order of the schema, then others
in the order of the value.  Each run keeps the order of its names and skips some, and the
second skips what the first could have written.  So no name is written twice
(`nodup_writeObject`), if the schema declares distinct names and the value has distinct names.

Main statement: whatever a plan of sound schemas makes of a sound value is the text of one
JSON value, in which no object has two members of one name (`spellsText_of_serialize`).
-/

set_option autoImplicit false

namespace ReplySchema.Serializer.Plan

/-! ## §1  The members of a written object -/

section

variable {write : Node → Json → Except SerializeError Written}

theorem missing?_congr {properties : List (Property Node)} {required : List String}
    {members members' : List (String × Json)}
    (h : ∀ name ∈ required, Table.contains name members = Table.contains name members') :
    missing? properties required members = missing? properties required members' :=
  List.find?_congr fun name hname => by rw [h name hname]

/-- One declared member: it is left out, or written in its shape from the value or the default. -/
theorem writeDeclared_cons_eq_ok {members : List (String × Json)} {p : Property Node}
    {rest : List (Property Node)} {ms : List (String × Written)}
    (h : writeDeclared write members (p :: rest) = .ok ms) :
    writeDeclared write members rest = .ok ms ∨
      ∃ v written more, (Table.find? p.name members = some v ∨ p.default = some v) ∧
        write p.shape v = .ok written ∧ writeDeclared write members rest = .ok more ∧
        ms = (p.name, written) :: more := by
  rw [writeDeclared] at h
  split at h
  · next v hv =>
      obtain ⟨written, hwritten, h⟩ := Result.bind_eq_ok.mp h
      obtain ⟨more, hmore, h⟩ := Result.bind_eq_ok.mp h
      rw [Result.pure_eq_ok] at h
      exact Or.inr ⟨v, written, more, Result.eq_some_of_orElse hv, hwritten, hmore, h.symm⟩
  · exact Or.inl h

/-- Declared members are written in the order of declaration, some left out. -/
theorem sublist_writeDeclared {members : List (String × Json)} :
    ∀ {properties : List (Property Node)} {ms : List (String × Written)},
      writeDeclared write members properties = .ok ms →
      (Table.keys ms).Sublist (properties.map (·.name))
  | [], ms, h => by
      rw [writeDeclared, Result.pure_eq_ok] at h
      exact h ▸ .slnil
  | p :: rest, ms, h => by
      rcases writeDeclared_cons_eq_ok h with h | ⟨v, written, more, -, -, hmore, rfl⟩
      · exact (sublist_writeDeclared h).cons p.name
      · exact (sublist_writeDeclared hmore).cons_cons p.name

/-- Each declared member is written in its shape, from the value or from the default. -/
theorem mem_writeDeclared {members : List (String × Json)} :
    ∀ {properties : List (Property Node)} {ms : List (String × Written)},
      writeDeclared write members properties = .ok ms → ∀ m ∈ ms, ∃ p ∈ properties, ∃ v,
        m.1 = p.name ∧ (Table.find? p.name members = some v ∨ p.default = some v) ∧
          write p.shape v = .ok m.2
  | [], ms, h, m, hm => by
      rw [writeDeclared, Result.pure_eq_ok] at h
      rw [← h] at hm
      cases hm
  | p :: rest, ms, h, m, hm => by
      have hbehind : ∀ {more}, writeDeclared write members rest = .ok more → m ∈ more →
          ∃ q ∈ p :: rest, ∃ v, m.1 = q.name ∧
            (Table.find? q.name members = some v ∨ q.default = some v) ∧
            write q.shape v = .ok m.2 := by
        intro more hmore hm
        obtain ⟨q, hq, hwritten⟩ := mem_writeDeclared hmore m hm
        exact ⟨q, List.mem_cons_of_mem _ hq, hwritten⟩
      rcases writeDeclared_cons_eq_ok h with h | ⟨v, written, more, hv, hwritten, hmore, rfl⟩
      · exact hbehind h hm
      · rcases List.mem_cons.mp hm with rfl | hm
        · exact ⟨p, List.mem_cons_self, v, rfl, hv, hwritten⟩
        · exact hbehind hmore hm

variable {properties : List (Property Node)} {patterns : List (Pattern × Node)}
variable {others : Others Node}

/-- Whether a member that is not declared is written so. -/
def WritesOther (write : Node → Json → Except SerializeError Written)
    (properties : List (Property Node)) (patterns : List (Pattern × Node)) (others : Others Node)
    (name : String) (v : Json) (written : Written) : Prop :=
  (∀ p ∈ properties, p.name ≠ name) ∧
    ((∃ shape, otherShape? patterns others name = some (some shape) ∧
        write shape v = .ok written) ∨
      otherShape? patterns others name = some none ∧ written = .ofJson v)

/-- One other member: it is left out, or written as the others are. -/
theorem writeOthers_cons_eq_ok {name : String} {v : Json} {rest : List (String × Json)}
    {ms : List (String × Written)}
    (h : writeOthers write properties patterns others ((name, v) :: rest) = .ok ms) :
    writeOthers write properties patterns others rest = .ok ms ∨
      ∃ written more, WritesOther write properties patterns others name v written ∧
        writeOthers write properties patterns others rest = .ok more ∧
        ms = (name, written) :: more := by
  rw [writeOthers] at h
  split at h
  · exact Or.inl h
  · next hfresh =>
      have hnames : ∀ p ∈ properties, p.name ≠ name := fun p hp hname =>
        hfresh (List.any_eq_true.mpr ⟨p, hp, by rw [hname, beq_self_eq_true]⟩)
      split at h
      · exact Or.inl h
      · next shape hshape =>
          refine Or.inr ?_
          cases shape with
          | some s =>
              obtain ⟨written, hwritten, h⟩ := Result.bind_eq_ok.mp h
              obtain ⟨more, hmore, h⟩ := Result.bind_eq_ok.mp h
              rw [Result.pure_eq_ok] at h
              exact ⟨written, more, ⟨hnames, Or.inl ⟨s, hshape, hwritten⟩⟩, hmore, h.symm⟩
          | none =>
              obtain ⟨written, hwritten, h⟩ := Result.bind_eq_ok.mp h
              obtain ⟨more, hmore, h⟩ := Result.bind_eq_ok.mp h
              rw [Result.pure_eq_ok] at h hwritten
              exact ⟨written, more, ⟨hnames, Or.inr ⟨hshape, hwritten.symm⟩⟩, hmore, h.symm⟩

theorem sublist_writeOthers : ∀ {members : List (String × Json)} {ms : List (String × Written)},
    writeOthers write properties patterns others members = .ok ms →
    (Table.keys ms).Sublist (Table.keys members)
  | [], ms, h => by
      rw [writeOthers, Result.pure_eq_ok] at h
      exact h ▸ .slnil
  | (name, v) :: rest, ms, h => by
      rcases writeOthers_cons_eq_ok h with h | ⟨written, more, -, hmore, rfl⟩
      · exact (sublist_writeOthers h).cons name
      · exact (sublist_writeOthers hmore).cons_cons name

/-- Each other member comes from one of the value that is not declared and is admitted. -/
theorem mem_writeOthers : ∀ {members : List (String × Json)} {ms : List (String × Written)},
    writeOthers write properties patterns others members = .ok ms → ∀ m ∈ ms, ∃ v,
      (m.1, v) ∈ members ∧ WritesOther write properties patterns others m.1 v m.2
  | [], ms, h, m, hm => by
      rw [writeOthers, Result.pure_eq_ok] at h
      rw [← h] at hm
      cases hm
  | (name, v) :: rest, ms, h, m, hm => by
      have hbehind : ∀ {more}, writeOthers write properties patterns others rest = .ok more →
          m ∈ more → ∃ w, (m.1, w) ∈ (name, v) :: rest ∧
            WritesOther write properties patterns others m.1 w m.2 := by
        intro more hmore hm
        obtain ⟨w, hw, hwritten⟩ := mem_writeOthers hmore m hm
        exact ⟨w, List.mem_cons_of_mem _ hw, hwritten⟩
      rcases writeOthers_cons_eq_ok h with h | ⟨written, more, hwritten, hmore, rfl⟩
      · exact hbehind h hm
      · rcases List.mem_cons.mp hm with rfl | hm
        · exact ⟨v, List.mem_cons_self, hwritten⟩
        · exact hbehind hmore hm

/-- An object that is written: no required member is missing, and the declared members come first,
then the others. -/
theorem writeObject_eq_ok {required : List String} {v : Json} {w : Written} :
    writeObject write properties required patterns others v = .ok w ↔
      missing? properties required v.members = none ∧ ∃ declared more,
        writeDeclared write v.members properties = .ok declared ∧
        writeOthers write properties patterns others v.members = .ok more ∧
        w = .object (declared ++ more) := by
  unfold writeObject
  constructor
  · intro h
    split at h
    · exact absurd h Result.throw_ne_ok
    · next hmissing =>
        obtain ⟨declared, hdeclared, h⟩ := Result.bind_eq_ok.mp h
        obtain ⟨more, hmore, h⟩ := Result.bind_eq_ok.mp h
        rw [Result.pure_eq_ok] at h
        exact ⟨hmissing, declared, more, hdeclared, hmore, h.symm⟩
  · rintro ⟨hmissing, declared, more, hdeclared, hmore, rfl⟩
    rw [hmissing]
    dsimp only
    rw [hdeclared, hmore]
    rfl

/-- **No name is written twice.** -/
theorem nodup_writeObject (hproperties : (properties.map (·.name)).Nodup)
    {members : List (String × Json)} (hmembers : (Table.keys members).Nodup)
    {declared more : List (String × Written)}
    (hdeclared : writeDeclared write members properties = .ok declared)
    (hmore : writeOthers write properties patterns others members = .ok more) :
    (Table.keys (declared ++ more)).Nodup := by
  rw [Table.keys, List.map_append]
  refine List.nodup_append.mpr ⟨hproperties.sublist (sublist_writeDeclared hdeclared),
    hmembers.sublist (sublist_writeOthers hmore), ?_⟩
  intro name hname other hother heq
  obtain ⟨m, hm, rfl⟩ := List.mem_map.mp hname
  obtain ⟨m', hm', rfl⟩ := List.mem_map.mp hother
  obtain ⟨p, hp, -, hpname, -⟩ := mem_writeDeclared hdeclared m hm
  obtain ⟨v, -, hfresh, -⟩ := mem_writeOthers hmore m' hm'
  exact hfresh p hp (hpname.symm.trans heq)

def paired (rest : Node) : List Node → List Json → List (Node × Json)
  | _, [] => []
  | front, x :: xs => (front.headD rest, x) :: paired rest front.tail xs

theorem mem_of_mem_paired {rest s : Node} {x : Json} {items : List Json} : ∀ {front : List Node},
    (s, x) ∈ paired rest front items → s ∈ front ++ [rest] ∧ x ∈ items := by
  induction items with
  | nil => exact fun h => by cases h
  | cons y ys ih =>
      intro front h
      rcases List.mem_cons.mp h with heq | h
      · cases heq
        refine ⟨?_, List.mem_cons_self⟩
        cases front with
        | nil => exact List.mem_cons_self
        | cons t more => exact List.mem_cons_self
      · obtain ⟨hs, hx⟩ := ih h
        refine ⟨?_, List.mem_cons_of_mem _ hx⟩
        cases front with
        | nil => exact hs
        | cons t more => exact List.mem_cons_of_mem _ hs

theorem writeItems_eq_mapM (rest : Node) (items : List Json) : ∀ front : List Node,
    writeItems write rest front items =
      (paired rest front items).mapM fun p => write p.1 p.2 := by
  induction items with
  | nil =>
      intro front
      rw [writeItems, paired, List.mapM_nil]
  | cons x xs ih =>
      intro front
      rw [paired, List.mapM_cons, ← ih]
      cases front with
      | nil => rw [writeItems]; rfl
      | cons s more => rw [writeItems]; rfl

theorem mem_writeItems {rest : Node} {front : List Node} {items : List Json} {ws : List Written}
    (h : writeItems write rest front items = .ok ws) {w : Written} (hw : w ∈ ws) :
    ∃ s x, (s, x) ∈ paired rest front items ∧ write s x = .ok w := by
  rw [writeItems_eq_mapM] at h
  obtain ⟨⟨s, x⟩, hpair, hwrite⟩ := Result.mem_of_mapM_eq_ok h w hw
  exact ⟨s, x, hpair, hwrite⟩

end

/-! ## §2  Values -/

/-- Whether a written value is JSON whose objects have distinct names. -/
abbrev IsFine (w : Written) : Prop := w.Every Grammar.IsNumber List.Nodup

theorem isFine_ofJson {v : Json} (h : v.IsSound) : IsFine (.ofJson v) :=
  Written.every_ofJson (fun _ h => Written.isNumber_numberChars h) h

variable {plan : Plan}

def IsTidy (plan : Plan) : Prop :=
  EveryForm Shape.Form.IsTidy plan.root ∧
    ∀ e ∈ plan.targets, ∀ node, e.2 = some node → EveryForm Shape.Form.IsTidy node

/-- The shape by which a union writes a value is that of one of its branches. -/
theorem exists_of_choose?_eq_some {branches : List (Branch Validator Node)} {v : Json} {s : Node}
    (h : plan.choose? branches v = some s) : ∃ b ∈ branches, b.shape = s := by
  obtain ⟨b, hb, rfl⟩ := Option.map_eq_some_iff.mp h
  rcases Result.eq_some_of_orElse hb with hb | hb
  · exact ⟨b, List.mem_of_find?_eq_some hb, rfl⟩
  · exact ⟨b, List.mem_of_mem_head? hb, rfl⟩

theorem mem_of_otherShape? {patterns : List (Pattern × Node)} {others : Others Node}
    {name : String} {shape : Node} (h : otherShape? patterns others name = some (some shape)) :
    shape ∈ patterns.map (·.2) ++ others.shapes := by
  unfold otherShape? at h
  split at h
  · next p hp =>
      cases h
      exact List.mem_append_left _ (List.mem_map_of_mem (List.mem_of_find?_eq_some hp))
  · split at h
    · cases h
    · cases h
    · cases h
      exact List.mem_append_right _ List.mem_cons_self

section

variable {write : Node → Json → Except SerializeError Written}

/-- An object has distinct names, and each member is fine if the shapes inside write so. -/
theorem isFine_writeObject {properties : List (Property Node)} {required : List String}
    {patterns : List (Pattern × Node)} {others : Others Node} {v : Json} {w : Written}
    (hwrite : ∀ s ∈ (Shape.object properties required patterns others : Node).parts,
      ∀ {v : Json} {w : Written}, v.IsSound → write s v = .ok w → IsFine w)
    (hnames : (properties.map (·.name)).Nodup)
    (hdefault : ∀ p ∈ properties, ∀ v, p.default = some v → v.IsSound) (hv : v.IsSound)
    (h : writeObject write properties required patterns others v = .ok w) : IsFine w := by
  obtain ⟨-, declared, more, hdeclared, hmore, rfl⟩ := writeObject_eq_ok.mp h
  refine .object (nodup_writeObject hnames hv.nodup_members hdeclared hmore) fun m hm => ?_
  rcases List.mem_append.mp hm with hm | hm
  · obtain ⟨p, hp, x, -, hx, hwritten⟩ := mem_writeDeclared hdeclared m hm
    have hshape : p.shape ∈ properties.map (·.shape) := List.mem_map_of_mem hp
    refine hwrite p.shape ?_ (hx.elim hv.find? (hdefault p hp x)) hwritten
    exact List.mem_append_left _ (List.mem_append_left _ hshape)
  · obtain ⟨x, hx, -, ⟨shape, hshape, hwritten⟩ | ⟨-, hwritten⟩⟩ := mem_writeOthers hmore m hm
    · have hpart := mem_of_otherShape? hshape
      rw [List.mem_append] at hpart
      refine hwrite shape ?_ (hv.of_mem_members hx) hwritten
      rw [Shape.parts, List.append_assoc]
      exact List.mem_append_right _ (List.mem_append.mpr hpart)
    · exact hwritten ▸ isFine_ofJson (hv.of_mem_members hx)

theorem isFine_writeItems {front : List Node} {rest : Node} {items : List Json}
    {ws : List Written}
    (hwrite : ∀ s ∈ (Shape.array front rest : Node).parts,
      ∀ {v : Json} {w : Written}, v.IsSound → write s v = .ok w → IsFine w)
    (hitems : (Json.array items).IsSound) (h : writeItems write rest front items = .ok ws) :
    IsFine (.array ws) := by
  refine .array fun w hw => ?_
  obtain ⟨s, x, hpair, hwritten⟩ := mem_writeItems h hw
  obtain ⟨hs, hx⟩ := mem_of_mem_paired hpair
  exact hwrite s hs (hitems.item hx) hwritten

end

/-- **Whatever a tidy plan writes of a sound value is JSON whose objects have distinct names.** -/
theorem isFine_write (hplan : plan.IsTidy) : ∀ (room : Nat) {node : Node} {v : Json} {w : Written},
    EveryForm Shape.Form.IsTidy node → v.IsSound → plan.write room node v = .ok w → IsFine w := by
  -- Induction on the room: a reference goes on with less, whatever its shape.
  intro room
  induction room with
  | zero =>
      intro node v w _ _ h
      rw [write] at h
      exact absurd h Result.throw_ne_ok
  | succ room ih =>
      intro node v w hnode hv h
      rw [write.eq_def] at h
      cases node with
      | any =>
          rw [Result.pure_eq_ok] at h
          exact h ▸ isFine_ofJson hv
      | reference key =>
          simp only at h
          split at h
          · next shape hshape =>
              exact ih (hplan.2 _ (Table.find?_mem hshape) shape rfl) hv h
          · rw [Result.pure_eq_ok] at h
            exact h ▸ isFine_ofJson hv
      | const expected =>
          have hexpected : expected.IsSound := hnode.self
          rw [Result.pure_eq_ok] at h
          exact h ▸ isFine_ofJson hexpected
      | null =>
          rw [Result.pure_eq_ok] at h
          exact h ▸ .null
      | boolean =>
          rw [Result.pure_eq_ok] at h
          exact h ▸ .bool _
      | integer =>
          simp only at h
          split at h
          · next digits hdigits =>
              rw [Result.pure_eq_ok] at h
              exact h ▸ .number (Coercion.isNumber_integerChars? hv hdigits)
          · exact absurd h Result.throw_ne_ok
      | number =>
          simp only at h
          split at h
          · next digits hdigits =>
              rw [Result.pure_eq_ok] at h
              exact h ▸ .number (Coercion.isNumber_numberChars? hdigits)
          · exact absurd h Result.throw_ne_ok
      | string =>
          rw [Result.pure_eq_ok] at h
          exact h ▸ .string _
      | object properties required patterns others =>
          have hform : (properties.map fun p => (p.name, p.default)).map (·.1) |>.Nodup :=
            hnode.self.1
          rw [List.map_map] at hform
          refine isFine_writeObject (fun s hs _ _ => ih (hnode.part hs)) hform ?_ hv h
          exact fun p hp => hnode.self.2 (p.name, p.default) (List.mem_map_of_mem hp)
      | array front rest =>
          cases v with
          | array items =>
              obtain ⟨ws, hws, h⟩ := Result.bind_eq_ok.mp h
              rw [Result.pure_eq_ok] at h
              exact h ▸ isFine_writeItems (fun s hs _ _ => ih (hnode.part hs)) hv hws
          | _ => exact absurd h Result.throw_ne_ok
      -- the chosen alternative is one of the parts, and only the choice looks at tests
      | union branches =>
          simp only at h
          split at h
          · next shape hshape =>
              obtain ⟨b, hb, rfl⟩ := exists_of_choose?_eq_some hshape
              exact ih (hnode.part (List.mem_map_of_mem hb)) hv h
          · rw [Result.pure_eq_ok] at h
            exact h ▸ isFine_ofJson hv
      | nullable inner =>
          simp only at h
          split at h
          · rw [Result.pure_eq_ok] at h
            exact h ▸ .null
          · exact ih (hnode.part List.mem_cons_self) hv h

theorem isTidy_of_build {set : Schema.Set} {base : Schema.Source} {schema : Json}
    {rounding : Rounding} (hset : set.IsSound base) (hschema : schema.IsSound)
    (h : build set base schema rounding = .ok plan) : plan.IsTidy := by
  refine build_every (S := (· ∈ set.sources base)) trivial trivial (fun s r t hs ht => ?_)
    List.mem_cons_self (Sketch.every_tidy_ofSchema hset List.mem_cons_self hschema) h
  have hsource := Schema.Set.source_mem_of_resolve hs ht
  exact ⟨hsource, Sketch.every_tidy_ofSchema hset hsource (hset.schema hsource)⟩

/-- **The text that a plan writes is one JSON value, and no object in it has two members of one
name.** -/
theorem spellsText_of_serialize {set : Schema.Set} {base : Schema.Source} {schema v : Json}
    {rounding : Rounding} {text : String} (hset : set.IsSound base) (hschema : schema.IsSound)
    (hv : v.IsSound) (hbuild : build set base schema rounding = .ok plan)
    (h : plan.serialize v = .ok text) :
    ∃ w, plan.written v = .ok w ∧ Grammar.SpellsText text w ∧
      w.Every Grammar.IsNumber List.Nodup := by
  have hplan := isTidy_of_build hset hschema hbuild
  rw [serialize_eq] at h
  obtain ⟨w, hw, h⟩ := Result.bind_eq_ok.mp h
  rw [Result.pure_eq_ok] at h
  have hfine := isFine_write hplan _ hplan.1 hv hw
  refine ⟨w, hw, ⟨[], w.chars, [], Grammar.isBlank_nil, Grammar.spells_chars hfine,
    Grammar.isBlank_nil, ?_⟩, hfine⟩
  rw [← h, List.nil_append, List.append_nil]
  exact String.toList_ofList

def chainSchema : Json :=
  .object [("type", .string "object"),
    ("properties", .object [("size", .object [("type", .string "integer")]),
      ("next", .object [("$ref", .string "#")])]),
    ("additionalProperties", .bool true)]

/-- A chain of two, members in another order and of other types. -/
def chainValue : Json :=
  .object [("tag", .string "a\"b"), ("next", .object [("size", .string " 7.5 ")]),
    ("size", .bool true)]

theorem spellsText_of_serialize_chain : ∃ plan text,
    build {} (.ofInline chainSchema) chainSchema .trunc = .ok plan ∧
      plan.serialize chainValue = .ok text ∧
      text = "\x7b\"size\":1,\"next\":\x7b\"size\":7\x7d,\"tag\":\"a\\\"b\"\x7d" ∧
      ∃ w, plan.written chainValue = .ok w ∧ Grammar.SpellsText text w ∧
        w.Every Grammar.IsNumber List.Nodup := by
  have hrun : ((build {} (.ofInline chainSchema) chainSchema .trunc).toOption.bind fun plan =>
      (plan.serialize chainValue).toOption) =
        some "\x7b\"size\":1,\"next\":\x7b\"size\":7\x7d,\"tag\":\"a\\\"b\"\x7d" := by
    decide +kernel
  obtain ⟨plan, hplan, htext⟩ := Option.bind_eq_some_iff.mp hrun
  rw [Result.toOption_eq_some] at hplan htext
  have hobject := @Json.isSound_cons
  have hschema : chainSchema.IsSound := by
    unfold chainSchema
    refine hobject (by decide) (.string _) (hobject (by decide) ?_ (hobject (by decide) (.bool _)
      Json.isSound_nil))
    refine hobject (by decide) ?_ (hobject (by decide) ?_ Json.isSound_nil)
    · exact hobject (by decide) (.string _) Json.isSound_nil
    · exact hobject (by decide) (.string _) Json.isSound_nil
  have hvalue : chainValue.IsSound := by
    unfold chainValue
    refine hobject (by decide) (.string _) (hobject (by decide) ?_ (hobject (by decide) (.bool _)
      Json.isSound_nil))
    exact hobject (by decide) (.string _) Json.isSound_nil
  have hset : Schema.Set.IsSound {} (.ofInline chainSchema) := by
    intro s hs
    rw [List.mem_singleton.mp hs]
    exact hschema
  exact ⟨plan, _, hplan, htext, rfl, spellsText_of_serialize hset hschema hvalue hplan htext⟩

end ReplySchema.Serializer.Plan

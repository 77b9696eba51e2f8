import ReplySchema.Proofs.Serializer.WellFormed

/-! # What a plan does not look at

A plan writes a value member by member and item by item, and of an object whose other members
are left out it looks at the declared and the required names only.  So two values that differ
in nothing else are one and the same for the plan.  They are `Related`, and the relation
follows the plan: it goes down along the shapes, and ends where the values are equal.

Main statement: related values are written as the same text, or fail with the same error
(`serialize_eq_of_related`).
-/

set_option autoImplicit false

namespace ReplySchema.Serializer.Plan

open Schema (Key)

/-- Whether a plan can tell two values apart in a shape only by what the shape declares: the least
relation that has the equal values, is handed on by references and `nullable`, and goes through
the declared members of an object without patterns that leaves the others out, and through the
items of an array. -/
inductive Related (plan : Plan) : Node → Json → Json → Prop where
  | same (node : Node) (v : Json) : Related plan node v v
  | reference {key : Key} {shape : Node} {v v' : Json}
      (hshape : Table.find? key plan.targets = some (some shape)) (h : Related plan shape v v') :
      Related plan (.reference key) v v'
  | nullable {inner : Node} {v v' : Json} (h : Related plan inner v v') :
      Related plan (.nullable inner) v v'
  /-- The same required names are there, and each property is missing in both or related. -/
  | object {properties : List (Property Node)} {required : List String}
      {members members' : List (String × Json)}
      (hrequired : ∀ name ∈ required, Table.contains name members = Table.contains name members')
      (hdeclared : ∀ p ∈ properties,
        Table.contains p.name members = Table.contains p.name members')
      (h : ∀ p ∈ properties, ∀ x x', Table.find? p.name members = some x →
        Table.find? p.name members' = some x' → Related plan p.shape x x') :
      Related plan (.object properties required [] .dropped) (.object members) (.object members')
  | array {front : List Node} {rest : Node} {items items' : List Json}
      (hlength : items.length = items'.length)
      (h : ∀ (i : Nat) (x x' : Json), items[i]? = some x → items'[i]? = some x' →
        Related plan (front[i]?.getD rest) x x') :
      Related plan (.array front rest) (.array items) (.array items')

variable {plan : Plan}

theorem Related.isNull_eq {node : Node} {v v' : Json} (h : Related plan node v v') :
    v.isNull = v'.isNull := by
  induction h with
  | same => rfl
  | reference _ _ ih => exact ih
  | nullable _ ih => exact ih
  | object => rfl
  | array => rfl

/-- What is neither declared nor required may be anything, or nothing. -/
theorem Related.insert {properties : List (Property Node)} {required : List String}
    (name : String) (hrequired : name ∉ required) (hdeclared : ∀ p ∈ properties, p.name ≠ name)
    (members : List (String × Json)) (x : Json) :
    Related plan (.object properties required [] .dropped) (.object members)
      (.object (Table.insert name x members)) := by
  have hfind : ∀ n, n ≠ name →
      Table.find? n (Table.insert name x members) = Table.find? n members :=
    fun n hn => Table.find?_insert_ne hn.symm x members
  refine .object (fun n hn => ?_) (fun p hp => ?_) fun p hp y y' hy hy' => ?_
  · rw [Table.contains, Table.contains, hfind n fun heq => hrequired (heq ▸ hn)]
  · rw [Table.contains, Table.contains, hfind p.name (hdeclared p hp)]
  · rw [hfind p.name (hdeclared p hp), hy] at hy'
    cases hy'
    exact .same _ _

section

variable {write : Node → Json → Except SerializeError Written}

theorem writeDeclared_congr {members members' : List (String × Json)} :
    ∀ {properties : List (Property Node)},
      (∀ p ∈ properties, Table.contains p.name members = Table.contains p.name members') →
      (∀ p ∈ properties, ∀ x x', Table.find? p.name members = some x →
        Table.find? p.name members' = some x' → write p.shape x = write p.shape x') →
      writeDeclared write members properties = writeDeclared write members' properties
  | [], _, _ => rfl
  | p :: rest, hcontains, hwrite => by
      have hrest := writeDeclared_congr (fun q hq => hcontains q (List.mem_cons_of_mem _ hq))
        fun q hq => hwrite q (List.mem_cons_of_mem _ hq)
      have hthere := hcontains p List.mem_cons_self
      have hhere := hwrite p List.mem_cons_self
      rw [writeDeclared, writeDeclared, hrest]
      unfold Table.contains at hthere
      cases hx : Table.find? p.name members with
      | none =>
          cases hx' : Table.find? p.name members' with
          | none => rfl
          | some x' =>
              rw [hx, hx'] at hthere
              cases hthere
      | some x =>
          cases hx' : Table.find? p.name members' with
          | none =>
              rw [hx, hx'] at hthere
              cases hthere
          | some x' =>
              change (do
                let written ← write p.shape x
                return (p.name, written) :: (← writeDeclared write members' rest)) = _
              rw [hhere x x' hx hx']
              rfl

theorem writeItems_congr {rest : Node} : ∀ {front : List Node} {items items' : List Json},
    items.length = items'.length →
    (∀ (i : Nat) (x x' : Json), items[i]? = some x → items'[i]? = some x' →
      write (front[i]?.getD rest) x = write (front[i]?.getD rest) x') →
    writeItems write rest front items = writeItems write rest front items'
  | _, [], [], _, _ => rfl
  | [], x :: xs, x' :: xs', hlength, hwrite => by
      have hrest : writeItems write rest [] xs = writeItems write rest [] xs' :=
        writeItems_congr (Nat.succ.inj hlength) fun i => hwrite (i + 1)
      rw [writeItems, writeItems, hrest]
      rw [show write rest x = write rest x' from hwrite 0 x x' rfl rfl]
  | s :: front, x :: xs, x' :: xs', hlength, hwrite => by
      have hrest : writeItems write rest front xs = writeItems write rest front xs' :=
        writeItems_congr (Nat.succ.inj hlength) fun i => hwrite (i + 1)
      rw [writeItems, writeItems, hrest]
      rw [show write s x = write s x' from hwrite 0 x x' rfl rfl]

end

/-- **A plan writes related values alike**, at any depth. -/
theorem write_eq_of_related {node : Node} {v v' : Json} (h : Related plan node v v') :
    ∀ room, plan.write room node v = plan.write room node v' := by
  intro room
  -- Each step into the relation is one into the plan, so the room goes along.
  induction h generalizing room with
  | same => rfl
  | reference hshape _ ih =>
      cases room with
      | zero => rfl
      | succ room =>
          rw [write, write, hshape]
          exact ih room
  | nullable h ih =>
      cases room with
      | zero => rfl
      | succ room =>
          rw [write, write, ih room, h.isNull_eq]
  | @object properties required members members' hrequired hdeclared h ih =>
      cases room with
      | zero => rfl
      | succ room =>
          have hmissing : missing? properties required members =
              missing? properties required members' := missing?_congr hrequired
          have hwritten := writeDeclared_congr hdeclared
            fun p hp x x' hx hx' => ih p hp x x' hx hx' room
          rw [write, write, writeObject, writeObject]
          simp only [Json.members, hmissing, hwritten, writeOthers_dropped]
  | array hlength h ih =>
      cases room with
      | zero => rfl
      | succ room =>
          have hitems := writeItems_congr hlength fun i x x' hx hx' => ih i x x' hx hx' room
          rw [write, write, hitems]

/-! ## The main statement -/

/-- **What a plan does not declare makes no difference**: related values have the same text, or the
same error. -/
theorem serialize_eq_of_related {v v' : Json} (h : Related plan plan.root v v') :
    plan.serialize v = plan.serialize v' := by
  rw [serialize_eq, serialize_eq, written, written, write_eq_of_related h]

/-- An entry with a name and perhaps a next entry, and its plan. -/
def entrySchema : Json :=
  .object [("type", .string "object"), ("required", .array [.string "name"]),
    ("properties", .object [("name", .object [("type", .string "string")]),
      ("next", .object [("$ref", .string "#")])])]

def entryNode : Node :=
  .object [⟨"name", none, .string⟩, ⟨"next", none, .reference (.inline, "")⟩] ["name"] [] .dropped

def entryPlan : Plan := ⟨entryNode, [((.inline, ""), some entryNode)], .trunc⟩

def entryOf (secret : Json) : Json :=
  .object [("name", .string "a"), ("secret", secret),
    ("next", .object [("secret", secret), ("name", .string "b")])]

theorem serialize_eq_of_related_entry :
    build (.ofStores [] 0) (.ofInline entrySchema) entrySchema .trunc = .ok entryPlan ∧
      Related entryPlan entryPlan.root (entryOf .null) (entryOf (.bool true)) ∧
      entryPlan.serialize (entryOf .null) = entryPlan.serialize (entryOf (.bool true)) := by
  have hentry : Related entryPlan entryNode (.object [("secret", .null), ("name", .string "b")])
      (.object [("secret", .bool true), ("name", .string "b")]) := by
    refine Related.insert "secret" ?_ ?_ [("secret", .null), ("name", .string "b")] (.bool true)
    · decide
    · decide
  have hrelated : Related entryPlan entryPlan.root (entryOf .null) (entryOf (.bool true)) := by
    refine .object (by decide) (by decide) fun p hp x x' hx hx' => ?_
    simp only [List.mem_cons, List.not_mem_nil, or_false] at hp
    rcases hp with rfl | rfl
    · cases hx
      cases hx'
      exact .same _ _
    · cases hx
      cases hx'
      exact .reference rfl hentry
  exact ⟨rfl, hrelated, serialize_eq_of_related hrelated⟩

end ReplySchema.Serializer.Plan

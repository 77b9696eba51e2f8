import ReplySchema.Proofs.Serializer.Linking
import ReplySchema.Proofs.Schema.Occurrences
import ReplySchema.Proofs.Table
import ReplySchema.Serializer.Plan

/-! # Building a plan, reference by reference

All that building does to the table of targets it does at references.  `linkBelow_eq_link`
and `run_onReference` say once what happens there; everything about plans is derived from
these two.

First use: a property of forms that all sketches have, every shape of the plan has
(`build_every`).
-/

set_option autoImplicit false

namespace ReplySchema.Serializer.Plan

open Schema (Key Source Target)

variable {set : Schema.Set}

/-! ## §1  One reference -/

def onReference (set : Schema.Set) (room : Nat) (base : Source)
    (reference : Except SchemaError String) : Linking Node := do
  let target ← (reference.bind fun r => set.resolve r base : Except SchemaError _)
  if Table.contains target.key (← get) then return .reference target.key
  else
    match room with
    | 0 => return .any
    | room + 1 => do
        modify (Table.insert target.key none)
        let shape ← linkBelow set room target.source
          (.ofSchema set target.source target.schema)
        settle target.key shape
        return .reference target.key

theorem linkBelow_eq_link (room : Nat) (base : Source) (sketch : Sketch) :
    linkBelow set room base sketch =
      sketch.link (onReference set room base) fun schema => pure (testOf set base schema) := by
  cases room with
  | zero => rfl
  | succ room => rfl

/-- The table after a target has got its shape. -/
def settled (key : Key) (shape : Node) (targets : Table Key (Option Node)) :
    Table Key (Option Node) :=
  if leadsTo key targets (targets.length + 1) shape then targets
  else Table.insert key (some shape) targets

theorem run_onReference_error {room : Nat} {base : Source} {reference : Except SchemaError String}
    {e : SchemaError} (h : (reference.bind fun r => set.resolve r base) = .error e)
    (targets : Table Key (Option Node)) :
    (onReference set room base reference).run targets = .error e := by
  unfold onReference
  rw [h]
  rfl

theorem run_onReference_met {room : Nat} {base : Source} {r : String} {t : Target}
    (h : set.resolve r base = .ok t) {targets : Table Key (Option Node)}
    (hmet : Table.contains t.key targets = true) :
    (onReference set room base (.ok r)).run targets = .ok (.reference t.key, targets) := by
  have htarget : (liftM ((Except.ok r).bind fun r => set.resolve r base) : Linking _).run targets =
      .ok (t, targets) := by
    rw [show ((Except.ok r).bind fun r => set.resolve r base) = .ok t from h]
    rfl
  unfold onReference
  rw [StateT.run_bind, htarget]
  change (if Table.contains t.key targets = true then _ else _ : Linking Node).run targets = _
  rw [if_pos hmet]
  rfl

theorem run_onReference_new {room : Nat} {base : Source} {r : String} {t : Target}
    (h : set.resolve r base = .ok t) {targets : Table Key (Option Node)}
    (hfresh : Table.contains t.key targets = false) :
    (onReference set room base (.ok r)).run targets =
      match room with
      | 0 => .ok (.any, targets)
      | room + 1 =>
          match (linkBelow set room t.source (.ofSchema set t.source t.schema)).run
            (Table.insert t.key none targets) with
          | .ok (shape, middle) => .ok (.reference t.key, settled t.key shape middle)
          | .error e => .error e := by
  have htarget : (liftM ((Except.ok r).bind fun r => set.resolve r base) : Linking _).run targets =
      .ok (t, targets) := by
    rw [show ((Except.ok r).bind fun r => set.resolve r base) = .ok t from h]
    rfl
  unfold onReference
  rw [StateT.run_bind, htarget]
  change (if Table.contains t.key targets = true then _ else _ : Linking Node).run targets = _
  rw [hfresh]
  cases room with
  | zero => rfl
  | succ room =>
      change ((linkBelow set room t.source _).run (Table.insert t.key none targets)).bind _ = _
      dsimp only
      split
      · next hrun =>
          rw [hrun]
          rfl
      · next hrun =>
          rw [hrun]
          rfl

/-- **What happens at a reference**: its target is in the table already, or there is no room for
it, or it is entered and shaped. -/
theorem run_onReference {room : Nat} {base : Source} {reference : Except SchemaError String}
    {before after : Table Key (Option Node)} {node : Node}
    (h : (onReference set room base reference).run before = .ok (node, after)) :
    ∃ r t, reference = .ok r ∧ set.resolve r base = .ok t ∧
      ((Table.contains t.key before = true ∧ node = .reference t.key ∧ after = before) ∨
        (Table.contains t.key before = false ∧ room = 0 ∧ node = .any ∧ after = before) ∨
        Table.contains t.key before = false ∧ node = .reference t.key ∧
          ∃ less shape middle, room = less + 1 ∧
            (linkBelow set less t.source (.ofSchema set t.source t.schema)).run
              (Table.insert t.key none before) = .ok (shape, middle) ∧
            after = settled t.key shape middle) := by
  obtain ⟨⟨t, state⟩, hlift, hrest⟩ := Result.bind_eq_ok.mp h
  obtain ⟨t', htarget, hlift⟩ := Result.bind_eq_ok.mp hlift
  cases hlift
  obtain ⟨r, rfl, hresolve⟩ := Result.bind_eq_ok.mp htarget
  refine ⟨r, t, rfl, hresolve, ?_⟩
  change (if Table.contains t.key before = true then _ else _ : Linking Node).run before = _ at hrest
  split at hrest
  · next hcontains =>
      cases hrest
      exact Or.inl ⟨hcontains, rfl, rfl⟩
  · next hcontains =>
      refine Or.inr ?_
      rw [Bool.not_eq_true] at hcontains
      cases room with
      | zero =>
          cases hrest
          exact Or.inl ⟨hcontains, rfl, rfl, rfl⟩
      | succ less =>
          obtain ⟨⟨shape, middle⟩, hlink, hrest⟩ := Result.bind_eq_ok.mp hrest
          cases hrest
          exact Or.inr ⟨hcontains, rfl, less, shape, middle, rfl, hlink, rfl⟩

/-! ## §2  Forms -/

section
variable (P : Shape.Form → Prop)

/-- Whether all forms of a shape have a property. -/
abbrev EveryForm {ρ τ : Type} (s : Shape ρ τ) : Prop := s.Every fun t => P t.form

def formed : Growth (Table Key (Option Node)) where
  inv targets := ∀ e ∈ targets, ∀ node, e.2 = some node → EveryForm P node
  le _ _ := True
  refl _ := trivial
  trans _ _ := trivial

variable {P}

theorem formed_insert {targets : Table Key (Option Node)} (h : (formed P).inv targets) (key : Key)
    {entry : Option Node} (hentry : ∀ node, entry = some node → EveryForm P node) :
    (formed P).inv (Table.insert key entry targets) := by
  intro e he node hnode
  rcases Table.mem_insert he with rfl | he
  · exact hentry node hnode
  · exact h e he node hnode

variable (hany : P .any) (hreference : P .reference)
variable {S : Source → Prop} (htarget : ∀ s r t, S s → set.resolve r s = .ok t →
  S t.source ∧ EveryForm P (Sketch.ofSchema set t.source t.schema))
include hany hreference htarget

theorem ensures_linkBelow_form : ∀ (room : Nat) {base : Source} {sketch : Sketch}, S base →
    EveryForm P sketch →
    (formed P).Ensures (linkBelow set room base sketch) fun _ node => EveryForm P node := by
  have hleaf : ∀ node : Node, node.parts = [] → P node.form → EveryForm P node := by
    intro node hparts hnode
    exact .intro hnode fun t ht => by rw [hparts] at ht; cases ht
  intro room
  induction room using Nat.strongRecOn with
  | _ room ih =>
      intro base sketch hbase hsketch
      rw [linkBelow_eq_link]
      refine (Shape.ensures_link (R := fun _ _ node => EveryForm P node) (fun _ _ _ _ _ h => h)
        sketch (hsketch.mono fun s _ r _ => ?_)).mono fun _ _ h => h.every hsketch fun _ _ h => h
      intro before node after hbefore hrun
      obtain ⟨r, t, -, ht, ⟨-, rfl, rfl⟩ | ⟨-, -, rfl, rfl⟩ |
        ⟨-, rfl, less, shape, middle, rfl, hlink, rfl⟩⟩ := run_onReference hrun
      · exact ⟨hbefore, trivial, hleaf _ rfl hreference⟩
      · exact ⟨hbefore, trivial, hleaf _ rfl hany⟩
      · obtain ⟨hsource, htargetSketch⟩ := htarget base r t hbase ht
        obtain ⟨hmiddle, -, hshape⟩ := ih less (Nat.lt_succ_self less) hsource htargetSketch _ _ _
          (formed_insert hbefore t.key fun _ h => by cases h) hlink
        refine ⟨?_, trivial, hleaf _ rfl hreference⟩
        unfold settled
        split
        · exact hmiddle
        · exact formed_insert hmiddle t.key fun node h => Option.some.inj h ▸ hshape

/-- **What holds of the forms of all sketches holds of the forms in a plan.** -/
theorem build_every {base : Source} {schema : Json} {rounding : Rounding} {plan : Plan}
    (hbase : S base) (hschema : EveryForm P (Sketch.ofSchema set base schema))
    (h : build set base schema rounding = .ok plan) :
    EveryForm P plan.root ∧ ∀ e ∈ plan.targets, ∀ node, e.2 = some node → EveryForm P node := by
  obtain ⟨⟨root, targets⟩, hlink, h⟩ := Result.bind_eq_ok.mp h
  cases h
  obtain ⟨htargets, -, hroot⟩ := ensures_linkBelow_form hany hreference htarget _ hbase hschema _ _ _
    (fun _ h => by cases h) hlink
  exact ⟨hroot, htargets⟩

end

end ReplySchema.Serializer.Plan

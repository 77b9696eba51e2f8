import ReplySchema.Proofs.Result
import ReplySchema.Schema.Set

/-! # The places that references mean

A reference means a place: a document and a pointer into it.  The place is looked up first, and
whether something stands there is looked at afterwards; at the last way out, a document whose
whole identifier the reference is, it is not looked at at all.  So one may ask what is to be done
with a place where nothing stands.  There is none: a reference that means a place has a target
there (`exists_target_of_place?`).
-/

set_option autoImplicit false

namespace ReplySchema.Schema

def referenceTo (r : String) : Json := .object [("$ref", .string r)]

def Target.place (t : Target) : Source × String := (t.source, t.pointer)

namespace Set

def pointerOf? (place : Source × String) (fragment : String) : Option String :=
  if fragment.isEmpty then some place.2
  else if fragment.toList.head? = some '/' then some (place.2 ++ fragment)
  else place.1.document.anchor? fragment

def ifThere (place : Source × String) : Option (Source × String) :=
  if (place.1.root.at? place.2).isSome then some place else none

/-- The place that a reference means inside `base`; the document that it names as a whole is not
looked into. -/
def place? (set : Set) (reference : String) (base : Source) : Option (Source × String) :=
  let (uri, fragment) := Identifier.split reference
  let located := if uri.isEmpty then some (base, "") else set.locate? uri base
  located.bind fun place =>
    ((pointerOf? place fragment).bind fun pointer => ifThere (place.1, pointer)) <|>
      if uri.isEmpty then (Table.find? reference set.documents).map fun s => (s, "") else none

theorem map_place_targetAt? (s : Source) (pointer : String) :
    (targetAt? s pointer).map Target.place = ifThere (s, pointer) := by
  unfold targetAt? ifThere
  split
  · next v h =>
      have hthere : (s.root.at? pointer).isSome = true := by rw [h]; rfl
      exact (if_pos hthere).symm
  · next h =>
      have hthere : ¬ (s.root.at? pointer).isSome = true := by rw [h]; nofun
      exact (if_neg hthere).symm

theorem map_place_targetOf? (place : Source × String) (fragment : String) :
    (targetOf? place fragment).map Target.place =
      (pointerOf? place fragment).bind fun pointer => ifThere (place.1, pointer) := by
  unfold targetOf? pointerOf?
  dsimp only
  split
  · exact map_place_targetAt? _ _
  · split
    · exact map_place_targetAt? _ _
    · cases place.1.document.anchor? fragment with
      | none => rfl
      | some pointer => exact map_place_targetAt? _ _

/-- **The place that a reference means is that of its target.** -/
theorem map_place_target? (set : Set) (r : String) (s : Source) :
    (set.target? r s).map Target.place = set.place? r s := by
  unfold target? place?
  rcases Identifier.split r with ⟨uri, fragment⟩
  dsimp only
  split
  · rw [Option.bind_some, ← map_place_targetOf?]
    cases htarget : targetOf? (s, "") fragment with
    | some t => rfl
    | none =>
        cases Table.find? r set.documents with
        | none => rfl
        | some d => exact map_place_targetAt? d ""
  · cases set.locate? uri s with
    | none => rfl
    | some place =>
        simp only [Option.bind_some, ← map_place_targetOf?]
        cases targetOf? place fragment <;> rfl

/-- **Where a reference means a place, there is a schema**, and it is that of the target. -/
theorem exists_target_of_place? {set : Set} {r : String} {s : Source} {place : Source × String}
    (h : set.place? r s = some place) :
    ∃ t, set.resolve r s = .ok t ∧ t.place = place ∧ place.1.root.at? place.2 = some t.schema := by
  rw [← map_place_target?] at h
  obtain ⟨t, ht, rfl⟩ := Option.map_eq_some_iff.mp h
  refine ⟨t, ?_, rfl, t.found⟩
  unfold resolve
  rw [ht]

theorem exists_target_of_pointer {set : Set} {r pointer : String} {s : Source} {v : Json}
    (hsplit : Identifier.split r = ("", pointer)) (hslash : pointer.toList.head? = some '/')
    (hat : s.root.at? pointer = some v) :
    ∃ t, set.resolve r s = .ok t ∧ t.source = s ∧ t.pointer = pointer ∧ t.schema = v := by
  have hnonempty : pointer.isEmpty = false := by
    cases hempty : pointer.isEmpty with
    | false => rfl
    | true =>
        rw [String.isEmpty_iff.mp hempty] at hslash
        cases hslash
  have hplace : set.place? r s = some (s, pointer) := by
    unfold place? pointerOf? ifThere
    simp [hsplit, hnonempty, hslash, hat]
  obtain ⟨t, ht, heq, hfound⟩ := exists_target_of_place? hplace
  obtain ⟨hsource, hpointer⟩ := Prod.mk.inj heq
  exact ⟨t, ht, hsource, hpointer, Option.some.inj (hfound.symm.trans hat)⟩

end Set

end ReplySchema.Schema

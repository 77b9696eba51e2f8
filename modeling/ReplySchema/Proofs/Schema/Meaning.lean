import ReplySchema.Proofs.Schema.Merging

/-! # What references mean, whatever the origins

A reference means a document and a pointer into it.  Where the document stands (its origin) tells
targets apart, but it has no part in the search.  So the search can be described by what is known
under which name (`Known`), and for a set that is merged from stores that is a matter of the list
of their documents (`known_ofStores`).

`map_meaning_target?` says that the description is right.  Of all the names one decides where a
reference leads (`decisive?`), and what the others mean does not matter (`meaning?_congr`).
-/

set_option autoImplicit false

namespace ReplySchema.Schema

/-- A document and a pointer into it. -/
abbrev Meaning := Document × String

/-- What a target is, wherever its document stands. -/
def Target.meaning (t : Target) : Meaning := (t.source.document, t.pointer)

def Document.meaningAt? (d : Document) (pointer : String) : Option Meaning :=
  (d.root.at? pointer).map fun _ => (d, pointer)

def Meaning.fragment? (place : Meaning) (fragment : String) : Option Meaning :=
  if fragment.isEmpty then place.1.meaningAt? place.2
  else if fragment.toList.head? = some '/' then place.1.meaningAt? (place.2 ++ fragment)
  else (place.1.anchor? fragment).bind place.1.meaningAt?

/-- What is known under which name. -/
structure Known where
  document : String → Option Document
  embedded : String → Option Meaning

namespace Known

/-- The place of a name: the root of a document, or an embedded schema. -/
def lookup? (known : Known) (x : String) : Option Meaning :=
  (known.document x).map (fun d => (d, "")) <|> known.embedded x

/-- The place of a name inside a document, which knows its own identifier. -/
def answer? (known : Known) (base : Document) (x : String) : Option Meaning :=
  known.lookup? x <|> if base.id = some x then some (base, "") else none

/-- The names that an identifier inside a document is looked up by. -/
def names (uri : String) (base : Document) : List String :=
  [Identifier.join base.id uri, Identifier.canonical uri]

def locate? (known : Known) (uri : String) (base : Document) : Option Meaning :=
  (names uri base).findSome? (known.answer? base)

/-- The name that decides where a reference leads, unless it stays in its document. -/
def decisive? (known : Known) (reference : String) (base : Document) : Option String :=
  let uri := (Identifier.split reference).1
  if uri.isEmpty then none else (names uri base).find? fun x => (known.answer? base x).isSome

def meaning? (known : Known) (reference : String) (base : Document) : Option Meaning :=
  let (uri, fragment) := Identifier.split reference
  if uri.isEmpty then
    Meaning.fragment? (base, "") fragment <|>
      (known.document reference).bind (·.meaningAt? "")
  else (known.locate? uri base).bind (·.fragment? fragment)

/-- What documents make known; of several under one name the last counts. -/
def ofDocuments (documents : List Document) : Known where
  document x := documents.reverse.find? fun d => decide (d.id = some x)
  embedded x := documents.reverse.findSome? fun d => (d.embeddedAt? x).map fun p => (d, p)

theorem locate?_eq_decisive? {known : Known} {reference : String} {base : Document}
    (h : ¬ (Identifier.split reference).1.isEmpty) :
    known.locate? (Identifier.split reference).1 base =
      (known.decisive? reference base).bind (known.answer? base) := by
  have hfirst : ∀ xs : List String, xs.findSome? (known.answer? base) =
      (xs.find? fun x => (known.answer? base x).isSome).bind (known.answer? base) := by
    intro xs
    induction xs with
    | nil => rfl
    | cons x rest ih =>
        rw [List.findSome?_cons, List.find?_cons]
        cases hx : known.answer? base x with
        | none => exact ih
        | some place => exact hx.symm
  unfold locate? decisive?
  dsimp only
  rw [if_neg h, hfirst]

/-- **A reference means the same** where the same documents and the same names are known, and the
name that decides means the same. -/
theorem meaning?_congr {known known' : Known} {reference : String} {base : Document}
    (hdocument : ∀ x, known'.document x = known.document x)
    (hknown : ∀ x, (known'.lookup? x).isSome = (known.lookup? x).isSome)
    (hdecisive : ∀ x, known.decisive? reference base = some x →
      known'.lookup? x = known.lookup? x) :
    known'.meaning? reference base = known.meaning? reference base := by
  have hsome : ∀ x, (known'.answer? base x).isSome = (known.answer? base x).isSome := by
    intro x
    unfold answer?
    simp only [Option.orElse_eq_orElse, Option.orElse_eq_or, Option.isSome_or, hknown]
  have hsame : known'.decisive? reference base = known.decisive? reference base := by
    unfold decisive?
    simp only [hsome]
  unfold meaning?
  by_cases huri : (Identifier.split reference).1.isEmpty
  · simp only [if_pos huri]
    rw [hdocument]
  · simp only [if_neg huri]
    rw [locate?_eq_decisive? huri, locate?_eq_decisive? huri, hsame]
    cases hx : known.decisive? reference base with
    | none => rfl
    | some x =>
        have hanswer : known'.answer? base x = known.answer? base x := by
          unfold answer?
          rw [hdecisive x hx]
        rw [Option.bind_some, Option.bind_some, hanswer]

end Known

namespace Set

def known (set : Set) : Known where
  document x := (Table.find? x set.documents).map Source.document
  embedded x := (Table.find? x set.embedded).map fun e => (e.1.document, e.2)

/-- **What a merged set knows is a matter of the documents.** -/
theorem known_ofStores (stores : List Store) (generation : Nat) :
    (ofStores stores generation).known = Known.ofDocuments (documentsOf stores) := by
  unfold known Known.ofDocuments
  simp only [find?_documents_eq, find?_embedded_eq]

theorem map_meaning_targetAt? (s : Source) (pointer : String) :
    (targetAt? s pointer).map Target.meaning = s.document.meaningAt? pointer := by
  unfold targetAt? Document.meaningAt?
  split
  · next v h =>
      rw [show s.document.root.at? pointer = some v from h]
      rfl
  · next h =>
      rw [show s.document.root.at? pointer = none from h]
      rfl

theorem map_meaning_targetOf? (place : Source × String) (fragment : String) :
    (targetOf? place fragment).map Target.meaning =
      Meaning.fragment? (place.1.document, place.2) fragment := by
  unfold targetOf? Meaning.fragment?
  dsimp only
  split
  · exact map_meaning_targetAt? _ _
  · split
    · exact map_meaning_targetAt? _ _
    · cases place.1.document.anchor? fragment with
      | none => rfl
      | some pointer => exact map_meaning_targetAt? _ _

theorem map_meaning_locate? (set : Set) (uri : String) (base : Source) :
    (set.locate? uri base).map (fun place => (place.1.document, place.2)) =
      set.known.locate? uri base.document := by
  unfold locate? Known.locate? Known.names
  rw [List.map_findSome?]
  refine congrArg (List.findSome? · _) (funext fun x => ?_)
  unfold Known.answer? Known.lookup? known
  dsimp only [Function.comp_apply]
  cases Table.find? x set.documents with
  | some s => rfl
  | none =>
      cases Table.find? x set.embedded with
      | some e => rfl
      | none =>
          by_cases hid : base.document.id = some x
          · rw [if_pos hid, if_pos (show base.id = some x from hid)]
            rfl
          · rw [if_neg hid, if_neg (show ¬ base.id = some x from hid)]
            rfl

/-- **The search without origins.** -/
theorem map_meaning_target? (set : Set) (reference : String) (base : Source) :
    (set.target? reference base).map Target.meaning =
      set.known.meaning? reference base.document := by
  unfold target? Known.meaning?
  rcases Identifier.split reference with ⟨uri, fragment⟩
  dsimp only
  split
  · rw [← map_meaning_targetOf? (base, "")]
    cases targetOf? (base, "") fragment with
    | some t => rfl
    | none =>
        unfold known
        dsimp only
        cases Table.find? reference set.documents with
        | none => rfl
        | some s => exact map_meaning_targetAt? s ""
  · rw [← map_meaning_locate?]
    cases set.locate? uri base with
    | none => rfl
    | some place => exact map_meaning_targetOf? place fragment

theorem map_meaning_resolve (set : Set) (reference : String) (base : Source) :
    (set.resolve reference base).toOption.map Target.meaning =
      set.known.meaning? reference base.document := by
  rw [← map_meaning_target?]
  unfold resolve
  cases set.target? reference base <;> rfl

end Set

end ReplySchema.Schema

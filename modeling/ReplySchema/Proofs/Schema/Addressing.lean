import ReplySchema.Proofs.Schema.Identifiers
import ReplySchema.Proofs.Schema.Order

/-! # Documents under their own identifiers

Schemas are offered to a store one after the other, and some are refused (`Store.offerAll`).  Every
document of the store is then found by its identifier, and by the `$id` that it declares, as far
as that is what the identifier was made from (`Store.Addresses`).

A document without an identifier takes a lone fragment for a place of its own, if it has one.  Only
then it looks for a shared document of that name (`documents_addressable`).
-/

set_option autoImplicit false

namespace ReplySchema.Schema

/-! ## §1  Offering schemas to a store -/

/-- The store after a registration, or as it was if that is refused. -/
def Store.offer (store : Store) (root : Json) : Store :=
  ((store.register root).toOption.map Prod.fst).getD store

def Store.offerAll (store : Store) (roots : List Json) : Store := roots.foldl offer store

/-- The `$id` that a document declares, without the blanks at its ends. -/
def Document.declared? (d : Document) : Option String :=
  ((d.root.get? "$id").bind Json.asString?).map Text.trim

theorem Document.declared?_of_sharedId? {root : Json} {x : String} (h : sharedId? root = some x) :
    ∃ id, (shared root).declared? = some id ∧ Text.trim id = id ∧ id ≠ "" ∧ id ≠ "#" ∧
      x = Identifier.canonical id := by
  obtain ⟨id, hid, h⟩ := Option.bind_eq_some_iff.mp h
  dsimp only at h
  split at h
  · cases h
  · rename_i hnot
    rw [Bool.or_eq_true, not_or, String.isEmpty_iff, beq_iff_eq] at hnot
    refine ⟨Text.trim id, ?_, Text.trim_trim id, hnot.1, hnot.2, (Option.some.inj h).symm⟩
    show ((root.get? "$id").bind Json.asString?).map Text.trim = _
    rw [hid]
    rfl

namespace Store

variable {store store' : Store} {root : Json} {d : Document}

/-- **What a registration does**, if it is not refused. -/
theorem register_eq_ok_iff : store.register root = .ok (store', d) ↔
    (Document.sharedId? root).isSome ∧
      Document.sharedId? root ∉ store.documents.map Document.id ∧
      store' = { documents := store.documents ++ [d] } ∧ d = Document.shared root := by
  constructor
  · intro h
    obtain ⟨d', hd', h⟩ := Result.bind_eq_ok.mp h
    unfold Document.ofShared? at hd'
    cases hx : Document.sharedId? root with
    | none =>
        rw [hx] at hd'
        cases hd'
    | some x =>
        rw [hx] at hd'
        obtain rfl := Except.ok.inj hd'
        dsimp only [Document.indexed] at h
        split at h
        · cases h
        · rename_i hother
          obtain ⟨rfl, rfl⟩ := Prod.mk.inj (Except.ok.inj h)
          refine ⟨rfl, ?_, rfl, ?_⟩
          · intro hmem
            obtain ⟨other, hmem, hid⟩ := List.mem_map.mp hmem
            exact hother (List.any_eq_true.mpr ⟨other, hmem, by simpa using hid⟩)
          · unfold Document.shared
            rw [hx]
            rfl
  · rintro ⟨hnamed, hnew, rfl, rfl⟩
    exact register_eq_ok hnamed hnew

theorem offer_of_ok (h : store.register root = .ok (store', d)) : store.offer root = store' := by
  unfold offer
  rw [h]
  rfl

theorem offer_of_error {fault : SchemaError} (h : store.register root = .error fault) :
    store.offer root = store := by
  unfold offer
  rw [h]
  rfl

/-- Whether the documents were registered under their own identifiers, which are different. -/
structure IsKeyed (store : Store) : Prop where
  distinct : (store.documents.map Document.id).Nodup
  registered : ∀ d ∈ store.documents, ∃ x, Document.sharedId? d.root = some x ∧ d.id = some x ∧
    d = Document.shared d.root

theorem IsKeyed.offer (h : store.IsKeyed) (root : Json) : (store.offer root).IsKeyed := by
  cases hregister : store.register root with
  | error fault =>
      rw [offer_of_error hregister]
      exact h
  | ok made =>
      obtain ⟨store', d⟩ := made
      rw [offer_of_ok hregister]
      obtain ⟨hnamed, hnew, rfl, rfl⟩ := register_eq_ok_iff.mp hregister
      constructor
      · rw [List.map_append, List.map_singleton, ← List.concat_eq_append, List.nodup_concat]
        exact ⟨hnew, h.distinct⟩
      · intro d hd
        rcases List.mem_append.mp hd with hd | hd
        · exact h.registered d hd
        · obtain rfl := List.mem_singleton.mp hd
          obtain ⟨x, hx⟩ := Option.isSome_iff_exists.mp hnamed
          exact ⟨x, hx, hx, rfl⟩

/-- **The documents of a store stand under their own identifiers**, whatever it was offered. -/
theorem IsKeyed.offerAll (h : store.IsKeyed) (roots : List Json) :
    (store.offerAll roots).IsKeyed := by
  induction roots generalizing store with
  | nil => exact h
  | cons root rest ih => exact ih (h.offer root)

theorem IsKeyed.empty : IsKeyed {} where
  distinct := List.nodup_nil
  registered := by
    intro d hd
    cases hd

theorem mem_offerAll (roots : List Json) (h : d ∈ store.documents) :
    d ∈ (store.offerAll roots).documents := by
  induction roots generalizing store with
  | nil => exact h
  | cons root rest ih =>
      refine ih ?_
      cases hregister : store.register root with
      | error fault => rwa [offer_of_error hregister]
      | ok made =>
          obtain ⟨store', d'⟩ := made
          rw [offer_of_ok hregister]
          obtain ⟨-, -, rfl, -⟩ := register_eq_ok_iff.mp hregister
          exact List.mem_append_left _ h

/-! ## §2  What leads to a document -/

theorem IsKeyed.get?_eq (h : store.IsKeyed) (hd : d ∈ store.documents) {x : String}
    (hx : d.id = some x) (hnormal : Identifier.canonical x = x) : store.get? x = some d := by
  have hdistinct : (store.documents.reverse.map Document.id).Nodup := by
    rw [List.map_reverse]
    exact List.nodup_reverse.mpr h.distinct
  have hfind := (Set.find?_eq_some_iff_of_nodup hdistinct).mpr ⟨List.mem_reverse.mpr hd, hx⟩
  rw [List.reverse_reverse] at hfind
  unfold get?
  rw [hnormal, ← hfind]
  exact congrArg (List.find? · store.documents) (funext fun other => beq_eq_decide _ _)

theorem IsKeyed.known_document (h : store.IsKeyed) (hd : d ∈ store.documents) {x : String}
    (hx : d.id = some x) (generation : Nat) :
    (Set.ofStores [store] generation).known.document x = some d := by
  rw [show (Set.ofStores [store] generation).known = _ from known_single store.documents generation]
  exact (Set.find?_eq_some_iff_of_nodup h.distinct).mpr ⟨hd, hx⟩

end Store

theorem Known.meaning?_of_join {known : Known} {reference : String} {base d : Document}
    (huri : (Identifier.split reference).1 ≠ "")
    (hd : known.document (Identifier.join base.id (Identifier.split reference).1) = some d) :
    known.meaning? reference base =
      Meaning.fragment? (d, "") (Identifier.split reference).2 := by
  have hlookup : known.lookup? (Identifier.join base.id (Identifier.split reference).1) =
      some (d, "") := by
    unfold lookup?
    rw [hd]
    rfl
  have hlocate : known.locate? (Identifier.split reference).1 base = some (d, "") := by
    unfold locate? names answer?
    rw [List.findSome?_cons, hlookup]
    rfl
  unfold meaning?
  dsimp only
  rw [if_neg (by rwa [String.isEmpty_iff]), hlocate, Option.bind_some]

/-- How the document `d` of a store is reached by its identifier `x`, where `id` is declared. -/
structure Store.Addresses (store : Store) (generation : Nat) (d : Document) (id x : String) :
    Prop where
  /-- The identifier is the normal form of what is declared. -/
  normal : x = Identifier.canonical id
  /-- Something is left of it, if there is more to it than hash marks. -/
  nonempty : (∃ c ∈ id.toList, c ≠ '#') → x ≠ ""
  /-- The store finds the document. -/
  found : Identifier.IsClean id → Identifier.ReadsBack id →
    store.contains x = true ∧ store.get? x = some d
  /-- What is declared leads to the document as a whole, if it has no fragment. -/
  whole : ∀ base : Source, base.id = none → Identifier.IsClean id → (Identifier.split id).2 = "" →
    ((Set.ofStores [store] generation).resolve id base).toOption.map Target.meaning = some (d, "")
  /-- A lone fragment leads to the document if it leads nowhere inside the base. -/
  loneFragment : ∀ base : Source, base.id = none → id.toList.head? = some '#' →
    id.toList.getLast? ≠ some '#' →
      ((Set.ofStores [store] generation).resolve id base).toOption.map Target.meaning =
        (Meaning.fragment? (base.document, "") (Identifier.split id).2 <|> some (d, ""))
  /-- What stands behind the identifier is a fragment of the document. -/
  fragment : ∀ (base : Source) (reference : String), base.id = none →
    (Identifier.split reference).1 ≠ "" → Identifier.join none (Identifier.split reference).1 = x →
      ((Set.ofStores [store] generation).resolve reference base).toOption.map Target.meaning =
        Meaning.fragment? (d, "") (Identifier.split reference).2

/-- **Every document of a store is reached by its own identifier.** -/
theorem Store.IsKeyed.addresses {store : Store} {d : Document} {x : String} (h : store.IsKeyed)
    (hd : d ∈ store.documents) (hx : d.id = some x) (generation : Nat) :
    ∃ id, d.declared? = some id ∧ store.Addresses generation d id x := by
  obtain ⟨y, hshared, hy, hroot⟩ := h.registered d hd
  obtain rfl := Option.some.inj (hx.symm.trans hy)
  obtain ⟨id, hid, htrim, hempty, hhash, hcanonical⟩ := Document.declared?_of_sharedId? hshared
  rw [← hroot] at hid
  have hknown := h.known_document hd hx generation
  -- A reference whose identifier part joins to `x` means the fragment in the document.
  have hfragment : ∀ (base : Source) (reference : String), base.id = none →
      (Identifier.split reference).1 ≠ "" →
      Identifier.join none (Identifier.split reference).1 = x →
      ((Set.ofStores [store] generation).resolve reference base).toOption.map Target.meaning =
        Meaning.fragment? (d, "") (Identifier.split reference).2 := by
    intro base reference hbase huri hjoin
    rw [Set.map_meaning_resolve]
    refine Known.meaning?_of_join huri ?_
    rw [show base.document.id = none from hbase, hjoin]
    exact hknown
  refine ⟨id, hid, hcanonical, ?_, ?_, ?_, ?_, hfragment⟩
  · rintro ⟨c, hc, hne⟩ hxempty
    rw [hcanonical] at hxempty
    refine hne (Identifier.eq_hash_of_canonical_eq_empty hxempty ?_)
    rwa [htrim]
  · intro hclean hreads
    have hget := h.get?_eq hd hx (by
      rw [hcanonical]
      exact Identifier.canonical_canonical hclean hreads)
    refine ⟨?_, hget⟩
    unfold contains
    rw [hget]
    rfl
  · intro base hbase hclean hnofragment
    have hjoin := Identifier.join_of_split htrim hclean hnofragment
    rw [hfragment base id hbase (Identifier.split_ne_empty hempty hhash hnofragment)
      (hjoin.trans hcanonical.symm), hnofragment]
    rfl
  · intro base hbase hhead hlast
    have hxid : x = id := hcanonical.trans (Identifier.canonical_of_hash htrim hhead hlast)
    rw [hxid] at hknown
    rw [Set.map_meaning_resolve]
    unfold Known.meaning?
    dsimp only
    rw [if_pos (by rw [Identifier.split_of_hash hhead]; rfl), hknown]
    rfl

/-! ## §3  Documents after registrations -/

/-- **Registered documents are reached by their own identifiers**: a registration that is refused
could as well be left out, all identifiers are different, and a document that was registered at
some time is in the store and is reached there. -/
theorem documents_addressable (roots : List Json) (generation : Nat) :
    let store := Store.offerAll {} roots
    (∀ front back root fault, roots = front ++ root :: back →
      (Store.offerAll {} front).register root = .error fault →
        (Store.offerAll {} front).offer root = Store.offerAll {} front ∧
          store = Store.offerAll {} (front ++ back)) ∧
    (store.documents.map Document.id).Nodup ∧
    ∀ front back root store' d, roots = front ++ root :: back →
      (Store.offerAll {} front).register root = .ok (store', d) →
        d ∈ store.documents ∧ ∃ id x, d.declared? = some id ∧ d.id = some x ∧
          store.Addresses generation d id x := by
  intro store
  have hkeyed : store.IsKeyed := Store.IsKeyed.empty.offerAll roots
  have hstore : ∀ front back root, roots = front ++ root :: back →
      store = ((Store.offerAll {} front).offer root).offerAll back := by
    intro front back root hroots
    show Store.offerAll {} roots = _
    rw [hroots]
    unfold Store.offerAll
    rw [List.foldl_append, List.foldl_cons]
  refine ⟨?_, hkeyed.distinct, ?_⟩
  · intro front back root fault hroots hregister
    have hoffer := Store.offer_of_error hregister
    refine ⟨hoffer, ?_⟩
    rw [hstore front back root hroots, hoffer]
    unfold Store.offerAll
    rw [List.foldl_append]
  · intro front back root store' d hroots hregister
    have hd : d ∈ store.documents := by
      rw [hstore front back root hroots, Store.offer_of_ok hregister]
      obtain ⟨-, -, rfl, -⟩ := Store.register_eq_ok_iff.mp hregister
      exact Store.mem_offerAll back (List.mem_append_right _ (List.mem_singleton_self d))
    obtain ⟨x, -, hx, -⟩ := hkeyed.registered d hd
    obtain ⟨id, hid, haddresses⟩ := hkeyed.addresses hd hx generation
    exact ⟨hd, id, x, hid, hx, haddresses⟩

def offered : List Json :=
  [.object [("$id", .string "urn:a#")], .null, .object [("$id", .string " test# ")]]

/-- The one without an identifier is refused; the others are found by the store and lead to
themselves. -/
theorem documents_addressable_offered :
    let store := Store.offerAll {} offered
    let d := Document.shared (.object [("$id", .string "urn:a#")])
    let d' := Document.shared (.object [("$id", .string " test# ")])
    store = Store.offerAll {} [d.root, d'.root] ∧ store.get? "urn:a" = some d ∧
      store.get? "test" = some d' ∧
      ((Set.ofStores [store] 1).resolve "urn:a#" (.ofInline .null)).toOption.map Target.meaning =
        some (d, "") ∧
      ((Set.ofStores [store] 1).resolve "test#" (.ofInline .null)).toOption.map Target.meaning =
        some (d', "") := by
  obtain ⟨hrefused, -, hregistered⟩ := documents_addressable offered 1
  intro store d d'
  obtain ⟨-, hstore⟩ := hrefused [d.root] [d'.root] .null .missingId rfl rfl
  obtain ⟨-, id, x, hid, hx, haddresses⟩ := hregistered [] [.null, d'.root] d.root _ d rfl
    (Store.register_eq_ok_iff.mpr ⟨by decide +kernel, by decide +kernel, rfl, rfl⟩)
  obtain ⟨-, id', x', hid', hx', haddresses'⟩ := hregistered [d.root, .null] [] d'.root _ d' rfl
    (Store.register_eq_ok_iff.mpr ⟨by decide +kernel, by decide +kernel, rfl, rfl⟩)
  obtain rfl := Option.some.inj (hid.symm.trans (by decide +kernel : _ = some "urn:a#"))
  obtain rfl := Option.some.inj (hx.symm.trans (by decide +kernel : _ = some "urn:a"))
  obtain rfl := Option.some.inj (hid'.symm.trans (by decide +kernel : _ = some "test#"))
  obtain rfl := Option.some.inj (hx'.symm.trans (by decide +kernel : _ = some "test"))
  have hclean : Identifier.IsClean "urn:a#" := .inl (by decide +kernel)
  have hclean' : Identifier.IsClean "test#" := .inr (by decide +kernel)
  have hreads : Identifier.ReadsBack "urn:a#" := by
    intro u hu
    obtain rfl := Option.some.inj (hu.symm.trans (by decide +kernel : _ =
      some { scheme := "urn", authority := none, path := .whole "a", query := none,
             fragment := none }))
    decide +kernel
  have hreads' : Identifier.ReadsBack "test#" := by
    intro u hu
    cases hu.symm.trans (by decide +kernel : Uri.read? (Identifier.bare "test#") = none)
  exact ⟨hstore, (haddresses.found hclean hreads).2, (haddresses'.found hclean' hreads').2,
    haddresses.whole _ (by decide +kernel) hclean (by decide +kernel),
    haddresses'.whole _ (by decide +kernel) hclean' (by decide +kernel)⟩

/-- **A document is not always reached by its identifier**: an anchor of the base can be of the
same name. -/
theorem not_documents_addressable :
    ¬ ∀ (roots front back : List Json) (root : Json) (store' : Store) (d : Document)
        (generation : Nat), roots = front ++ root :: back →
      (Store.offerAll {} front).register root = .ok (store', d) →
        let store := Store.offerAll {} roots
        ∃ id x, d.declared? = some id ∧ d.id = some x ∧ x ≠ "" ∧
          (Identifier.ReadsBack id →
            store.contains x = true ∧ store.get? x = some d ∧ ∀ base : Source, base.id = none →
              ((Set.ofStores [store] generation).resolve id base).toOption.map Target.meaning =
                some (d, "")) := by
  intro hall
  let root : Json := .object [("$id", .string "#part"), ("type", .string "integer")]
  let base : Source := .ofInline (.object [("definitions", .object
    [("p", .object [("$anchor", .string "part"), ("type", .string "string")])])])
  obtain ⟨id, x, hid, -, -, hreached⟩ := hall [root] [] [] root _ (Document.shared root) 1 rfl
    (Store.register_eq_ok_iff.mpr ⟨by decide +kernel, by decide +kernel, rfl, rfl⟩)
  obtain rfl := Option.some.inj (hid.symm.trans (by decide +kernel : _ = some "#part"))
  have hreads : Identifier.ReadsBack "#part" := by
    intro u hu
    cases hu.symm.trans (by decide +kernel : Uri.read? (Identifier.bare "#part") = none)
  have hroot := (hreached hreads).2.2 base (by decide +kernel)
  have hpointers := congrArg (Option.map fun place : Meaning => place.2) hroot
  exact absurd hpointers (by decide +kernel)

end ReplySchema.Schema

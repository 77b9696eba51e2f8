import Mathlib.Data.List.Nodup
import ReplySchema.Proofs.Table
import ReplySchema.Schema.Set

/-! # What a merged set knows by an identifier

A set is merged from stores, the outermost first.  It knows the documents of all stores and
the schemas embedded in them, and of two entries with one identifier it knows the last: that
of the inner store, and inside one store that of the later document.

Where a document stands (its origin) does not matter for that, so the answers are stated
about the documents alone (`find?_documents_eq`, `find?_embedded_eq`).

A target is known by the origin of its document, so two documents of one origin have to be the
same.  A merged set keeps to that: the documents that it can lead into are the base and documents
of the stores, and the origin of such a document is its place (`isIdentified_ofStores`).
-/

set_option autoImplicit false

namespace ReplySchema.Schema

/-- The pointer to the schema that a document embeds under an identifier; of several, the last. -/
def Document.embeddedAt? (d : Document) (id : String) : Option String :=
  (d.index.embedded.reverse.find? fun e => decide (e.1 = id)).map (·.2)

namespace Set

def documentsOf (stores : List Store) : List Document := stores.flatMap Store.documents

/-! ## §1  Origins -/

/-- Whether the documents that can be met are told apart by their origins. -/
def IsIdentified (set : Set) (base : Source) : Prop :=
  ∀ s ∈ set.sources base, ∀ s' ∈ set.sources base, s.origin = s'.origin → s = s'

/-- Whether all documents of a set are among the given ones. -/
structure IsFrom (set : Set) (given : List Source) : Prop where
  documents : ∀ e ∈ set.documents, e.2 ∈ given
  embedded : ∀ e ∈ set.embedded, e.2.1 ∈ given

theorem IsFrom.addSource {set : Set} {given : List Source} (h : set.IsFrom given) {s : Source}
    (hs : s ∈ given) : (set.addSource s).IsFrom given := by
  constructor
  · intro e he
    unfold Set.addSource at he
    dsimp only at he
    split at he
    · rcases Table.mem_insert he with rfl | he
      · exact hs
      · exact h.documents e he
    · exact h.documents e he
  · intro e he
    rcases Table.mem_insertAll he with he | he
    · obtain ⟨p, -, rfl⟩ := List.mem_map.mp he
      exact hs
    · exact h.embedded e he

theorem isFrom_ofStores (stores : List Store) (generation : Nat) :
    (ofStores stores generation).IsFrom (sourcesOf stores) := by
  have hfold : ∀ (given : List Source) (set : Set), set.IsFrom (sourcesOf stores) →
      (∀ s ∈ given, s ∈ sourcesOf stores) →
      (given.foldl Set.addSource set).IsFrom (sourcesOf stores) := by
    intro given
    induction given with
    | nil => exact fun _ hset _ => hset
    | cons s rest ih =>
        intro set hset hgiven
        exact ih _ (hset.addSource (hgiven s List.mem_cons_self)) fun t ht =>
          hgiven t (List.mem_cons_of_mem _ ht)
  exact hfold _ _ ⟨fun _ h => by (cases h), fun _ h => by (cases h)⟩ fun _ h => h

theorem origin_sourcesOf {stores : List Store} {s : Source} (h : s ∈ sourcesOf stores) :
    ∃ i place store, s.origin = .shared i place ∧ stores[i]? = some store ∧
      store.documents[place]? = some s.document := by
  obtain ⟨⟨store, i⟩, hstore, h⟩ := List.mem_flatMap.mp h
  obtain ⟨⟨d, place⟩, hd, rfl⟩ := List.mem_map.mp h
  exact ⟨i, place, store, rfl, List.mk_mem_zipIdx_iff_getElem?.mp hstore,
    List.mk_mem_zipIdx_iff_getElem?.mp hd⟩

theorem eq_of_origin_eq {stores : List Store} {s s' : Source} (h : s ∈ sourcesOf stores)
    (h' : s' ∈ sourcesOf stores) (heq : s.origin = s'.origin) : s = s' := by
  obtain ⟨i, place, store, horigin, hstore, hd⟩ := origin_sourcesOf h
  obtain ⟨i', place', store', horigin', hstore', hd'⟩ := origin_sourcesOf h'
  rw [horigin, horigin'] at heq
  cases heq
  rw [hstore] at hstore'
  cases hstore'
  rw [hd] at hd'
  obtain ⟨origin, document⟩ := s
  cases hd'
  cases horigin
  obtain ⟨origin', document'⟩ := s'
  cases horigin'
  rfl

/-- **A set that is merged from stores tells documents apart by their origins**, seen from a
document of its own or from a schema on a route. -/
theorem isIdentified_ofStores {stores : List Store} {generation : Nat} {base : Source}
    (hbase : base.origin = .inline ∨ base ∈ sourcesOf stores) :
    (ofStores stores generation).IsIdentified base := by
  have hfrom := isFrom_ofStores stores generation
  have hsource : ∀ s ∈ (ofStores stores generation).sources base,
      s = base ∨ s ∈ sourcesOf stores := by
    intro s hs
    rcases List.mem_cons.mp hs with rfl | hs
    · exact Or.inl rfl
    · rcases List.mem_append.mp hs with hs | hs
      · obtain ⟨e, he, rfl⟩ := List.mem_map.mp hs
        exact Or.inr (hfrom.documents e he)
      · obtain ⟨e, he, rfl⟩ := List.mem_map.mp hs
        exact Or.inr (hfrom.embedded e he)
  have hinline : base ∉ sourcesOf stores → ∀ s ∈ sourcesOf stores, s.origin ≠ base.origin := by
    intro hnot s hs heq
    obtain ⟨i, place, store, horigin, -⟩ := origin_sourcesOf hs
    rw [hbase.resolve_right hnot, horigin] at heq
    cases heq
  intro s hs s' hs' heq
  by_cases hmem : base ∈ sourcesOf stores
  · have hin : s ∈ sourcesOf stores := (hsource s hs).elim (fun h => h ▸ hmem) id
    have hin' : s' ∈ sourcesOf stores := (hsource s' hs').elim (fun h => h ▸ hmem) id
    exact eq_of_origin_eq hin hin' heq
  · rcases hsource s hs with rfl | hin <;> rcases hsource s' hs' with rfl | hin'
    · rfl
    · exact absurd heq.symm (hinline hmem s' hin')
    · exact absurd heq (hinline hmem s hin)
    · exact eq_of_origin_eq hin hin' heq

/-! ## §2  Sources and documents -/

theorem map_document_sourcesOf (stores : List Store) :
    (sourcesOf stores).map Source.document = documentsOf stores := by
  have hstore : ∀ p : Store × Nat,
      (p.1.documents.zipIdx.map fun q => (⟨.shared p.2 q.2, q.1⟩ : Source)).map Source.document =
        p.1.documents := by
    intro p
    rw [List.map_map]
    exact List.zipIdx_map_fst 0 p.1.documents
  unfold sourcesOf documentsOf
  rw [List.map_flatMap]
  simp only [hstore]
  rw [← List.flatMap_map (f := Prod.fst) (g := Store.documents), List.zipIdx_map_fst]

theorem exists_source_iff {stores : List Store} {document : Document} :
    (∃ s ∈ sourcesOf stores, s.document = document) ↔
      ∃ store ∈ stores, document ∈ store.documents := by
  rw [← List.mem_map, map_document_sourcesOf, documentsOf, List.mem_flatMap]

/-! ## §3  Documents -/

theorem find?_eq_some_iff_of_nodup {documents : List Document}
    (h : (documents.map Document.id).Nodup) {d : Document} {x : String} :
    documents.reverse.find? (fun d => decide (d.id = some x)) = some d ↔
      d ∈ documents ∧ d.id = some x := by
  constructor
  · intro hfind
    exact ⟨List.mem_reverse.mp (List.mem_of_find?_eq_some hfind), by simpa using List.find?_some hfind⟩
  · rintro ⟨hd, hx⟩
    cases hfind : documents.reverse.find? fun d => decide (d.id = some x) with
    | none =>
        rw [List.find?_eq_none] at hfind
        exact absurd (decide_eq_true hx) (hfind d (List.mem_reverse.mpr hd))
    | some other =>
        have hother : other ∈ documents := List.mem_reverse.mp (List.mem_of_find?_eq_some hfind)
        have hid : other.id = some x := by simpa using List.find?_some hfind
        rw [List.inj_on_of_nodup_map h hother hd (hid.trans hx.symm)]

/-- The last source with an identifier is the one that is known by it. -/
theorem find?_documents_foldl (id : String) : ∀ (given : List Source) (set : Set),
    Table.find? id (given.foldl addSource set).documents =
      ((given.reverse.find? fun s => decide (s.id = some id)) <|> Table.find? id set.documents)
  | [], _ => rfl
  | s :: rest, set => by
      have hadd : Table.find? id (set.addSource s).documents =
          if s.id = some id then some s else Table.find? id set.documents := by
        unfold addSource
        cases hid : s.id with
        | none => rw [if_neg nofun]
        | some other => simp [Table.find?_insert]
      rw [List.foldl_cons, find?_documents_foldl id rest, hadd, List.reverse_cons,
        List.find?_append]
      cases rest.reverse.find? fun s => decide (s.id = some id) with
      | some found => rfl
      | none => by_cases hs : s.id = some id <;> simp [hs]

/-- **Of two documents with one identifier, the inner one is known by it.** -/
theorem find?_documents_ofStores (stores : List Store) (generation : Nat) (id : String) :
    Table.find? id (ofStores stores generation).documents =
      (sourcesOf stores).reverse.find? fun s => decide (s.id = some id) := by
  rw [ofStores, find?_documents_foldl]
  cases (sourcesOf stores).reverse.find? fun s => decide (s.id = some id) <;> rfl

theorem find?_documents_eq (stores : List Store) (generation : Nat) (id : String) :
    (Table.find? id (ofStores stores generation).documents).map Source.document =
      (documentsOf stores).reverse.find? fun d => decide (d.id = some id) := by
  rw [find?_documents_ofStores, ← map_document_sourcesOf, ← List.map_reverse, List.find?_map]
  rfl

/-! ## §4  Embedded schemas -/

/-- The last source that embeds an identifier is the one that is known by it. -/
theorem find?_embedded_foldl (id : String) : ∀ (given : List Source) (set : Set),
    Table.find? id (given.foldl addSource set).embedded =
      ((given.reverse.findSome? fun s => (s.document.embeddedAt? id).map fun p => (s, p)) <|>
        Table.find? id set.embedded)
  | [], _ => rfl
  | s :: rest, set => by
      have hadd : Table.find? id (set.addSource s).embedded =
          ((s.document.embeddedAt? id).map (fun p => (s, p)) <|>
            Table.find? id set.embedded) := by
        unfold addSource Document.embeddedAt?
        rw [Table.find?_insertAll, ← List.map_reverse, List.find?_map, Option.map_map,
          Option.map_map]
        rfl
      rw [List.foldl_cons, find?_embedded_foldl id rest, hadd, List.reverse_cons,
        List.findSome?_append, List.findSome?_singleton]
      cases rest.reverse.findSome? fun s => (s.document.embeddedAt? id).map fun p => (s, p) <;> rfl

theorem find?_embedded_eq (stores : List Store) (generation : Nat) (id : String) :
    (Table.find? id (ofStores stores generation).embedded).map (fun e => (e.1.document, e.2)) =
      (documentsOf stores).reverse.findSome? fun d => (d.embeddedAt? id).map fun p => (d, p) := by
  have hnone : ∀ o : Option (Source × String), (o <|> Table.find? id ([] : Table String _)) = o := by
    intro o
    cases o <;> rfl
  rw [ofStores, find?_embedded_foldl, hnone, List.map_findSome?, ← map_document_sourcesOf,
    ← List.map_reverse, List.findSome?_map]
  congr 1
  funext s
  rw [Function.comp_apply, Function.comp_apply, Option.map_map]
  rfl

end Set

end ReplySchema.Schema

import ReplySchema.Proofs.Result
import ReplySchema.Proofs.Schema.Meaning

/-! # Schemas in another order

Documents of different identifiers can be registered in any order.  The set that a store gives
then knows the same documents, so it has the same fingerprint, but it does not know the same
embedded schemas: of two documents that embed one identifier the last one counts
(`IsContested`).

* `registerAll_perm`: a reference means the same in every order, unless the name that decides it is
  contested; and a contested name means something else in some other order.
* `not_registerAll_perm`: so a reference can mean different schemas.
-/

set_option autoImplicit false

namespace ReplySchema.Schema

/-! ## §1  Registering one after the other -/

/-- The store after schemas are registered, or the first refusal. -/
def Store.registerAll (store : Store) (roots : List Json) : Except SchemaError Store :=
  roots.foldlM (fun store root => (store.register root).map Prod.fst) store

def Document.shared (root : Json) : Document := indexed (sharedId? root) root

/-- Whether schemas have identifiers, and different ones. -/
structure AreNamed (roots : List Json) : Prop where
  named : ∀ root ∈ roots, (Document.sharedId? root).isSome
  distinct : (roots.map Document.sharedId?).Nodup

theorem AreNamed.perm {roots roots' : List Json} (h : AreNamed roots) (hperm : roots.Perm roots') :
    AreNamed roots' where
  named root hroot := h.named root (hperm.mem_iff.mpr hroot)
  distinct := (hperm.map Document.sharedId?).nodup_iff.mp h.distinct

theorem AreNamed.nodup_id {roots : List Json} (h : AreNamed roots) :
    ((roots.map Document.shared).map Document.id).Nodup := by
  rw [List.map_map]
  exact h.distinct

theorem Store.register_eq_ok {store : Store} {root : Json} (h : (Document.sharedId? root).isSome)
    (hnew : Document.sharedId? root ∉ store.documents.map Document.id) :
    store.register root =
      .ok ({ documents := store.documents ++ [Document.shared root] }, Document.shared root) := by
  obtain ⟨x, hx⟩ := Option.isSome_iff_exists.mp h
  have hshared : Document.ofShared? root = .ok (Document.shared root) := by
    unfold Document.ofShared? Document.shared
    rw [hx]
  have hid : (Document.shared root).id = some x := hx
  have hother : (store.documents.any fun other => other.id == some x) = false := by
    rw [List.any_eq_false]
    intro other hother heq
    rw [hx] at hnew
    exact hnew (List.mem_map.mpr ⟨other, hother, by simpa using heq⟩)
  unfold register
  rw [hshared]
  dsimp only [bind, Except.bind]
  rw [hid]
  simp only [hother, Bool.false_eq_true, if_false]

theorem Store.registerAll_eq_ok : ∀ (roots : List Json) (store : Store),
    (∀ root ∈ roots, (Document.sharedId? root).isSome) →
    (store.documents.map Document.id ++ roots.map Document.sharedId?).Nodup →
    store.registerAll roots = .ok { documents := store.documents ++ roots.map Document.shared }
  | [], store, _, _ => by
      rw [List.map_nil, List.append_nil]
      rfl
  | root :: rest, store, hnamed, hnodup => by
      have hnew : Document.sharedId? root ∉ store.documents.map Document.id := by
        intro hmem
        exact (List.nodup_append.mp hnodup).2.2 _ hmem _ List.mem_cons_self rfl
      have hregister := register_eq_ok (hnamed root List.mem_cons_self) hnew
      have hrest := registerAll_eq_ok rest { documents := store.documents ++ [Document.shared root] }
        (fun r hr => hnamed r (List.mem_cons_of_mem _ hr)) (by
          rw [List.map_append, List.append_assoc]
          exact hnodup)
      unfold registerAll at hrest ⊢
      rw [List.foldlM_cons, hregister]
      show List.foldlM _ _ rest = _
      rw [hrest, List.append_assoc]
      rfl

/-- **Schemas of different identifiers are all registered**, in whatever order. -/
theorem AreNamed.registerAll {roots : List Json} (h : AreNamed roots) :
    Store.registerAll {} roots = .ok { documents := roots.map Document.shared } :=
  Store.registerAll_eq_ok roots {} h.named h.distinct

/-! ## §2  Fingerprints -/

theorem mergeSort_eq_of_perm {α : Type} {xs ys : List (String × α)} (hperm : xs.Perm ys)
    (hkeys : (xs.map Prod.fst).Nodup) :
    (xs.mergeSort fun a b => decide (a.1 ≤ b.1)) = ys.mergeSort fun a b => decide (a.1 ≤ b.1) := by
  have hsorted : ∀ zs : List (String × α),
      (zs.mergeSort fun a b => decide (a.1 ≤ b.1)).Pairwise fun a b => decide (a.1 ≤ b.1) = true := by
    intro zs
    refine List.pairwise_mergeSort ?_ ?_ zs
    · intro a b c hab hbc
      exact decide_eq_true (String.le_trans (of_decide_eq_true hab) (of_decide_eq_true hbc))
    · intro a b
      simpa using String.le_total a.1 b.1
  refine List.Perm.eq_of_pairwise ?_ (hsorted xs) (hsorted ys)
    ((List.mergeSort_perm xs _).trans (hperm.trans (List.mergeSort_perm ys _).symm))
  intro a b ha hb hab hba
  have hkey : a.1 = b.1 :=
    String.le_antisymm (of_decide_eq_true hab) (of_decide_eq_true hba)
  exact List.inj_on_of_nodup_map hkeys (List.mem_mergeSort.mp ha)
    (hperm.mem_iff.mpr (List.mem_mergeSort.mp hb)) hkey

def Set.known? (set : Set) : List (String × Document) :=
  set.documents.map fun e => (e.1, e.2.document)

theorem Set.fingerprint_eq (set : Set) :
    set.fingerprint = Sha256.shortHex ((set.known?.mergeSort fun a b => decide (a.1 ≤ b.1)).flatMap
      fun e => Text.Utf8.encode e.1 ++ Text.Utf8.encode e.2.root.text) := by
  unfold fingerprint sortedDocuments known?
  rw [← List.map_mergeSort (r := fun a b => decide (a.1 ≤ b.1)) fun _ _ _ _ => rfl, List.flatMap_map]
  rfl

theorem Set.mem_known? {set : Set} (hkeys : (Table.keys set.documents).Nodup) {x : String}
    {d : Document} : (x, d) ∈ set.known? ↔ set.known.document x = some d := by
  unfold known? known
  dsimp only
  rw [List.mem_map, Option.map_eq_some_iff]
  constructor
  · rintro ⟨⟨y, s⟩, hmem, heq⟩
    cases heq
    exact ⟨s, (Table.find?_eq_some_iff hkeys).mpr hmem, rfl⟩
  · rintro ⟨s, hfind, rfl⟩
    exact ⟨(x, s), (Table.find?_eq_some_iff hkeys).mp hfind, rfl⟩

/-- **A fingerprint is a matter of the documents that are known.** -/
theorem Set.fingerprint_congr {set set' : Set} (hkeys : (Table.keys set.documents).Nodup)
    (hkeys' : (Table.keys set'.documents).Nodup)
    (h : ∀ x, set'.known.document x = set.known.document x) :
    set'.fingerprint = set.fingerprint := by
  have hfst : ∀ s : Set, s.known?.map Prod.fst = Table.keys s.documents := by
    intro s
    unfold known? Table.keys
    rw [List.map_map]
    rfl
  have hperm : set'.known?.Perm set.known? := by
    rw [List.perm_ext_iff_of_nodup (List.Nodup.of_map Prod.fst (by rwa [hfst]))
      (List.Nodup.of_map Prod.fst (by rwa [hfst]))]
    rintro ⟨x, d⟩
    rw [mem_known? hkeys', mem_known? hkeys, h]
  rw [fingerprint_eq, fingerprint_eq, mergeSort_eq_of_perm hperm (by rwa [hfst])]

theorem Set.nodup_keys_documents (stores : List Store) (generation : Nat) :
    (Table.keys (ofStores stores generation).documents).Nodup := by
  have hfold : ∀ (given : List Source) (set : Set), (Table.keys set.documents).Nodup →
      (Table.keys (given.foldl addSource set).documents).Nodup := by
    intro given
    induction given with
    | nil => exact fun _ h => h
    | cons s rest ih =>
        intro set h
        refine ih _ ?_
        unfold addSource
        dsimp only
        split
        · exact Table.nodup_keys_insert _ _ h
        · exact h
  exact hfold _ _ List.nodup_nil

/-! ## §3  What is known in another order -/

/-- Whether an identifier is embedded in two documents, and that of none. -/
def IsContested (documents : List Document) (x : String) : Prop :=
  (∀ d ∈ documents, d.id ≠ some x) ∧
    ∃ d ∈ documents, ∃ d' ∈ documents, d ≠ d' ∧ (d.embeddedAt? x).isSome ∧ (d'.embeddedAt? x).isSome

section

variable {documents documents' : List Document} {x : String}

theorem lookup?_of_forall_ne (h : ∀ d ∈ documents, d.id ≠ some x) :
    (Known.ofDocuments documents).lookup? x = (Known.ofDocuments documents).embedded x := by
  have hnone : (Known.ofDocuments documents).document x = none := by
    show documents.reverse.find? _ = none
    rw [List.find?_eq_none]
    intro d hd hid
    exact h d (List.mem_reverse.mp hd) (of_decide_eq_true hid)
  unfold Known.lookup?
  rw [hnone]
  rfl

theorem embedded_eq_some_iff
    (h : ∀ d ∈ documents, ∀ d' ∈ documents, (d.embeddedAt? x).isSome → (d'.embeddedAt? x).isSome →
      d = d') {d : Document} {pointer : String} :
    (Known.ofDocuments documents).embedded x = some (d, pointer) ↔
      d ∈ documents ∧ d.embeddedAt? x = some pointer := by
  have hplace : ∀ d' ∈ documents.reverse, ∀ place,
      (d'.embeddedAt? x).map (fun p => (d', p)) = some place →
        place.1 ∈ documents ∧ place.1.embeddedAt? x = some place.2 := by
    intro d' hd' place hplace
    obtain ⟨p, hp, rfl⟩ := Option.map_eq_some_iff.mp hplace
    exact ⟨List.mem_reverse.mp hd', hp⟩
  constructor
  · intro hfind
    obtain ⟨d', hd', hfound⟩ := List.exists_of_findSome?_eq_some hfind
    exact hplace d' hd' _ hfound
  · rintro ⟨hd, hpointer⟩
    have hsome : ((Known.ofDocuments documents).embedded x).isSome := by
      refine List.findSome?_isSome_iff.mpr ⟨d, List.mem_reverse.mpr hd, ?_⟩
      rw [hpointer]
      rfl
    obtain ⟨⟨d', p⟩, hfind⟩ := Option.isSome_iff_exists.mp hsome
    obtain ⟨d'', hd'', hfound⟩ := List.exists_of_findSome?_eq_some hfind
    obtain ⟨hd', hp⟩ := hplace d'' hd'' _ hfound
    obtain rfl : d' = d := h d' hd' d hd (by rw [hp]; rfl) (by rw [hpointer]; rfl)
    obtain rfl : p = pointer := Option.some.inj (hp.symm.trans hpointer)
    exact hfind

variable (hperm : documents.Perm documents') (hids : (documents.map Document.id).Nodup)

include hperm hids

theorem document_perm (x : String) :
    (Known.ofDocuments documents').document x = (Known.ofDocuments documents).document x := by
  refine Option.ext fun d => ?_
  show documents'.reverse.find? _ = some d ↔ documents.reverse.find? _ = some d
  rw [Set.find?_eq_some_iff_of_nodup hids,
    Set.find?_eq_some_iff_of_nodup ((hperm.map Document.id).nodup_iff.mp hids), hperm.mem_iff]

theorem isSome_lookup?_perm (x : String) :
    ((Known.ofDocuments documents').lookup? x).isSome =
      ((Known.ofDocuments documents).lookup? x).isSome := by
  have hembedded : ((Known.ofDocuments documents').embedded x).isSome =
      ((Known.ofDocuments documents).embedded x).isSome := by
    rw [Bool.eq_iff_iff]
    show (documents'.reverse.findSome? _).isSome ↔ (documents.reverse.findSome? _).isSome
    rw [List.findSome?_isSome_iff, List.findSome?_isSome_iff]
    simp only [List.mem_reverse, hperm.mem_iff]
  unfold Known.lookup?
  rw [document_perm hperm hids]
  simp only [Option.orElse_eq_orElse, Option.orElse_eq_or, Option.isSome_or, hembedded]

/-- **What is not contested means the same in every order.** -/
theorem lookup?_perm (h : ¬ IsContested documents x) :
    (Known.ofDocuments documents').lookup? x = (Known.ofDocuments documents).lookup? x := by
  by_cases hnone : ∀ d ∈ documents, d.id ≠ some x
  · have hunique : ∀ d ∈ documents, ∀ d' ∈ documents, (d.embeddedAt? x).isSome →
        (d'.embeddedAt? x).isSome → d = d' := by
      intro d hd d' hd' hsome hsome'
      by_contra hne
      exact h ⟨hnone, d, hd, d', hd', hne, hsome, hsome'⟩
    rw [lookup?_of_forall_ne hnone,
      lookup?_of_forall_ne fun d hd => hnone d (hperm.mem_iff.mpr hd)]
    refine Option.ext fun place => ?_
    rw [embedded_eq_some_iff hunique, embedded_eq_some_iff, hperm.mem_iff]
    intro d hd d' hd'
    exact hunique d (hperm.mem_iff.mpr hd) d' (hperm.mem_iff.mpr hd')
  · push Not at hnone
    obtain ⟨d, hd, hid⟩ := hnone
    have hdocument : (Known.ofDocuments documents).document x = some d :=
      (Set.find?_eq_some_iff_of_nodup hids).mpr ⟨hd, hid⟩
    unfold Known.lookup?
    rw [document_perm hperm hids, hdocument]
    rfl

end

/-- **What is contested means different schemas in some orders**: it is the last document that
counts. -/
theorem exists_lookup?_ne_of_isContested {roots : List Json} {x : String}
    (h : IsContested (roots.map Document.shared) x) :
    ∃ roots₁ roots₂ place₁ place₂, roots.Perm roots₁ ∧ roots.Perm roots₂ ∧ place₁ ≠ place₂ ∧
      (Known.ofDocuments (roots₁.map Document.shared)).lookup? x = some place₁ ∧
      (Known.ofDocuments (roots₂.map Document.shared)).lookup? x = some place₂ := by
  obtain ⟨hnone, d₁, hd₁, d₂, hd₂, hne, hsome₁, hsome₂⟩ := h
  -- a schema that embeds the identifier can be registered last
  have hlast : ∀ d ∈ roots.map Document.shared, (d.embeddedAt? x).isSome →
      ∃ roots' pointer, roots.Perm roots' ∧
        (Known.ofDocuments (roots'.map Document.shared)).lookup? x = some (d, pointer) := by
    intro d hd hsome
    obtain ⟨root, hroot, rfl⟩ := List.mem_map.mp hd
    obtain ⟨pointer, hpointer⟩ := Option.isSome_iff_exists.mp hsome
    obtain ⟨front, back, rfl⟩ := List.append_of_mem hroot
    have hperm : (front ++ root :: back).Perm (front ++ back ++ [root]) :=
      List.perm_middle.trans (List.perm_append_singleton root (front ++ back)).symm
    refine ⟨front ++ back ++ [root], pointer, hperm, ?_⟩
    rw [lookup?_of_forall_ne fun d hd => hnone d ((hperm.map Document.shared).mem_iff.mpr hd)]
    show ((front ++ back ++ [root]).map Document.shared).reverse.findSome? _ = _
    rw [List.map_append, List.reverse_append, List.map_singleton, List.reverse_singleton,
      List.singleton_append, List.findSome?_cons, hpointer]
    rfl
  obtain ⟨roots₁, pointer₁, hperm₁, hlookup₁⟩ := hlast d₁ hd₁ hsome₁
  obtain ⟨roots₂, pointer₂, hperm₂, hlookup₂⟩ := hlast d₂ hd₂ hsome₂
  refine ⟨roots₁, roots₂, (d₁, pointer₁), (d₂, pointer₂), hperm₁, hperm₂, ?_, hlookup₁, hlookup₂⟩
  intro heq
  cases heq
  exact hne rfl

/-! ## §4  References in another order -/

theorem known_single (documents : List Document) (generation : Nat) :
    (Set.ofStores [{ documents }] generation).known = Known.ofDocuments documents := by
  rw [Set.known_ofStores]
  exact congrArg Known.ofDocuments (List.append_nil documents)

theorem map_meaning_locate?_of_join {set : Set} {uri x : String} {base : Source} {place : Meaning}
    (hx : Identifier.join base.id uri = x) (h : set.known.lookup? x = some place) :
    (set.locate? uri base).map (fun place => (place.1.document, place.2)) = some place := by
  rw [Set.map_meaning_locate?]
  unfold Known.locate? Known.names Known.answer?
  rw [List.findSome?_cons, show base.document.id = base.id from rfl, hx, h]
  rfl

/-- **The order of registrations does not matter, but for contested names**: all schemas are
registered, the fingerprint is the same, and a reference means the same unless the name that
decides it is contested.  A contested name leads to different places in some orders. -/
theorem registerAll_perm {roots : List Json} (h : AreNamed roots) :
    ∃ store, Store.registerAll {} roots = .ok store ∧
      (∀ roots', roots.Perm roots' → ∃ store', Store.registerAll {} roots' = .ok store' ∧
        ∀ generation generation',
          let set := Set.ofStores [store] generation
          let set' := Set.ofStores [store'] generation'
          set'.fingerprint = set.fingerprint ∧
            ∀ (reference : String) (base base' : Source), base'.document = base.document →
              (∀ x, set.known.decisive? reference base.document = some x →
                ¬ IsContested store.documents x) →
              (set'.resolve reference base').toOption.map Target.meaning =
                (set.resolve reference base).toOption.map Target.meaning) ∧
      ∀ x, IsContested store.documents x →
        ∃ roots₁ roots₂ store₁ store₂, roots.Perm roots₁ ∧ roots.Perm roots₂ ∧
          Store.registerAll {} roots₁ = .ok store₁ ∧ Store.registerAll {} roots₂ = .ok store₂ ∧
          ∀ generation (uri : String) (base : Source), Identifier.join base.id uri = x →
            ((Set.ofStores [store₁] generation).locate? uri base).map
                (fun place => (place.1.document, place.2)) ≠
              ((Set.ofStores [store₂] generation).locate? uri base).map
                (fun place => (place.1.document, place.2)) := by
  refine ⟨_, h.registerAll, ?_, ?_⟩
  -- without contest every lookup comes to the same document, and so does every reference
  · intro roots' hperm
    refine ⟨_, (h.perm hperm).registerAll, ?_⟩
    intro generation generation' set set'
    have hdocuments := hperm.map Document.shared
    constructor
    · refine Set.fingerprint_congr (Set.nodup_keys_documents _ _) (Set.nodup_keys_documents _ _) ?_
      intro x
      rw [known_single, known_single]
      exact document_perm hdocuments h.nodup_id x
    · intro reference base base' hbase hdecisive
      rw [Set.map_meaning_resolve, Set.map_meaning_resolve, hbase]
      rw [show set.known = _ from known_single _ _] at hdecisive ⊢
      rw [show set'.known = _ from known_single _ _]
      refine Known.meaning?_congr (document_perm hdocuments h.nodup_id)
        (isSome_lookup?_perm hdocuments h.nodup_id) ?_
      intro x hx
      exact lookup?_perm hdocuments h.nodup_id (hdecisive x hx)
  -- two orders suffice, each with another of the contestants as the last one
  · intro x hcontested
    obtain ⟨roots₁, roots₂, place₁, place₂, hperm₁, hperm₂, hne, hlookup₁, hlookup₂⟩ :=
      exists_lookup?_ne_of_isContested hcontested
    refine ⟨roots₁, roots₂, _, _, hperm₁, hperm₂, (h.perm hperm₁).registerAll,
      (h.perm hperm₂).registerAll, ?_⟩
    intro generation uri base hx
    rw [← known_single _ generation] at hlookup₁ hlookup₂
    rw [map_meaning_locate?_of_join hx hlookup₁, map_meaning_locate?_of_join hx hlookup₂]
    exact fun heq => hne (Option.some.inj heq)

/-- A schema that embeds another under the identifier `urn:x`. -/
def contestant (id type : String) : Json :=
  .object [("$id", .string id), ("definitions", .object [("x", .object
    [("$id", .string "urn:x"), ("type", .string type)])])]

def contestants : List Json := [contestant "urn:a" "integer", contestant "urn:b" "string"]

theorem areNamed_contestants : AreNamed contestants := by
  constructor <;> decide +kernel

/-- The identifiers of the contestants themselves mean the same in both orders. -/
theorem registerAll_perm_contestants :
    AreNamed contestants ∧ ∃ store store', Store.registerAll {} contestants = .ok store ∧
      Store.registerAll {} contestants.reverse = .ok store' ∧
      (Set.ofStores [store'] 1).fingerprint = (Set.ofStores [store] 1).fingerprint ∧
      ((Set.ofStores [store'] 1).resolve "urn:a" (.ofInline .null)).toOption.map Target.meaning =
        ((Set.ofStores [store] 1).resolve "urn:a" (.ofInline .null)).toOption.map
          Target.meaning := by
  obtain ⟨store, hstore, horder, -⟩ := registerAll_perm areNamed_contestants
  obtain ⟨store', hstore', hsame⟩ := horder contestants.reverse (List.reverse_perm _).symm
  obtain ⟨hfingerprint, hreferences⟩ := hsame 1 1
  refine ⟨areNamed_contestants, store, store', hstore, hstore', hfingerprint, ?_⟩
  refine hreferences "urn:a" _ _ rfl ?_
  obtain rfl := Except.ok.inj (hstore.symm.trans areNamed_contestants.registerAll)
  intro x hx hcontested
  have hdecisive : (Set.ofStores [{ documents := contestants.map Document.shared }] 1).known.decisive?
      "urn:a" (Source.ofInline .null).document = some "urn:a" := by
    decide +kernel
  obtain rfl := Option.some.inj (hdecisive.symm.trans hx)
  exact hcontested.1 (Document.shared (contestant "urn:a" "integer")) List.mem_cons_self
    (by decide +kernel)

/-- **The order of registrations matters** to a reference by an identifier that two documents
embed. -/
theorem not_registerAll_perm :
    ¬ ∀ (roots roots' : List Json) (store store' : Store), AreNamed roots → roots.Perm roots' →
      Store.registerAll {} roots = .ok store → Store.registerAll {} roots' = .ok store' →
      ∀ generation (reference : String) (base : Source),
        ((Set.ofStores [store'] generation).resolve reference base).toOption.map Target.meaning =
          ((Set.ofStores [store] generation).resolve reference base).toOption.map
            Target.meaning := by
  intro hall
  have hperm : contestants.Perm contestants.reverse := (List.reverse_perm _).symm
  have hsame := hall contestants contestants.reverse _ _ areNamed_contestants hperm
    areNamed_contestants.registerAll (areNamed_contestants.perm hperm).registerAll 1 "urn:x"
    (.ofInline .null)
  have hids := congrArg (Option.map fun place : Meaning => place.1.id) hsame
  exact absurd hids (by decide +kernel)

end ReplySchema.Schema

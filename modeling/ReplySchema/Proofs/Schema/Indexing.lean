import ReplySchema.Proofs.Json.Pointer
import ReplySchema.Proofs.Schema.Identifiers
import ReplySchema.Proofs.Schema.Occurrences
import ReplySchema.Proofs.Schema.Places

/-! # What the index of a document says

The index of a document is made in one pass over its positions, with pointers that are built on
the way.  Here the positions are told without pointers: `Stands root path v` says that the steps
of `path` lead from the root to `v`, each through a keyword that holds schemas.  The pass lists
exactly these (`mem_positions_iff`), and a pointer leads to what its steps lead to
(`Stands.at?_ofPath`).

So an anchor points to a schema that declares it, every declared anchor has a pointer, and the
entries of the embedded schemas are what these schemas declare.  A reference that is nothing but a
fragment then means the place that the document itself gives the fragment, and only where it gives
none a shared document of that name (`index_agrees`).
-/

set_option autoImplicit false

namespace ReplySchema.Schema

/-! ## §1  The way to a schema -/

/-- A schema that a keyword holds in its value, with the tokens that lead from the value to it. -/
inductive HoldsAt (keyword : String) : Json → List String → Json → Prop where
  | schema {v : Json} (h : holds keyword = .schema) : HoldsAt keyword v [] v
  | named {entries : List (String × Json)} {name : String} {v : Json}
      (h : holds keyword = .named) (hv : (name, v) ∈ entries) :
      HoldsAt keyword (.object entries) [name] v
  | listed {items : List Json} {i : Nat} {v : Json}
      (h : holds keyword = .list ∨ holds keyword = .either) (hv : items[i]? = some v) :
      HoldsAt keyword (.array items) [Decimal.ofNat i] v
  | alone {v : Json} (h : holds keyword = .either) (hv : v.asArray? = none) : HoldsAt keyword v [] v

/-- The schemas inside a schema, reached through keywords that hold schemas only, each with the
steps to it. -/
inductive Stands : Json → List String → Json → Prop where
  | here (v : Json) : Stands v [] v
  | inside {members : List (String × Json)} {keyword : String} {value c w : Json}
      {tokens path : List String} (hm : (keyword, value) ∈ members)
      (hc : HoldsAt keyword value tokens c) (h : Stands c path w) :
      Stands (.object members) (keyword :: tokens ++ path) w

theorem HoldsAt.mem_heldUnder {keyword : String} {value c : Json} {tokens : List String}
    (h : HoldsAt keyword value tokens c) : c ∈ heldUnder keyword value := by
  unfold heldUnder
  cases h with
  | schema h =>
      rw [h]
      exact List.mem_singleton_self value
  | named h hv =>
      rw [h]
      exact List.mem_map.mpr ⟨_, hv, rfl⟩
  | listed h hv =>
      rcases h with h | h <;> rw [h] <;> exact List.mem_of_getElem? hv
  | alone h hv =>
      rw [h]
      cases value with
      | array items => cases hv
      | _ => exact List.mem_singleton_self _

/-! ## §2  Positions and ways -/

section Positions

variable {pointer : String} {x : String × Json}

theorem mem_namedPositions {entries : List (String × Json)} :
    x ∈ namedPositions pointer entries ↔
      ∃ e ∈ entries, x ∈ positions (Pointer.child pointer e.1) e.2 := by
  induction entries with
  | nil => simp [namedPositions]
  | cons e rest ih => rw [namedPositions, List.mem_append, ih, List.exists_mem_cons_iff]

theorem mem_listPositions {items : List Json} {first : Nat} :
    x ∈ listPositions pointer first items ↔ ∃ i v, items[i]? = some v ∧
      x ∈ positions (Pointer.child pointer (Decimal.ofNat (first + i))) v := by
  induction items generalizing first with
  | nil => simp [listPositions]
  | cons v rest ih =>
      rw [listPositions, List.mem_append, ih, Pointer.item_eq_child]
      constructor
      · rintro (h | ⟨i, w, hw, h⟩)
        · exact ⟨0, v, rfl, h⟩
        · refine ⟨i + 1, w, hw, ?_⟩
          rwa [Nat.add_right_comm] at h
      · rintro ⟨i, w, hw, h⟩
        cases i with
        | zero =>
            obtain rfl := Option.some.inj hw
            exact Or.inl h
        | succ i =>
            refine Or.inr ⟨i, w, hw, ?_⟩
            rwa [Nat.add_right_comm]

theorem mem_memberPositions {members : List (String × Json)} :
    x ∈ memberPositions pointer members ↔ ∃ m ∈ members, ∃ tokens c, HoldsAt m.1 m.2 tokens c ∧
      x ∈ positions ((m.1 :: tokens).foldl Pointer.child pointer) c := by
  induction members with
  | nil => simp [memberPositions]
  | cons m rest ih =>
      obtain ⟨keyword, value⟩ := m
      rw [memberPositions.eq_def, List.exists_mem_cons_iff]
      dsimp only
      rw [List.mem_append, ih]
      refine or_congr_left ⟨fun hx => ?_, ?_⟩
      · split at hx
        · next h => exact ⟨[], _, .schema h, hx⟩
        · next h =>
            obtain ⟨e, he, hx⟩ := mem_namedPositions.mp hx
            exact ⟨[e.1], e.2, .named h he, hx⟩
        · next h =>
            obtain ⟨i, c, hc, hx⟩ := mem_listPositions.mp hx
            rw [Nat.zero_add] at hx
            exact ⟨[Decimal.ofNat i], c, .listed (Or.inl h) hc, hx⟩
        · next h =>
            obtain ⟨i, c, hc, hx⟩ := mem_listPositions.mp hx
            rw [Nat.zero_add] at hx
            exact ⟨[Decimal.ofNat i], c, .listed (Or.inr h) hc, hx⟩
        · rename_i v _ _ h hitems
          have hv : v.asArray? = none := by
            cases v with
            | array items => exact absurd rfl (hitems items)
            | _ => rfl
          exact ⟨[], v, .alone h hv, hx⟩
        · cases hx
      · rintro ⟨tokens, c, hc, hx⟩
        cases hc with
        | schema h =>
            rw [h]
            exact hx
        | named h hv =>
            rw [h]
            exact mem_namedPositions.mpr ⟨_, hv, hx⟩
        | listed h hv =>
            have hlist : x ∈ listPositions (Pointer.child pointer keyword) 0 _ :=
              mem_listPositions.mpr ⟨_, c, hv, (Nat.zero_add _).symm ▸ hx⟩
            rcases h with h | h <;> rw [h] <;> exact hlist
        | alone h hv =>
            rw [h]
            cases value with
            | array items => cases hv
            | _ => exact hx

/-- **The positions of a schema** are the schemas inside it, with the pointers of the ways to
them. -/
theorem mem_positions_iff {v w : Json} {p : String} :
    (p, w) ∈ positions pointer v ↔
      ∃ path, Stands v path w ∧ p = path.foldl Pointer.child pointer := by
  induction hsize : sizeOf v using Nat.strongRecOn generalizing v pointer p with
  | _ n ih =>
      subst hsize
      constructor
      · intro h
        cases v with
        | object members =>
            rw [positions] at h
            rcases List.mem_cons.mp h with heq | h
            · obtain ⟨rfl, rfl⟩ := Prod.mk.inj heq
              exact ⟨[], .here _, rfl⟩
            · obtain ⟨m, hm, tokens, c, hc, h⟩ := mem_memberPositions.mp h
              have hlt := sizeOf_lt_of_held (mem_held (v := .object members) hm hc.mem_heldUnder)
              obtain ⟨path, hpath, rfl⟩ := (ih _ hlt rfl).mp h
              exact ⟨m.1 :: tokens ++ path, .inside hm hc hpath, (List.foldl_append ..).symm⟩
        | _ =>
            obtain ⟨rfl, rfl⟩ := Prod.mk.inj (List.mem_singleton.mp (positions.eq_def .. ▸ h))
            exact ⟨[], .here _, rfl⟩
      · rintro ⟨path, hpath, rfl⟩
        cases hpath with
        | here =>
            cases w <;> exact List.mem_cons_self
        | @inside members keyword value c _ tokens path hm hc hpath =>
            have hlt := sizeOf_lt_of_held (mem_held (v := .object members) hm hc.mem_heldUnder)
            rw [positions, List.foldl_append]
            refine List.mem_cons_of_mem _ (mem_memberPositions.mpr ⟨_, hm, tokens, c, hc, ?_⟩)
            exact (ih _ hlt rfl).mpr ⟨path, hpath, rfl⟩

end Positions

theorem HoldsAt.walk? {keyword : String} {value c : Json} {tokens : List String}
    (h : HoldsAt keyword value tokens c) (hkeys : value.hasDistinctKeys) :
    Pointer.walk? (tokens.map String.toList) value = some c ∧ c.hasDistinctKeys := by
  cases h with
  | schema | alone => exact ⟨rfl, hkeys⟩
  | named _ hv =>
      obtain ⟨hnames, hmembers⟩ := Json.hasDistinctKeys_object.mp hkeys
      refine ⟨?_, hmembers _ hv⟩
      rw [List.map_singleton, Pointer.walk?, Pointer.step?_member hv hnames]
      rfl
  | listed _ hv =>
      refine ⟨?_, Json.hasDistinctKeys_array.mp hkeys c (List.mem_of_getElem? hv)⟩
      rw [List.map_singleton, Pointer.walk?, Pointer.step?_item, hv]
      rfl

theorem Stands.walk? {v w : Json} {path : List String} (h : Stands v path w)
    (hkeys : v.hasDistinctKeys) : Pointer.walk? (path.map String.toList) v = some w := by
  induction h with
  | here v => rfl
  | @inside members keyword value c w tokens path hm hc _ ih =>
      obtain ⟨hnames, hmembers⟩ := Json.hasDistinctKeys_object.mp hkeys
      obtain ⟨hwalk, hc⟩ := hc.walk? (hmembers _ hm)
      rw [List.map_append, List.map_cons, Pointer.walk?_append, Pointer.walk?,
        Pointer.step?_member hm hnames, Option.bind_some, hwalk, Option.bind_some, ih hc]

/-- **The pointer of a way leads where the way leads**, whatever the names on it are. -/
theorem Stands.at?_ofPath {root v : Json} {path : List String} (h : Stands root path v)
    (hkeys : root.hasDistinctKeys) : root.at? (Pointer.ofPath path) = some v := by
  rw [Pointer.at?_ofPath, h.walk? hkeys]

/-! ## §3  What a position declares -/

/-- Whether a schema declares an anchor: by `$anchor`, or below the root by an `$id` that is the
name behind a hash mark.  A lone hash mark names nothing. -/
def DeclaresAnchor (pointer : String) (v : Json) (name : String) : Prop :=
  (v.get? "$anchor").bind Json.asString? = some name ∨
    pointer ≠ "" ∧ name ≠ "" ∧ (v.get? "$id").bind Json.asString? = some ("#" ++ name)

/-- Whether a schema below the root declares a reference of its own: an `$id` that is neither a
fragment nor blank. -/
def DeclaresId (pointer : String) (v : Json) (own : String) : Prop :=
  pointer ≠ "" ∧ (v.get? "$id").bind Json.asString? = some own ∧
    own.toList.head? ≠ some '#' ∧ Text.allBlank own = false

instance (pointer : String) (v : Json) (name : String) :
    Decidable (DeclaresAnchor pointer v name) := by
  unfold DeclaresAnchor
  infer_instance

namespace Index

variable {base : Option String} {index : Index} {pointer name : String} {v : Json}

theorem eq_hash_append_iff {own : String} :
    own = "#" ++ name ↔ own.toList = '#' :: name.toList := by
  rw [← String.toList_inj, String.toList_append]
  rfl

theorem find?_anchors_addId :
    Table.find? name (index.addId base pointer v).anchors =
      if name ≠ "" ∧ (v.get? "$id").bind Json.asString? = some ("#" ++ name) then some pointer
      else Table.find? name index.anchors := by
  unfold addId
  cases (v.get? "$id").bind Json.asString? with
  | none => simp
  | some own =>
      simp only [Option.some_inj, eq_hash_append_iff]
      split
      · next hown =>
          rw [hown, if_neg]
          rintro ⟨hname, hlone⟩
          exact hname (String.toList_eq_nil_iff.mp (List.cons.inj hlone).2.symm)
      · next cs hlone hown =>
          have hname : String.ofList cs = name ↔ name ≠ "" ∧ own.toList = '#' :: name.toList := by
            rw [hown, List.cons.injEq, and_iff_right rfl]
            constructor
            · rintro rfl
              exact ⟨fun hempty => hlone (String.ofList_eq_empty_iff.mp hempty),
                String.toList_ofList.symm⟩
            · rintro ⟨-, rfl⟩
              exact String.ofList_toList
          unfold addAnchor
          rw [Table.find?_insert, if_congr hname rfl rfl]
      · next hlone hhash =>
          have hnone : ¬(name ≠ "" ∧ own.toList = '#' :: name.toList) := fun h => hhash _ h.2
          rw [if_neg hnone]
          split <;> rfl

theorem find?_anchors_addPosition :
    Table.find? name (index.addPosition base (pointer, v)).anchors =
      if DeclaresAnchor pointer v name then some pointer else Table.find? name index.anchors := by
  have hid : Table.find? name (if pointer = "" then index else index.addId base pointer v).anchors =
      if pointer ≠ "" ∧ name ≠ "" ∧ (v.get? "$id").bind Json.asString? = some ("#" ++ name) then
        some pointer
      else Table.find? name index.anchors := by
    by_cases hroot : pointer = ""
    · rw [if_pos hroot, if_neg fun h => h.1 hroot]
    · rw [if_neg hroot, find?_anchors_addId, if_congr (and_iff_right hroot) rfl rfl]
  unfold addPosition DeclaresAnchor
  rcases Option.eq_none_or_eq_some ((v.get? "$anchor").bind Json.asString?) with
    hanchor | ⟨anchor, hanchor⟩
  · simpa [hanchor] using hid
  · simp only [hanchor, Option.some_inj]
    unfold addAnchor
    rw [Table.find?_insert, hid]
    by_cases hname : anchor = name
    · rw [if_pos hname, if_pos (Or.inl hname)]
    · rw [if_neg hname, if_congr (or_iff_right hname) rfl rfl]

/-- **The last position that declares an anchor gives it its pointer.** -/
theorem find?_anchors_ofSchema (root : Json) :
    Table.find? name (ofSchema base root).anchors =
      ((positions "" root).reverse.find? fun q => decide (DeclaresAnchor q.1 q.2 name)).map
        (·.1) := by
  unfold ofSchema
  induction positions "" root using List.reverseRecOn with
  | nil => rfl
  | append_singleton ps q ih =>
      rw [List.foldl_append, List.foldl_cons, List.foldl_nil, find?_anchors_addPosition, ih,
        List.reverse_append, List.reverse_singleton, List.singleton_append, List.find?_cons]
      by_cases hq : DeclaresAnchor q.1 q.2 name <;> simp [hq]

theorem mem_embedded_addId {x p : String} :
    (x, p) ∈ (index.addId base pointer v).embedded ↔
      (x, p) ∈ index.embedded ∨ p = pointer ∧
        ∃ own, (v.get? "$id").bind Json.asString? = some own ∧ own.toList.head? ≠ some '#' ∧
          Text.allBlank own = false ∧ x = Identifier.join base own := by
  unfold addId
  cases (v.get? "$id").bind Json.asString? with
  | none => simp
  | some own =>
      dsimp only
      split
      · next hown => simp [hown]
      · next hown => simp [hown, addAnchor]
      · next hlone hhash =>
          have hhead : own.toList.head? ≠ some '#' := by
            intro hhead
            obtain ⟨cs, hcs⟩ := List.head?_eq_some_iff.mp hhead
            exact hhash cs hcs
          cases hblank : Text.allBlank own with
          | true => simp [hblank]
          | false =>
              simp [hblank, hhead, and_comm]

theorem mem_embedded_addPosition {x p : String} :
    (x, p) ∈ (index.addPosition base (pointer, v)).embedded ↔
      (x, p) ∈ index.embedded ∨
        p = pointer ∧ ∃ own, DeclaresId pointer v own ∧ x = Identifier.join base own := by
  have hid : (x, p) ∈ (if pointer = "" then index else index.addId base pointer v).embedded ↔
      (x, p) ∈ index.embedded ∨
        p = pointer ∧ ∃ own, DeclaresId pointer v own ∧ x = Identifier.join base own := by
    by_cases hroot : pointer = ""
    · simp [hroot, DeclaresId]
    · simp [hroot, DeclaresId, mem_embedded_addId, and_assoc]
  unfold addPosition
  dsimp only
  split
  · exact hid
  · exact hid

/-- **The embedded schemas** are the positions with an `$id` of their own. -/
theorem mem_embedded_ofSchema {root : Json} {x p : String} :
    (x, p) ∈ (ofSchema base root).embedded ↔
      ∃ w, (p, w) ∈ positions "" root ∧ ∃ own, DeclaresId p w own ∧ x = Identifier.join base own := by
  unfold ofSchema
  induction positions "" root using List.reverseRecOn with
  | nil => simp
  | append_singleton ps q ih =>
      rw [List.foldl_append, List.foldl_cons, List.foldl_nil, mem_embedded_addPosition, ih]
      constructor
      · rintro (⟨w, hw, hown⟩ | ⟨rfl, hown⟩)
        · exact ⟨w, List.mem_append_left _ hw, hown⟩
        · exact ⟨q.2, List.mem_append_right _ List.mem_cons_self, hown⟩
      · rintro ⟨w, hw, hown⟩
        rcases List.mem_append.mp hw with hw | hw
        · exact Or.inl ⟨w, hw, hown⟩
        · obtain rfl := List.mem_singleton.mp hw
          exact Or.inr ⟨rfl, hown⟩

end Index

/-! ## §4  References and fragments -/

namespace Document

variable {id : Option String} {root : Json} {name pointer : String}

theorem indexed_anchor? :
    (indexed id root).anchor? name =
      ((positions "" root).reverse.find? fun q => decide (DeclaresAnchor q.1 q.2 name)).map
        (·.1) :=
  Index.find?_anchors_ofSchema root

theorem stands_of_anchor? (h : (indexed id root).anchor? name = some pointer) :
    ∃ path v, Stands root path v ∧ pointer = Pointer.ofPath path ∧
      DeclaresAnchor pointer v name := by
  rw [indexed_anchor?] at h
  obtain ⟨⟨p, v⟩, hfind, rfl⟩ := Option.map_eq_some_iff.mp h
  have hname := List.find?_some hfind
  obtain ⟨path, hpath, heq⟩ :=
    mem_positions_iff.mp (List.mem_reverse.mp (List.mem_of_find?_eq_some hfind))
  exact ⟨path, v, hpath, heq, of_decide_eq_true hname⟩

theorem isSome_anchor? {path : List String} {v : Json} (h : Stands root path v)
    (hname : DeclaresAnchor (Pointer.ofPath path) v name) :
    ((indexed id root).anchor? name).isSome := by
  rw [indexed_anchor?, Option.isSome_map, List.find?_isSome]
  exact ⟨(Pointer.ofPath path, v), List.mem_reverse.mpr (mem_positions_iff.mpr ⟨path, h, rfl⟩),
    decide_eq_true hname⟩

theorem isSome_at?_fragmentPointer? (hkeys : root.hasDistinctKeys) {fragment : String}
    (h : (indexed id root).fragmentPointer? fragment = some pointer) :
    (root.at? pointer).isSome := by
  unfold fragmentPointer? at h
  split at h
  · obtain rfl := Option.some.inj h
    rfl
  · split at h
    · obtain ⟨v, hv, rfl⟩ := Option.map_eq_some_iff.mp h
      exact Option.isSome_of_mem hv
    · obtain ⟨path, v, hpath, rfl, -⟩ := stands_of_anchor? h
      exact Option.isSome_of_mem (hpath.at?_ofPath hkeys)

end Document

namespace Set

/-- The place of a fragment in a document is the one that the document gives it, if something is
there. -/
theorem bind_pointerOf? {s : Source} {fragment : String}
    (hthere : ∀ pointer, s.document.fragmentPointer? fragment = some pointer →
      (s.root.at? pointer).isSome) :
    ((pointerOf? (s, "") fragment).bind fun pointer => ifThere (s, pointer)) =
      (s.document.fragmentPointer? fragment).map fun pointer => (s, pointer) := by
  unfold pointerOf?
  unfold Document.fragmentPointer? at hthere ⊢
  dsimp only
  split
  · rfl
  · next hempty =>
      rw [if_neg hempty] at hthere
      split
      · rw [String.empty_append, Option.bind_some]
        unfold ifThere
        cases hat : s.root.at? fragment with
        | none => simp [show s.document.root.at? fragment = none from hat]
        | some v => simp [show s.document.root.at? fragment = some v from hat]
      · next hslash =>
          rw [if_neg hslash] at hthere
          cases hanchor : s.document.anchor? fragment with
          | none => rfl
          | some pointer => exact if_pos (hthere pointer hanchor)

theorem toOption_resolve (set : Set) (r : String) (s : Source) :
    (set.resolve r s).toOption = set.target? r s := by
  unfold resolve
  cases set.target? r s <;> rfl

/-- **A reference that is a fragment means what the document gives the fragment**, and what is
shared under this text only where the document gives it nothing. -/
theorem place_resolve_fragment (set : Set) {s : Source} {fragment : String}
    (hthere : ∀ pointer, s.document.fragmentPointer? fragment = some pointer →
      (s.root.at? pointer).isSome) :
    (set.resolve ("#" ++ fragment) s).toOption.map Target.place =
      (((s.document.fragmentPointer? fragment).map fun pointer => (s, pointer)) <|>
        (Table.find? ("#" ++ fragment) set.documents).map fun shared => (shared, "")) := by
  have hsplit : Identifier.split ("#" ++ fragment) = ("", fragment) := by
    unfold Identifier.split
    rw [String.toList_append]
    show (String.ofList [], String.ofList fragment.toList) = ("", fragment)
    rw [String.ofList_toList]
  rw [toOption_resolve, map_place_target?]
  unfold place?
  rw [hsplit]
  exact congrArg (· <|> _) (bind_pointerOf? hthere)

end Set

/-- **The index of a document and pointers agree.** -/
theorem index_agrees (id : Option String) (root : Json) (hkeys : root.hasDistinctKeys) :
    (∀ name pointer, (Document.indexed id root).anchor? name = some pointer →
      ∃ path v, Stands root path v ∧ pointer = Pointer.ofPath path ∧
        root.at? pointer = some v ∧ DeclaresAnchor pointer v name) ∧
    (∀ path v name, Stands root path v → DeclaresAnchor (Pointer.ofPath path) v name →
      ((Document.indexed id root).anchor? name).isSome) ∧
    (∀ x pointer, (x, pointer) ∈ (Document.indexed id root).index.embedded ↔
      ∃ path v own, Stands root path v ∧ pointer = Pointer.ofPath path ∧
        root.at? pointer = some v ∧ DeclaresId pointer v own ∧ x = Identifier.join id own) ∧
    ∀ (set : Set) (s : Source) (fragment : String), s.document = Document.indexed id root →
      (set.resolve ("#" ++ fragment) s).toOption.map Target.place =
        ((((Document.indexed id root).fragmentPointer? fragment).map fun pointer => (s, pointer)) <|>
          (Table.find? ("#" ++ fragment) set.documents).map fun shared => (shared, "")) := by
  refine ⟨?_, fun path v name => Document.isSome_anchor?, ?_, ?_⟩
  · intro name pointer h
    obtain ⟨path, v, hpath, rfl, hname⟩ := Document.stands_of_anchor? h
    exact ⟨path, v, hpath, rfl, hpath.at?_ofPath hkeys, hname⟩
  · intro x pointer
    constructor
    · intro h
      obtain ⟨v, hv, own, hown, rfl⟩ := Index.mem_embedded_ofSchema.mp h
      obtain ⟨path, hpath, rfl⟩ := mem_positions_iff.mp hv
      exact ⟨path, v, own, hpath, rfl, hpath.at?_ofPath hkeys, hown, rfl⟩
    · rintro ⟨path, v, own, hpath, rfl, -, hown, rfl⟩
      exact Index.mem_embedded_ofSchema.mpr
        ⟨v, mem_positions_iff.mpr ⟨path, hpath, rfl⟩, own, hown, rfl⟩
  · intro set s fragment hs
    rw [← hs]
    refine Set.place_resolve_fragment set fun pointer h => ?_
    rw [hs] at h
    have hat := Document.isSome_at?_fragmentPointer? hkeys h
    rwa [Source.root, hs]

/-- A schema whose names hold slashes, tildes, digits or nothing, and look like escapes. -/
def oddlyNamed : Json :=
  .object [("properties", .object [("~1/0", .object [("items", .array [.bool true,
    .object [("$defs", .object [("", .object [("$id", .string "#deep")])])]])])])]

theorem index_agrees_oddlyNamed :
    oddlyNamed.hasDistinctKeys ∧
      (Document.ofInline oddlyNamed).anchor? "deep" =
        some "/properties/~01~10/items/1/$defs/" ∧
      (∃ path v, Stands oddlyNamed path v ∧
        "/properties/~01~10/items/1/$defs/" = Pointer.ofPath path ∧
        oddlyNamed.at? "/properties/~01~10/items/1/$defs/" = some v ∧
        DeclaresAnchor "/properties/~01~10/items/1/$defs/" v "deep") ∧
      (({} : Set).resolve ("#" ++ "deep") (Source.ofInline oddlyNamed)).toOption.map Target.place =
        some (Source.ofInline oddlyNamed, "/properties/~01~10/items/1/$defs/") := by
  have hkeys : oddlyNamed.hasDistinctKeys := by
    simp [oddlyNamed, Json.hasDistinctKeys, Json.membersHaveDistinctKeys,
      Json.itemsHaveDistinctKeys, Table.keys]
  have hanchor : (Document.ofInline oddlyNamed).anchor? "deep" =
      some "/properties/~01~10/items/1/$defs/" := by decide +kernel
  obtain ⟨hsound, -, -, hresolve⟩ :=
    index_agrees (Document.inlineId? oddlyNamed) oddlyNamed hkeys
  refine ⟨hkeys, hanchor, hsound _ _ hanchor, (hresolve {} (.ofInline oddlyNamed) "deep" rfl).trans ?_⟩
  have hfragment : (Document.ofInline oddlyNamed).fragmentPointer? "deep" =
      some "/properties/~01~10/items/1/$defs/" := by decide +kernel
  rw [show Document.indexed (Document.inlineId? oddlyNamed) oddlyNamed =
    Document.ofInline oddlyNamed from rfl, hfragment]
  rfl

/-- **Not every `$id` behind a hash mark is an anchor**: a lone hash mark below the root declares
nothing, not even the empty name. -/
theorem not_index_agrees_lone_hash :
    ¬ ∀ (root v : Json) (path : List String) (name : String), root.hasDistinctKeys →
      Stands root path v → path ≠ [] → (v.get? "$id").bind Json.asString? = some ("#" ++ name) →
      ((Document.ofInline root).anchor? name).isSome := by
  intro h
  let marked : Json := .object [("$id", .string "#")]
  let root : Json := .object [("not", marked)]
  have hkeys : root.hasDistinctKeys := by
    simp [root, marked, Json.hasDistinctKeys, Json.membersHaveDistinctKeys, Table.keys]
  have hstands : Stands root ["not"] marked :=
    .inside List.mem_cons_self (.schema (by decide)) (.here marked)
  have hsome := h root marked ["not"] "" hkeys hstands (by decide) (by decide +kernel)
  have hnone : (Document.ofInline root).anchor? "" = none := by decide +kernel
  rw [hnone] at hsome
  cases hsome

end ReplySchema.Schema

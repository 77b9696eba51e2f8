import ReplySchema.Proofs.Uri.Characters
import ReplySchema.Schema.Identifier

/-! # Identifiers in normal form

Bringing an identifier to normal form a second time changes nothing (`canonical_canonical`), under
two conditions.  An address must be read back as it was written (`ReadsBack`).  And of a name that
is no address, what is left without the hash marks at its end must not end with a blank
(`IsClean`): blanks are cut before hash marks, and not again afterwards.

A reference without a fragment means the identifier that it is (`join_of_split`).
-/

set_option autoImplicit false

namespace ReplySchema.Identifier

/-- Whether the address in an identifier is read back as it is written. -/
def ReadsBack (id : String) : Prop :=
  ∀ u, Uri.read? (bare id) = some u →
    Uri.read? u.withoutFragment.text = some u.withoutFragment

/-- Whether an identifier without the hash marks at its end is an address, or has no blanks at its
ends. -/
def IsClean (id : String) : Prop :=
  (Uri.read? (bare id)).isSome ∨ Text.trim (bare id) = bare id

theorem getLast?_bare {id : String} {c : Char} (h : (bare id).toList.getLast? = some c) :
    c ≠ '#' := by
  rw [bare, String.toList_ofList] at h
  simpa using Text.getLast?_dropEndWhile h

/-- A text without blanks at its ends and without a hash mark at its end is bare. -/
theorem bare_eq_self {id : String} (htrim : Text.trim id = id)
    (hlast : ∀ c, id.toList.getLast? = some c → c ≠ '#') : bare id = id := by
  rw [bare, htrim, Text.dropEndWhile_eq_self, String.ofList_toList]
  intro c hc
  simpa using hlast c hc

theorem withoutFragment_withoutFragment (u : Uri) :
    u.withoutFragment.withoutFragment = u.withoutFragment := by
  obtain ⟨scheme, authority, path, query, fragment⟩ := u
  cases path with
  | rooted t => rfl
  | whole t =>
      cases query with
      | some q => rfl
      | none =>
          have hcut : Text.dropEndWhile (· == ' ') (Text.dropEndWhile (· == ' ') t.toList) =
              Text.dropEndWhile (· == ' ') t.toList :=
            Text.dropEndWhile_eq_self fun _ => Text.getLast?_dropEndWhile
          simp only [Uri.withoutFragment, String.toList_ofList, hcut]

theorem bare_text_of_read? {text : String} {u : Uri} (h : Uri.read? text = some u) :
    bare u.withoutFragment.text = u.withoutFragment.text := by
  obtain ⟨⟨c, hc, htight⟩, ⟨d, hd, htight'⟩⟩ := Uri.endsTight_text_of_read? h
  refine bare_eq_self (Text.trim_eq_self ?_ ?_) ?_
  · intro c' hc'
    obtain rfl := Option.some.inj (hc.symm.trans hc')
    exact Uri.isBlank_of_isTight htight
  · intro d' hd'
    obtain rfl := Option.some.inj (hd.symm.trans hd')
    exact Uri.isBlank_of_isTight htight'
  · intro d' hd'
    obtain rfl := Option.some.inj (hd.symm.trans hd')
    exact (Uri.isTight_iff.mp htight').2.2

theorem canonical_of_read? {id : String} {u : Uri} (h : Uri.read? (bare id) = some u) :
    canonical id = u.withoutFragment.text := by
  unfold canonical
  rw [h]

theorem canonical_of_name {id : String} (h : Uri.read? (bare id) = none) :
    canonical id = bare id := by
  unfold canonical
  rw [h]

/-- From a name that is clean, nothing is cut a second time. -/
theorem IsClean.bare_bare {id : String} (hclean : IsClean id) (h : Uri.read? (bare id) = none) :
    bare (bare id) = bare id := by
  rcases hclean with haddress | htrim
  · rw [h] at haddress
    cases haddress
  · exact bare_eq_self htrim fun _ => getLast?_bare

/-- A name that is clean is its own normal form once it is bare. -/
theorem IsClean.canonical_bare {id : String} (hclean : IsClean id)
    (h : Uri.read? (bare id) = none) : canonical (bare id) = bare id := by
  have hbare := hclean.bare_bare h
  rw [canonical_of_name (by rw [hbare, h]), hbare]

/-- **Bringing an identifier to normal form a second time changes nothing.** -/
theorem canonical_canonical {id : String} (hclean : IsClean id) (hreads : ReadsBack id) :
    canonical (canonical id) = canonical id := by
  cases hread : Uri.read? (bare id) with
  | some u =>
      have hagain : Uri.read? (bare u.withoutFragment.text) = some u.withoutFragment := by
        rw [bare_text_of_read? hread]
        exact hreads u hread
      rw [canonical_of_read? hread, canonical_of_read? hagain, withoutFragment_withoutFragment]
  | none => rw [canonical_of_name hread, hclean.canonical_bare hread]

theorem eq_hash_of_canonical_eq_empty {id : String} (h : canonical id = "") {c : Char}
    (hc : c ∈ (Text.trim id).toList) : c = '#' := by
  unfold canonical at h
  split at h
  · rename_i u hread
    obtain ⟨⟨d, hd, -⟩, -⟩ := Uri.endsTight_text_of_read? hread
    rw [h] at hd
    cases hd
  · rw [bare, ← String.ofList_nil, String.ofList_inj] at h
    simpa using Text.forall_of_dropEndWhile_eq_nil h c hc

/-- A text that starts with a hash mark is no address. -/
theorem read?_of_hash {id : String} (h : id.toList.head? = some '#') : Uri.read? id = none := by
  have hcleaned : ∃ more, Uri.cleaned id = '#' :: more := by
    obtain ⟨rest, hrest⟩ := List.head?_eq_some_iff.mp h
    have hstart : Text.stripWhile (·.toNat ≤ 0x20) id.toList =
        Text.dropEndWhile (·.toNat ≤ 0x20) ('#' :: rest) := by
      rw [hrest]
      rfl
    cases hkept : Text.dropEndWhile (fun c : Char => decide (c.toNat ≤ 0x20)) ('#' :: rest) with
    | nil =>
        have hcut := Text.forall_of_dropEndWhile_eq_nil hkept '#' List.mem_cons_self
        exact absurd hcut (by decide)
    | cons c kept =>
        obtain ⟨cut, hcut⟩ := Text.dropEndWhile_prefix (fun c : Char => decide (c.toNat ≤ 0x20))
          ('#' :: rest)
        rw [hkept, List.cons_append, List.cons.injEq] at hcut
        refine ⟨kept.filter fun c => c != '\t' && c != '\n' && c != '\r', ?_⟩
        rw [Uri.cleaned, hstart, hkept, hcut.1]
        rfl
  obtain ⟨more, hmore⟩ := hcleaned
  have hscheme : Uri.takeScheme (Uri.cleaned id) = none := by
    rw [hmore]
    rfl
  unfold Uri.read? Uri.readAgainst?
  dsimp only
  rw [hscheme]

theorem canonical_of_hash {id : String} (htrim : Text.trim id = id)
    (hhead : id.toList.head? = some '#') (hlast : id.toList.getLast? ≠ some '#') :
    canonical id = id := by
  have hbare : bare id = id := by
    refine bare_eq_self htrim ?_
    rintro c hc rfl
    exact hlast hc
  rw [canonical_of_name (by rw [hbare, read?_of_hash hhead]), hbare]

/-- A reference without a fragment, and not of hash marks alone, has an identifier. -/
theorem split_ne_empty {id : String} (hempty : id ≠ "") (hhash : id ≠ "#")
    (hfragment : (split id).2 = "") : (split id).1 ≠ "" := by
  intro huri
  cases hparts : Text.cutAt '#' id.toList with
  | mk front behind =>
      rw [split, hparts] at huri hfragment
      obtain rfl : front = [] := by simpa using huri
      cases behind with
      | none => exact hempty (String.toList_inj.mp (Text.eq_of_cutAt_none hparts))
      | some fragment =>
          obtain rfl : fragment = [] := by simpa using hfragment
          exact hhash (String.toList_inj.mp (Text.cutAt_append hparts))

theorem split_of_hash {id : String} (h : id.toList.head? = some '#') :
    (split id).1 = "" := by
  obtain ⟨rest, hrest⟩ := List.head?_eq_some_iff.mp h
  rw [split, hrest]
  rfl

/-- The identifier of a reference without a fragment is what is left without the hash mark. -/
theorem fst_split {id : String} (htrim : Text.trim id = id) (hfragment : (split id).2 = "") :
    (split id).1 = bare id := by
  have hend : Text.dropEndWhile (· == '#') (Text.cutAt '#' id.toList).1 =
      (Text.cutAt '#' id.toList).1 := by
    refine Text.dropEndWhile_eq_self ?_
    intro c hc
    rw [beq_eq_false_iff_ne]
    rintro rfl
    exact Text.notMem_cutAt '#' id.toList (List.mem_of_getLast? hc)
  have hcut : (Text.cutAt '#' id.toList).1 = Text.dropEndWhile (· == '#') id.toList := by
    cases hparts : Text.cutAt '#' id.toList with
    | mk front behind =>
        rw [hparts] at hend
        cases behind with
        | none =>
            rw [← Text.eq_of_cutAt_none hparts] at hend ⊢
            exact hend.symm
        | some fragment =>
            have hempty : fragment = [] := by
              rw [split, hparts] at hfragment
              simpa using hfragment
            rw [Text.cutAt_append hparts, hempty, Text.dropEndWhile_concat_of_pos (by rfl)]
            exact hend.symm
  rw [bare, htrim, ← hcut]
  rfl

/-- **A reference without a fragment means the identifier that it is.** -/
theorem join_of_split {id : String} (htrim : Text.trim id = id) (hclean : IsClean id)
    (hfragment : (split id).2 = "") : join none (split id).1 = canonical id := by
  rw [fst_split htrim hfragment]
  unfold join
  cases hread : Uri.read? (bare id) with
  | some u => exact (canonical_of_read? hread).symm
  | none =>
      show canonical (bare id) = canonical id
      rw [hclean.canonical_bare hread, canonical_of_name hread]

end ReplySchema.Identifier

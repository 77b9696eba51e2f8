import ReplySchema.Domain.Name
import ReplySchema.Proofs.Result

/-! # The characters of names in ASCII

A name that is written in ASCII consists of labels and full stops, and a label of characters that
the rules allow and of those that stand for others: small letters, digits and hyphens
(`fits_of_asciiName?`).
-/

set_option autoImplicit false

namespace ReplySchema.Domain

/-! ## §1  Labels that are written -/

namespace Punycode

theorem isPlain_digitCode {d : Nat} (h : d < 36) : isPlain (digitCode d) = true := by
  unfold digitCode isPlain between
  split
  · simp only [Bool.or_eq_true, Bool.and_eq_true, decide_eq_true_eq]
    omega
  · simp only [Bool.or_eq_true, Bool.and_eq_true, decide_eq_true_eq]
    omega

theorem isPlain_writeAmount (bias rank amount : Nat) :
    ∀ n ∈ writeAmount bias rank amount, isPlain n = true := by
  induction rank, amount using writeAmount.induct bias with
  | case1 rank amount t hlt =>
      intro n hn
      rw [writeAmount, if_pos hlt, List.mem_singleton] at hn
      have hle := threshold_le bias rank
      rw [hn]
      exact isPlain_digitCode (by omega)
  | case2 rank amount t hge ih =>
      intro n hn
      rw [writeAmount, if_neg hge, List.mem_cons] at hn
      have hle : t ≤ 26 := threshold_le bias rank
      rcases hn with rfl | hn
      · have hmod : (amount - t) % (36 - t) < 36 - t := Nat.mod_lt _ (by omega)
        have hlt : t + (amount - t) % (36 - t) < 36 := by omega
        exact isPlain_digitCode hlt
      · exact ih n hn

theorem isPlain_pass {code n : Nat} {w : Writing} (h : ∀ d ∈ w.digits, isPlain d = true) :
    ∀ d ∈ (w.pass code n).digits, isPlain d = true := by
  unfold Writing.pass
  split
  · exact h
  · split
    · intro d hd
      rcases List.mem_append.mp hd with hd | hd
      · exact h d hd
      · exact isPlain_writeAmount _ _ _ d hd
    · exact h

theorem isPlain_writeCodes (ns : List Nat) : ∀ (codes : List Nat) (next : Nat) (w : Writing),
    (∀ d ∈ w.digits, isPlain d = true) →
      ∀ d ∈ (writeCodes ns next w codes).digits, isPlain d = true
  | [], _, _, h => h
  | code :: rest, next, w, h => by
      have hfold : ∀ (passed : List Nat) (w : Writing), (∀ d ∈ w.digits, isPlain d = true) →
          ∀ d ∈ (passed.foldl (Writing.pass code) w).digits, isPlain d = true := by
        intro passed
        induction passed with
        | nil => exact fun _ h => h
        | cons n more ih => exact fun w h => ih _ (isPlain_pass h)
      rw [writeCodes]
      exact isPlain_writeCodes ns rest (code + 1) _ (hfold ns _ h)

/-- A label that is written has its own characters in ASCII, and plain ones for the others. -/
theorem mem_encode {ns : List Nat} {n : Nat} (h : n ∈ encode ns) :
    (n ∈ ns ∧ n < 0x80) ∨ isPlain n = true := by
  unfold encode at h
  rcases List.mem_append.mp h with h | h
  · rcases List.mem_append.mp h with h | h
    · obtain ⟨hn, hlt⟩ := List.mem_filter.mp h
      exact Or.inl ⟨hn, of_decide_eq_true hlt⟩
    · split at h
      · cases h
      · rw [List.mem_singleton] at h
        rw [h]
        exact Or.inr rfl
  · exact Or.inr (isPlain_writeCodes ns _ _ _ (by simp) n h)

/-! ## §2  Labels that are read -/

theorem beyond_insert? {i i' : Insertion} {amount : Nat} (h : i.insert? amount = some i')
    (hcode : 0x80 ≤ i.code) :
    0x80 ≤ i'.code ∧ ∀ n ∈ i'.chars, n ∈ i.chars ∨ 0x80 ≤ n := by
  unfold Insertion.insert? at h
  dsimp only at h
  split at h
  · cases h
    have hle : 0x80 ≤ i.code + (i.place + amount) / (i.chars.length + 1) :=
      Nat.le_trans hcode (Nat.le_add_right _ _)
    refine ⟨hle, ?_⟩
    intro n hn
    rcases List.mem_append.mp hn with hn | hn
    · exact Or.inl (List.mem_of_mem_take hn)
    · rcases List.mem_cons.mp hn with rfl | hn
      · exact Or.inr hle
      · exact Or.inl (List.mem_of_mem_drop hn)
  · cases h

theorem beyond_step {i i' : Insertion} {digit : Nat} (h : i.step digit = some i')
    (hcode : 0x80 ≤ i.code) :
    0x80 ≤ i'.code ∧ ∀ n ∈ i'.chars, n ∈ i.chars ∨ 0x80 ≤ n := by
  unfold Insertion.step at h
  dsimp only at h
  split at h
  · exact beyond_insert? h hcode
  · cases h
    exact ⟨hcode, fun n hn => Or.inl hn⟩

theorem beyond_foldlM : ∀ (digits : List Nat) {i i' : Insertion},
    digits.foldlM Insertion.step i = some i' → 0x80 ≤ i.code →
      ∀ n ∈ i'.chars, n ∈ i.chars ∨ 0x80 ≤ n
  | [], i, i', h, _ => by
      cases h
      exact fun n hn => Or.inl hn
  | digit :: rest, i, i', h, hcode => by
      rw [List.foldlM_cons] at h
      obtain ⟨next, hnext, h⟩ := Option.bind_eq_some_iff.mp h
      obtain ⟨hcode', hchars⟩ := beyond_step hnext hcode
      intro n hn
      rcases beyond_foldlM rest h hcode' n hn with hn | hn
      · exact hchars n hn
      · exact Or.inr hn

/-- A label that is read has characters of the written one, and others beyond ASCII. -/
theorem mem_decode? {ns read : List Nat} (h : decode? ns = some read) {n : Nat} (hn : n ∈ read) :
    n ∈ ns ∨ 0x80 ≤ n := by
  unfold decode? at h
  dsimp only at h
  split at h
  · cases h
  · obtain ⟨digits, -, h⟩ := Option.bind_eq_some_iff.mp h
    obtain ⟨i, hrun, h⟩ := Option.bind_eq_some_iff.mp h
    split at h
    · cases h
      rcases beyond_foldlM digits hrun (Nat.le_refl 0x80) n hn with hn | hn
      · left
        -- what is kept stands in front of the last hyphen
        have hback := (List.drop_sublist 1 _).subset (List.mem_reverse.mp hn)
        exact List.mem_reverse.mp ((List.dropWhile_sublist _).subset hback)
      · exact Or.inr hn
    · cases h

end Punycode

/-! ## §3  Names -/

/-- Whether a character can stand in a name that is written under rules. -/
def Rules.Fits (rules : Rules) (n : Nat) : Prop :=
  n < 0x80 ∧ (rules.allowed n = true ∨ isPlain n = true ∨ n = 0x2E)

theorem allowed_of_readLabel? {rules : Rules} {ns read : List Nat}
    (h : readLabel? rules ns = some read) {n : Nat} (hn : n ∈ read) (hascii : n < 0x80) :
    rules.allowed n = true := by
  unfold readLabel? at h
  by_cases hall : (ns.all fun n => rules.allowed n || !isAscii n) = true
  · have hmem : n ∈ ns → rules.allowed n = true := by
      intro hns
      have hok := List.all_eq_true.mp hall n hns
      simpa [isAscii, hascii] using hok
    by_cases hmark : ns.take 4 = writtenMark
    · simp only [hall, hmark, Bool.not_true, Bool.false_eq_true, if_false, if_true] at h
      split at h
      · obtain ⟨decoded, hdecoded, h⟩ := Option.bind_eq_some_iff.mp h
        split at h
        · cases h
          rcases Punycode.mem_decode? (Option.filter_eq_some_iff.mp hdecoded).1 hn with hn | hn
          · exact hmem (List.mem_of_mem_drop hn)
          · omega
        · cases h
      · cases h
    · simp only [hall, hmark, Bool.not_true, Bool.false_eq_true, if_false] at h
      obtain ⟨same, hsame, h⟩ := Option.bind_eq_some_iff.mp h
      split at h
      · cases h
        cases hsame
        exact hmem hn
      · cases h
  · simp [hall] at h

theorem fits_of_writeLabel? {rules : Rules} {ns written : List Nat}
    (hallowed : ∀ n ∈ ns, n < 0x80 → rules.allowed n = true) (h : writeLabel? ns = some written)
    {n : Nat} (hn : n ∈ written) : rules.Fits n := by
  unfold writeLabel? at h
  split at h
  · rename_i hascii
    cases h
    have hlt : n < 0x80 := of_decide_eq_true (List.all_eq_true.mp hascii n hn)
    exact ⟨hlt, Or.inl (hallowed n hn hlt)⟩
  · split at h
    · cases h
      have hplain : ∀ m, isPlain m = true → rules.Fits m := by
        intro m hm
        refine ⟨?_, Or.inr (Or.inl hm)⟩
        simp only [isPlain, between, hyphen, Bool.or_eq_true, Bool.and_eq_true, decide_eq_true_eq,
          beq_iff_eq] at hm
        omega
      rcases List.mem_append.mp hn with hn | hn
      · refine hplain n ?_
        simp only [writtenMark, List.mem_cons, List.not_mem_nil, or_false] at hn
        rcases hn with rfl | rfl | rfl | rfl <;> rfl
      · rcases Punycode.mem_encode hn with ⟨hn, hlt⟩ | hn
        · exact ⟨hlt, Or.inl (hallowed n hn hlt)⟩
        · exact hplain n hn
    · cases h

theorem mem_joinLabels {labels : List (List Nat)} {n : Nat} (h : n ∈ joinLabels labels) :
    n = 0x2E ∨ ∃ label ∈ labels, n ∈ label := by
  match labels with
  | [] => cases h
  | [label] =>
      right
      exact ⟨label, List.mem_singleton_self label, by simpa [joinLabels] using h⟩
  | label :: next :: rest =>
      have hsplit : joinLabels (label :: next :: rest) =
          label ++ 0x2E :: joinLabels (next :: rest) := rfl
      rw [hsplit] at h
      rcases List.mem_append.mp h with h | h
      · exact Or.inr ⟨label, List.mem_cons_self, h⟩
      · rcases List.mem_cons.mp h with h | h
        · exact Or.inl h
        · rcases mem_joinLabels h with h | ⟨other, hother, h⟩
          · exact Or.inl h
          · exact Or.inr ⟨other, List.mem_cons_of_mem _ hother, h⟩

/-- **A name in ASCII consists of what the rules allow**, of plain characters and of full stops. -/
theorem fits_of_asciiName? {rules : Rules} {cs name : List Char}
    (h : asciiName? rules cs = some name) {c : Char} (hc : c ∈ name) : rules.Fits c.toNat := by
  unfold asciiName? at h
  obtain ⟨labels, hlabels, h⟩ := Option.bind_eq_some_iff.mp h
  obtain ⟨written, hwritten, h⟩ := Option.bind_eq_some_iff.mp h
  cases h
  obtain ⟨n, hn, rfl⟩ := List.mem_map.mp hc
  have hfits : rules.Fits n := by
    rcases mem_joinLabels hn with rfl | ⟨label, hlabel, hn⟩
    · exact ⟨by decide, Or.inr (Or.inr rfl)⟩
    · obtain ⟨read, hread, hwrite⟩ := Result.mem_of_mapM_eq_some hwritten label hlabel
      refine fits_of_writeLabel? ?_ hwrite hn
      intro m hm hlt
      unfold labels? at hlabels
      obtain ⟨mapped, -, hlabels⟩ := Option.bind_eq_some_iff.mp hlabels
      obtain ⟨reads, hreads, hlabels⟩ := Option.bind_eq_some_iff.mp hlabels
      have hsame : reads = labels := by
        dsimp only at hlabels
        split at hlabels
        · cases hlabels
        · exact Option.some.inj hlabels
      obtain ⟨ns, -, hns⟩ := Result.mem_of_mapM_eq_some hreads read (hsame ▸ hread)
      exact allowed_of_readLabel? hns hm hlt
  have hchar : (Char.ofNat n).toNat = n := by
    have hvalid : n.isValidChar := Or.inl (by have := hfits.1; omega)
    rw [Char.ofNat, dif_pos hvalid]
    rfl
  rw [hchar]
  exact hfits

end ReplySchema.Domain

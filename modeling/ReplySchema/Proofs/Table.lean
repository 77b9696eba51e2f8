import ReplySchema.Table

/-! # What is in a table

A pair that is in a table after something was set was there before or is the pair that was
set.  A name is there afterwards if it was there before or is the one that was set.
-/

set_option autoImplicit false

namespace ReplySchema.Table

variable {κ α : Type} [DecidableEq κ]

theorem mem_insert {k : κ} {v : α} {t : Table κ α} {e : κ × α} (h : e ∈ insert k v t) :
    e = (k, v) ∨ e ∈ t := by
  induction t with
  | nil => exact Or.inl (List.mem_singleton.mp h)
  | cons p rest ih =>
      obtain ⟨j, w⟩ := p
      unfold insert at h
      split at h
      · exact (List.mem_cons.mp h).imp_right (List.mem_cons_of_mem _)
      · rcases List.mem_cons.mp h with rfl | h
        · exact Or.inr List.mem_cons_self
        · exact (ih h).imp_right (List.mem_cons_of_mem _)

theorem insert_of_not_mem {k : κ} {t : Table κ α} (h : k ∉ keys t) (v : α) :
    insert k v t = t ++ [(k, v)] := by
  induction t with
  | nil => rfl
  | cons p rest ih =>
      obtain ⟨j, w⟩ := p
      obtain ⟨hj, hrest⟩ := not_or.mp fun hmem => h (List.mem_cons.mpr hmem)
      rw [insert, if_neg fun hjk => hj hjk.symm, ih hrest, List.cons_append]

/-- New keys go to the end one after the other. -/
theorem insertAll_eq_append {pairs : List (κ × α)} {t : Table κ α} (h : (keys (t ++ pairs)).Nodup) :
    insertAll pairs t = t ++ pairs := by
  unfold insertAll
  induction pairs generalizing t with
  | nil => exact (List.append_nil t).symm
  | cons p rest ih =>
      have hnew : p.1 ∉ keys t := by
        unfold keys at h ⊢
        rw [List.map_append, List.map_cons] at h
        exact fun hmem => (List.nodup_append.mp h).2.2 p.1 hmem p.1 List.mem_cons_self rfl
      rw [List.append_cons] at h
      rw [List.foldl_cons, insert_of_not_mem hnew, ih h, List.append_assoc, List.singleton_append]

theorem mem_insertAll {pairs : List (κ × α)} {t : Table κ α} {e : κ × α}
    (h : e ∈ insertAll pairs t) : e ∈ pairs ∨ e ∈ t := by
  unfold insertAll at h
  induction pairs generalizing t with
  | nil => exact Or.inr h
  | cons p rest ih =>
      rcases ih h with h | h
      · exact Or.inl (List.mem_cons_of_mem _ h)
      · rcases mem_insert h with rfl | h
        · exact Or.inl List.mem_cons_self
        · exact Or.inr h

theorem contains_of_find?_some {k : κ} {v : α} {t : Table κ α} (h : find? k t = some v) :
    contains k t = true := by
  unfold contains
  rw [h]
  rfl

theorem contains_of_find?_none {k : κ} {t : Table κ α} (h : find? k t = none) :
    contains k t = false := by
  unfold contains
  rw [h]
  rfl

theorem contains_insert (k j : κ) (v : α) (t : Table κ α) :
    contains k (insert j v t) = (decide (j = k) || contains k t) := by
  unfold contains
  rw [find?_insert]
  by_cases h : j = k
  · simp [h]
  · simp [h]

theorem find?_eq_some_iff {k : κ} {v : α} {t : Table κ α} (h : (keys t).Nodup) :
    find? k t = some v ↔ (k, v) ∈ t := by
  constructor
  · exact find?_mem
  · intro hmem
    induction t with
    | nil => cases hmem
    | cons p rest ih =>
        obtain ⟨j, w⟩ := p
        obtain ⟨hj, hrest⟩ := List.nodup_cons.mp h
        rcases List.mem_cons.mp hmem with heq | hmem
        · cases heq
          exact if_pos rfl
        · have hne : j ≠ k := by
            rintro rfl
            exact hj (List.mem_map.mpr ⟨(j, v), hmem, rfl⟩)
          rw [find?_cons, if_neg hne]
          exact ih hrest hmem

theorem find?_insertAll (k : κ) (pairs : List (κ × α)) (t : Table κ α) :
    find? k (insertAll pairs t) =
      ((pairs.reverse.find? fun p => decide (p.1 = k)).map (·.2) <|> find? k t) := by
  unfold insertAll
  induction pairs generalizing t with
  | nil => rfl
  | cons p rest ih =>
      rw [List.foldl_cons, ih, find?_insert, List.reverse_cons, List.find?_append]
      cases rest.reverse.find? fun p => decide (p.1 = k) with
      | some found => rfl
      | none => by_cases hp : p.1 = k <;> simp [hp]

theorem find?_append (k : κ) (t u : Table κ α) :
    find? k (t ++ u) = (find? k t <|> find? k u) := by
  induction t with
  | nil => rfl
  | cons p rest ih =>
      obtain ⟨j, v⟩ := p
      rw [List.cons_append, find?_cons, find?_cons, ih]
      split <;> rfl

/-- Where pairs are kept by their keys, a key that is kept has its value still. -/
theorem find?_filter (keep : κ → Bool) (k : κ) (t : Table κ α) :
    find? k (t.filter fun p => keep p.1) = if keep k then find? k t else none := by
  induction t with
  | nil => simp [find?]
  | cons p rest ih =>
      obtain ⟨j, v⟩ := p
      rw [List.filter_cons, find?_cons]
      by_cases hj : j = k
      · subst hj
        cases hkeep : keep j <;> simp [hkeep, ih, find?_cons]
      · cases keep j <;> simp [ih, find?_cons, hj]

omit [DecidableEq κ] in
theorem keys_append (t u : Table κ α) : keys (t ++ u) = keys t ++ keys u := List.map_append

omit [DecidableEq κ] in
theorem keys_filter (keep : κ → Bool) (t : Table κ α) :
    keys (t.filter fun p => keep p.1) = (keys t).filter keep :=
  List.filter_map.symm

/-- A key that is not kept may be set: nothing of it stays. -/
theorem filter_insert (keep : κ → Bool) {k : κ} (h : keep k = false) (v : α) (t : Table κ α) :
    (insert k v t).filter (fun p => keep p.1) = t.filter fun p => keep p.1 := by
  induction t with
  | nil => simp [insert, h]
  | cons p rest ih =>
      obtain ⟨j, w⟩ := p
      unfold insert
      by_cases hj : j = k
      · subst hj
        simp [h]
      · rw [if_neg hj, List.filter_cons, List.filter_cons, ih]

end ReplySchema.Table

import ReplySchema.Text.Blank

/-! # The ends of texts

What is left when the ends of a text are cut: its last character is none of those that were cut
(`getLast?_dropEndWhile`), and a text whose ends are fine is left alone
(`dropEndWhile_eq_self`, `trim_eq_self`).

Where a text is cut at a mark, there is no mark in front of the cut (`notMem_cutAt`).
-/

set_option autoImplicit false

namespace ReplySchema.Text

variable {α : Type} {p : α → Bool} {xs : List α}

/-! ## §1  Cutting the end -/

theorem dropEndWhile_prefix (p : α → Bool) (xs : List α) : dropEndWhile p xs <+: xs := by
  have hsuffix := List.dropWhile_suffix p (l := xs.reverse)
  rw [← List.reverse_prefix, List.reverse_reverse] at hsuffix
  exact hsuffix

/-- The last character that is left is none of those that were cut. -/
theorem getLast?_dropEndWhile {x : α} (h : (dropEndWhile p xs).getLast? = some x) : p x = false := by
  rw [dropEndWhile, List.getLast?_reverse] at h
  have hhead := List.head?_dropWhile_not p xs.reverse
  rw [h] at hhead
  exact hhead

theorem dropEndWhile_eq_self (h : ∀ x, xs.getLast? = some x → p x = false) :
    dropEndWhile p xs = xs := by
  rcases List.eq_nil_or_concat xs with rfl | ⟨front, x, rfl⟩
  · rfl
  · rw [List.concat_eq_append]
    refine dropEndWhile_of_last (h x ?_)
    rw [List.concat_eq_append, List.getLast?_concat]

theorem forall_of_dropEndWhile_eq_nil (h : dropEndWhile p xs = []) : ∀ x ∈ xs, p x = true := by
  rw [dropEndWhile, List.reverse_eq_nil_iff] at h
  have hall : xs.reverse.takeWhile p = xs.reverse := by
    rw [← List.append_nil (xs.reverse.takeWhile p), ← h, List.takeWhile_append_dropWhile]
  intro x hx
  rw [← List.mem_reverse, ← hall] at hx
  exact List.all_eq_true.mp List.all_takeWhile x hx

theorem dropEndWhile_concat_of_pos {x : α} (h : p x = true) :
    dropEndWhile p (xs ++ [x]) = dropEndWhile p xs := by
  rw [dropEndWhile, List.reverse_append, List.reverse_singleton, List.singleton_append,
    List.dropWhile_cons, if_pos h]
  rfl

/-! ## §2  Cutting both ends -/

theorem dropWhile_eq_self (h : ∀ x, xs.head? = some x → p x = false) : xs.dropWhile p = xs := by
  cases xs with
  | nil => rfl
  | cons x rest =>
      have hx := h x rfl
      rw [List.dropWhile_cons, hx]
      rfl

theorem stripWhile_eq_self (hhead : ∀ x, xs.head? = some x → p x = false)
    (hlast : ∀ x, xs.getLast? = some x → p x = false) : stripWhile p xs = xs := by
  rw [stripWhile, dropWhile_eq_self hhead, dropEndWhile_eq_self hlast]

theorem mem_dropWhile {x : α} (hx : x ∈ xs) (h : p x = false) : x ∈ xs.dropWhile p := by
  rw [← List.takeWhile_append_dropWhile (p := p) (l := xs)] at hx
  rcases List.mem_append.mp hx with hx | hx
  · rw [List.all_eq_true.mp List.all_takeWhile x hx] at h
    cases h
  · exact hx

theorem mem_stripWhile {x : α} (hx : x ∈ xs) (h : p x = false) : x ∈ stripWhile p xs :=
  List.mem_reverse.mpr (mem_dropWhile (List.mem_reverse.mpr (mem_dropWhile hx h)) h)

/-- A search that passes over what is cut off in front ends where it ended. -/
theorem takeWhile_dropWhile {q : α → Bool} (hpq : ∀ x, p x = true → q x = true) :
    (xs.dropWhile p).takeWhile q = (xs.takeWhile q).dropWhile p := by
  induction xs with
  | nil => rfl
  | cons x rest ih =>
      rw [List.dropWhile_cons, List.takeWhile_cons]
      by_cases hp : p x = true
      · rw [if_pos hp, if_pos (hpq x hp), List.dropWhile_cons_of_pos hp, ih]
      · rw [if_neg hp, List.takeWhile_cons]
        by_cases hq : q x = true
        · rw [if_pos hq, List.dropWhile_cons_of_neg hp]
        · rw [if_neg hq]
          rfl

/-- A search that passes over what is cut off at the end leaves the same, once its end is cut. -/
theorem dropEndWhile_takeWhile {q : α → Bool} (hpq : ∀ x, p x = true → q x = true) :
    dropEndWhile p ((dropEndWhile p xs).takeWhile q) =
      dropEndWhile p (xs.takeWhile q) := by
  have hends : dropEndWhile p xs ++ (xs.reverse.takeWhile p).reverse = xs := by
    rw [dropEndWhile, ← List.reverse_append, List.takeWhile_append_dropWhile,
      List.reverse_reverse]
  have hall : ∀ x ∈ (xs.reverse.takeWhile p).reverse, p x = true := fun x hx =>
    List.all_eq_true.mp List.all_takeWhile x (List.mem_reverse.mp hx)
  generalize dropEndWhile p xs = front at hends
  generalize (xs.reverse.takeWhile p).reverse = ending at hends hall
  subst hends
  rw [List.takeWhile_append]
  split
  · next hlength =>
      -- the search passes over all that is left, and so over what was cut off
      have hfront : front.takeWhile q = front := (List.takeWhile_prefix q).eq_of_length hlength
      have hending : ending.takeWhile q = ending := by
        rw [← List.append_nil ending,
          List.takeWhile_append_of_pos fun x hx => hpq x (hall x hx), List.takeWhile_nil]
      rw [hfront, hending, dropEndWhile, dropEndWhile, List.reverse_append,
        List.dropWhile_append_of_pos fun x hx => hall x (List.mem_reverse.mp hx)]
  · rfl

theorem trim_eq_self {s : String} (hhead : ∀ c, s.toList.head? = some c → isBlank c = false)
    (hlast : ∀ c, s.toList.getLast? = some c → isBlank c = false) : trim s = s := by
  rw [trim, stripWhile_eq_self hhead hlast, String.ofList_toList]

theorem head?_trim {s : String} {c : Char} (h : (trim s).toList.head? = some c) :
    isBlank c = false := by
  rw [trim, String.toList_ofList, stripWhile] at h
  have hhead := List.head?_dropWhile_not isBlank s.toList
  obtain ⟨cut, hcut⟩ := dropEndWhile_prefix isBlank (s.toList.dropWhile isBlank)
  rw [← hcut, List.head?_append, h] at hhead
  exact hhead

theorem getLast?_trim {s : String} {c : Char} (h : (trim s).toList.getLast? = some c) :
    isBlank c = false := by
  rw [trim, String.toList_ofList] at h
  exact getLast?_dropEndWhile h

theorem trim_trim (s : String) : trim (trim s) = trim s :=
  trim_eq_self (fun _ => head?_trim) fun _ => getLast?_trim

/-! ## §3  Cutting at a mark -/

theorem notMem_cutAt (c : Char) (cs : List Char) : c ∉ (cutAt c cs).1 := by
  induction cs with
  | nil => exact List.not_mem_nil
  | cons d rest ih =>
      rw [cutAt]
      split
      · exact List.not_mem_nil
      · rename_i hd
        rw [List.mem_cons, not_or]
        exact ⟨Ne.symm hd, ih⟩

theorem eq_of_cutAt_none {c : Char} {cs front : List Char} (h : cutAt c cs = (front, none)) :
    cs = front := by
  induction cs generalizing front with
  | nil =>
      cases h
      rfl
  | cons d rest ih =>
      rw [cutAt] at h
      split at h
      · cases h
      · rw [Prod.mk.injEq] at h
        obtain ⟨hfront, hnone⟩ := h
        rw [← hfront]
        exact congrArg (d :: ·) (ih (Prod.ext rfl hnone))

theorem cutAt_fst (c : Char) (cs : List Char) :
    (cutAt c cs).1 = cs.takeWhile fun d => decide (d ≠ c) := by
  induction cs with
  | nil => rfl
  | cons d rest ih =>
      rw [cutAt, List.takeWhile_cons]
      by_cases hd : d = c
      · simp [hd]
      · simp [hd, ih]

theorem cutAt_of_notMem {c : Char} {cs : List Char} (h : c ∉ cs) : cutAt c cs = (cs, none) := by
  induction cs with
  | nil => rfl
  | cons d rest ih =>
      rw [cutAt, if_neg (List.ne_of_not_mem_cons h).symm, ih (List.not_mem_of_not_mem_cons h)]

end ReplySchema.Text

import ReplySchema.Proofs.Json.Grammar
import ReplySchema.Serializer.Coercion

/-! # Texts of numbers

Whatever writes a number writes a number: the digits of integers, the two layouts of the
fewest digits that read back, and the layout without exponents.  What is to be shown is that
no zero stands in front and that no place for digits stays empty.  For the fewest digits this
rests on one fact, that their coefficient is not zero (`coefficient_shortest_ne_zero`): zero
does not read back as anything else.
-/

set_option autoImplicit false

namespace ReplySchema.Decimal

open Grammar

/-! ## §1  Digits -/

theorem isDigits_digits (n : Nat) : IsDigits (digits n) :=
  ⟨Nat.toDigits_ne_nil, fun _ hc => isDigit_of_mem_digits hc⟩

theorem head?_digits_ne_zero {n : Nat} (h : n ≠ 0) : (digits n).head? ≠ some '0' := by
  induction n using Nat.strong_induction_on with
  | _ n ih =>
      unfold digits
      rw [Nat.toDigits_eq_if (by decide)]
      split
      · next hlt =>
          have hdigits : ∀ d < 10, d ≠ 0 → [Nat.digitChar d].head? ≠ some '0' := by decide
          exact hdigits n hlt h
      · next hge =>
          have hquotient : n / 10 ≠ 0 := by omega
          rw [List.head?_append_of_ne_nil _ Nat.toDigits_ne_nil]
          exact ih (n / 10) (by omega) hquotient

theorem isWhole_digits (n : Nat) : IsWhole (digits n) := by
  by_cases h : n = 0
  · subst h
    exact Or.inl (Nat.toDigits_zero 10)
  · exact Or.inr ⟨isDigits_digits n, head?_digits_ne_zero h⟩

theorem isDigits_append_zeros {ds : List Char} (h : IsDigits ds) (k : Nat) :
    IsDigits (ds ++ List.replicate k '0') := by
  obtain ⟨hne, hall⟩ := h
  refine ⟨by simp [hne], fun c hc => ?_⟩
  rcases List.mem_append.mp hc with hc | hc
  · exact hall c hc
  · rw [List.eq_of_mem_replicate hc]
    rfl

theorem isNumber_of_whole (negative : Bool) {whole fraction : List Char} (hwhole : IsWhole whole)
    (hfraction : IsFraction fraction) :
    IsNumber ((if negative then ['-'] else []) ++ (whole ++ fraction)) := by
  refine ⟨if negative then ['-'] else [], ?_, whole, fraction, [], hwhole, hfraction, Or.inl rfl,
    by simp⟩
  cases negative <;> simp

theorem isFraction_nil : IsFraction [] := Or.inl rfl

theorem isNumber_intChars (n : Int) : IsNumber (intChars n) := by
  have hnumber := isNumber_of_whole (decide (n < 0)) (isWhole_digits n.natAbs) isFraction_nil
  unfold intChars
  rw [List.append_nil] at hnumber
  split
  · next h =>
      rw [decide_eq_true h] at hnumber
      exact hnumber
  · next h =>
      rw [decide_eq_false h] at hnumber
      exact hnumber

/-! ## §2  The fewest digits -/

theorem ofDecimal_zero (negative : Bool) (exponent : Int) :
    Binary64.ofDecimal negative 0 exponent = Binary64.zero negative := by
  unfold Binary64.ofDecimal
  dsimp only
  rw [if_pos rfl]

theorem coefficient_neighbour_ne_zero {m : Nat} {e : Int} (hm : m ≠ 0) {num den : Nat} {s : Int}
    {x : Scientific} (h : neighbour (.finite false m e) num den s = some x) :
    x.coefficient ≠ 0 := by
  have hreads : ∀ c,
      (Binary64.ofDecimal false c s == Binary64.finite false m e) = true → c ≠ 0 := by
    rintro c hc rfl
    rw [ofDecimal_zero, beq_iff_eq] at hc
    exact hm (Binary64.finite.inj hc).2.1.symm
  unfold neighbour at h
  dsimp only at h
  split at h
  · split at h
    · next hc => cases h; exact hreads _ hc
    · split at h
      · next hc => cases h; exact hreads _ hc
      · cases h
  · split at h
    · next hc => cases h; exact hreads _ hc
    · split at h
      · next hc => cases h; exact hreads _ hc
      · cases h

theorem coefficient_firstHit_ne_zero {m : Nat} {e : Int} (hm : m ≠ 0) {num den : Nat} {k : Int}
    {fuel n : Nat} {x : Scientific} (h : firstHit (.finite false m e) num den k fuel n = some x) :
    x.coefficient ≠ 0 := by
  induction fuel generalizing n with
  | zero => cases h
  | succ fuel ih =>
      unfold firstHit at h
      split at h
      · next hit hhit =>
          cases h
          exact coefficient_neighbour_ne_zero hm hhit
      · exact ih h

/-- Zeros at the end are fewer than digits, so something is left without them. -/
theorem coefficient_trimmed_ne_zero {x : Scientific} (h : x.coefficient ≠ 0) :
    x.trimmed.coefficient ≠ 0 := by
  unfold Scientific.trimmed
  dsimp only
  generalize hz : ((digits x.coefficient).reverse.takeWhile (· == '0')).length = zeros
  have hlt : zeros < (digits x.coefficient).length := by
    by_contra hge
    have hall : (digits x.coefficient).reverse.takeWhile (· == '0') =
        (digits x.coefficient).reverse := by
      refine (List.takeWhile_prefix _).eq_of_length_le ?_
      rw [hz, List.length_reverse]
      exact not_lt.mp hge
    refine head?_digits_ne_zero h ?_
    cases hds : digits x.coefficient with
    | nil => exact absurd hds Nat.toDigits_ne_nil
    | cons c rest =>
        have hzeros := List.all_takeWhile (p := (· == '0')) (l := (digits x.coefficient).reverse)
        rw [hall, hds, List.all_reverse, List.all_cons, Bool.and_eq_true, beq_iff_eq] at hzeros
        rw [List.head?_cons, hzeros.1]
  have hle : 10 ^ zeros ≤ x.coefficient := by
    by_cases hpos : 0 < zeros
    · by_contra hsmall
      have hlength := (Nat.length_toDigits_le_iff (by decide) hpos).mpr (not_le.mp hsmall)
      unfold digits at hlt
      omega
    · rw [Nat.eq_zero_of_not_pos hpos, pow_zero]
      exact Nat.pos_of_ne_zero h
  exact (Nat.div_pos hle (by positivity)).ne'

theorem coefficient_shortest_ne_zero {m : Nat} (e : Int) (hm : m ≠ 0) :
    (shortest m e).coefficient ≠ 0 := by
  unfold shortest
  dsimp only
  split
  · next hit hhit => exact coefficient_trimmed_ne_zero (coefficient_firstHit_ne_zero hm hhit)
  · exact hm

/-! ## §3  Layouts -/

theorem positional_eq {x : Scientific} (h : x.coefficient ≠ 0) :
    ∃ whole fraction, IsWhole whole ∧ IsFraction fraction ∧ x.positional = whole ++ fraction ∧
      (0 ≤ x.exponent → fraction = []) := by
  have hdigits := isDigits_digits x.coefficient
  have hhead := head?_digits_ne_zero h
  unfold Scientific.positional
  dsimp only
  generalize digits x.coefficient = ds at hdigits hhead
  split
  · next hexponent =>
      refine ⟨_, [], Or.inr ⟨isDigits_append_zeros hdigits x.exponent.toNat, ?_⟩, isFraction_nil,
        (List.append_nil _).symm, fun _ => rfl⟩
      rwa [List.head?_append_of_ne_nil _ hdigits.1]
  · next hexponent =>
      split
      · next hshort =>
          refine ⟨ds.take (ds.length - (-x.exponent).toNat), _, Or.inr ⟨⟨?_, ?_⟩, ?_⟩,
            Or.inr ⟨ds.drop (ds.length - (-x.exponent).toNat), ⟨?_, ?_⟩, rfl⟩, rfl,
            fun hnonneg => absurd hnonneg hexponent⟩
          · rw [← List.length_pos_iff, List.length_take]
            omega
          · exact fun c hc => hdigits.2 c (List.mem_of_mem_take hc)
          · rwa [List.head?_take, if_neg (by omega)]
          · rw [← List.length_pos_iff, List.length_drop]
            omega
          · exact fun c hc => hdigits.2 c (List.mem_of_mem_drop hc)
      · next hlong =>
          refine ⟨['0'], _, Or.inl rfl, Or.inr ⟨_, ⟨?_, ?_⟩, rfl⟩, rfl,
            fun hnonneg => absurd hnonneg hexponent⟩
          · exact List.append_ne_nil_of_right_ne_nil _ hdigits.1
          · intro c hc
            rcases List.mem_append.mp hc with hc | hc
            · rw [List.eq_of_mem_replicate hc]
              rfl
            · exact hdigits.2 c hc

theorem exponential_eq (x : Scientific) :
    ∃ whole fraction exponent, IsWhole whole ∧ IsFraction fraction ∧ IsExponent exponent ∧
      x.exponential = whole ++ fraction ++ exponent := by
  have hexponent : IsExponent ('e' :: (if x.magnitude < 0 then '-' else '+') ::
      digits x.magnitude.natAbs) := by
    refine Or.inr ⟨'e', by simp, [if x.magnitude < 0 then '-' else '+'], ?_, _,
      isDigits_digits _, rfl⟩
    split <;> simp
  have hdigits := isDigits_digits x.coefficient
  unfold Scientific.exponential
  dsimp only
  generalize digits x.coefficient = ds at hdigits
  have hsingle : ∀ d, d.isDigit = true → IsWhole [d] := by
    intro d hd
    by_cases hzero : d = '0'
    · exact Or.inl (by rw [hzero])
    · refine Or.inr ⟨⟨by simp, by simpa using hd⟩, by simpa using hzero⟩
  cases ds with
  | nil => exact absurd rfl hdigits.1
  | cons d rest =>
      have hd := hsingle d (hdigits.2 d List.mem_cons_self)
      cases rest with
      | nil => exact ⟨[d], [], _, hd, isFraction_nil, hexponent, by simp⟩
      | cons d' rest =>
          refine ⟨[d], '.' :: d' :: rest, _, hd, Or.inr ⟨d' :: rest, ⟨by simp, ?_⟩, rfl⟩, hexponent,
            by simp⟩
          exact fun c hc => hdigits.2 c (List.mem_cons_of_mem _ hc)

theorem isNumber_plainChars {x : Binary64} (h : x.isFinite = true) : IsNumber (plainChars x) := by
  cases x with
  | infinite negative => cases h
  | nan => cases h
  | finite negative m e =>
      simp only [plainChars]
      by_cases hm : m = 0
      · have hnumber := isNumber_of_whole negative (show IsWhole ['0'] from Or.inl rfl)
          isFraction_nil
        rw [if_pos hm]
        rwa [List.append_nil] at hnumber
      · rw [if_neg hm]
        obtain ⟨whole, fraction, hwhole, hfraction, heq, -⟩ :=
          positional_eq (coefficient_shortest_ne_zero e hm)
        rw [heq]
        exact isNumber_of_whole negative hwhole hfraction

/-! ## §4  Reading -/

theorem isDatum_read? {cs : List Char} {x : Binary64} (h : read? cs = some x) : x.IsDatum := by
  unfold read? at h
  dsimp only at h
  split at h
  · cases h
    trivial
  · split at h
    · cases h
      trivial
    · unfold magnitudeOf? at h
      dsimp only at h
      -- with a point or without one
      split at h
      all_goals
        split at h
        · cases h
        · obtain ⟨exponent, -, rfl⟩ := Option.map_eq_some_iff.mp h
          exact Binary64.isDatum_ofDecimal _ _ _

end ReplySchema.Decimal

namespace ReplySchema

open Grammar

/-! ## §5  What is written -/

theorem Written.isNumber_floatChars {x : Binary64} (h : x.isFinite = true) :
    IsNumber (floatChars x) := by
  have hzero : IsDigits ['0'] :=
    ⟨List.cons_ne_nil _ _, fun c hc => List.mem_singleton.mp hc ▸ rfl⟩
  have hpointZero : IsFraction ['.', '0'] := Or.inr ⟨['0'], hzero, rfl⟩
  cases x with
  | infinite negative => cases h
  | nan => cases h
  | finite negative m e =>
      simp only [floatChars]
      by_cases hm : m = 0
      · rw [if_pos hm]
        exact Decimal.isNumber_of_whole negative (show IsWhole ['0'] from Or.inl rfl) hpointZero
      · rw [if_neg hm]
        have hne := Decimal.coefficient_shortest_ne_zero e hm
        obtain ⟨whole, fraction, hwhole, hfraction, hpositional, hpoint⟩ :=
          Decimal.positional_eq hne
        by_cases hlayout : isPositional (Decimal.shortest m e).magnitude = true
        · rw [if_pos hlayout, hpositional]
          by_cases hexponent : 0 ≤ (Decimal.shortest m e).exponent
          · rw [if_pos hexponent, hpoint hexponent, List.append_nil]
            exact Decimal.isNumber_of_whole negative hwhole hpointZero
          · rw [if_neg hexponent]
            exact Decimal.isNumber_of_whole negative hwhole hfraction
        · rw [if_neg hlayout]
          obtain ⟨whole, fraction, exponent, hwhole, hfraction, hexponent, heq⟩ :=
            Decimal.exponential_eq (Decimal.shortest m e)
          refine ⟨if negative then ['-'] else [], ?_, whole, fraction, exponent, hwhole,
            hfraction, hexponent, by rw [heq]; simp⟩
          cases negative <;> simp

theorem Written.isNumber_numberChars {n : Number} (h : n.IsSound) : IsNumber (numberChars n) := by
  cases n with
  | int n => exact Decimal.isNumber_intChars n
  | float x => exact isNumber_floatChars h.1

namespace Coercion

/-- **A whole double is written by its digits**, whether it is cast or not. -/
theorem wholeChars_finite (negative : Bool) (m : Nat) (e : Int) :
    wholeChars (.finite negative m e) = Decimal.intChars
      (if negative then -((Binary64.finite negative m e).wholePart : Int)
        else (Binary64.finite negative m e).wholePart) := by
  unfold wholeChars isCastable
  cases hcast : decide ((Binary64.finite negative m e).wholePart < 9000000000000000000) with
  | true =>
      -- below the bound the cast does not saturate
      have hsmall := of_decide_eq_true hcast
      refine congrArg Decimal.intChars ?_
      unfold Binary64.toInt64 Binary64.leastInt64 Binary64.greatestInt64
      dsimp only
      split <;> omega
  | false =>
      -- above it there is no zero, which would have no sign as an integer
      have hgreat := of_decide_eq_false hcast
      rw [Bool.and_false, if_neg Bool.false_ne_true]
      unfold Decimal.wholeChars Decimal.intChars
      dsimp only
      cases negative with
      | false => rw [if_neg Bool.false_ne_true, if_neg Bool.false_ne_true, if_neg (by omega)]; rfl
      | true => rw [if_pos rfl, if_pos rfl, if_pos (by omega), Int.natAbs_neg]; rfl

theorem isNumber_wholeChars {x : Binary64} (h : x.isFinite = true) : IsNumber (wholeChars x) := by
  cases x with
  | infinite negative => cases h
  | nan => cases h
  | finite negative m e =>
      rw [wholeChars_finite]
      exact Decimal.isNumber_intChars _

theorem isNumber_doubleChars {x : Binary64} (h : x.isFinite = true) :
    IsNumber (doubleChars x) := by
  unfold doubleChars
  split
  · exact isNumber_wholeChars h
  · exact Decimal.isNumber_plainChars h

theorem isSound_doubleOf? {v : Json} {x : Binary64} (h : doubleOf? v = some x) :
    x.isFinite = true ∧ x.IsDatum := by
  have hsmall : ∀ n ∈ [(0 : Int), 1], (Binary64.ofInt n).isFinite = true := by decide
  cases v with
  | null =>
      cases h
      exact ⟨hsmall 0 (by simp), Binary64.isDatum_ofScaled 0 0⟩
  | bool b =>
      cases h
      cases b with
      | true => exact ⟨hsmall 1 (by simp), Binary64.isDatum_ofScaled 1 0⟩
      | false => exact ⟨hsmall 0 (by simp), Binary64.isDatum_ofScaled 0 0⟩
  | string s =>
      simp only [doubleOf?] at h
      split at h
      · cases h
        exact ⟨hsmall 0 (by simp), Binary64.isDatum_ofScaled 0 0⟩
      · obtain ⟨hread, hfinite⟩ := Option.filter_eq_some_iff.mp h
        exact ⟨hfinite, Decimal.isDatum_read? hread⟩
  | number n => cases h
  | array items => cases h
  | object members => cases h

theorem isNumber_integerChars? {rounding : Rounding} {v : Json} (hv : v.IsSound) {cs : List Char}
    (h : integerChars? rounding v = some cs) : IsNumber cs := by
  have hother : (doubleOf? v).map (fun x => wholeChars (rounding.apply x)) = some cs →
      IsNumber cs := by
    intro h
    obtain ⟨x, hx, rfl⟩ := Option.map_eq_some_iff.mp h
    obtain ⟨hfinite, hdatum⟩ := isSound_doubleOf? hx
    exact isNumber_wholeChars (Binary64.isFinite_apply rounding hfinite hdatum)
  cases v with
  | number n =>
      cases n with
      | int n =>
          cases h
          exact Decimal.isNumber_intChars n
      | float x =>
          obtain ⟨hfinite, hdatum⟩ : (Number.float x).IsSound := by
            cases hv with
            | number h => exact h
          simp only [integerChars?, hfinite, if_true, Option.some.injEq] at h
          subst h
          exact isNumber_wholeChars (Binary64.isFinite_apply rounding hfinite hdatum)
  | _ => exact hother h

theorem isNumber_numberChars? {v : Json} {cs : List Char} (h : numberChars? v = some cs) :
    IsNumber cs := by
  have hother : (doubleOf? v).map doubleChars = some cs → IsNumber cs := by
    intro h
    obtain ⟨x, hx, rfl⟩ := Option.map_eq_some_iff.mp h
    exact isNumber_doubleChars (isSound_doubleOf? hx).1
  cases v with
  | number n =>
      cases n with
      | int n =>
          cases h
          exact Decimal.isNumber_intChars n
      | float x =>
          simp only [numberChars?] at h
          split at h
          · next hfinite =>
              cases h
              exact isNumber_doubleChars hfinite
          · cases h
  | _ => exact hother h

end Coercion

end ReplySchema

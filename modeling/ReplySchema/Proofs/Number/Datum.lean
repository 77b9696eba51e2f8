import Mathlib.Algebra.Order.Field.Power
import Mathlib.Algebra.Order.Field.Rat
import Mathlib.Tactic.NormNum
import Mathlib.Tactic.Positivity
import ReplySchema.Serializer.Rounding

/-! # Doubles that there are

A value of the type of doubles can have any mantissa and any exponent; a double that there
is has 53 bits at most and an exponent in range (`IsDatum`).  Rounding a quotient makes
nothing else, because the exponent is chosen so that 53 bits are enough: this is the upper
half of what `log2Ratio` promises (`lt_mul_zpow_log2Ratio`).

The second half of the module is about overflow.  A whole number near a finite double is
finite too, which needs a closer look only where one half is added to the greatest doubles.
-/

set_option autoImplicit false

namespace ReplySchema.Binary64

/-- Whether a value is one of the doubles that there are. -/
def IsDatum : Binary64 → Prop
  | finite _ m e => m < 2 ^ 53 ∧ leastExponent ≤ e ∧ e ≤ greatestExponent
  | _ => True

theorem isDatum_zero (negative : Bool) : (zero negative).IsDatum :=
  ⟨by norm_num, le_refl _, by decide⟩

/-! ## §1  The size of a quotient -/

/-- Quotients are compared with powers of two by natural numbers alone. -/
theorem lt_mul_zpow_iff (num den : Nat) (k : Int) : (num : ℚ) < den * (2 : ℚ) ^ k ↔
    if 0 ≤ k then num < den * 2 ^ k.toNat else num * 2 ^ (-k).toNat < den := by
  split
  · next hk =>
      obtain ⟨n, rfl⟩ := Int.eq_ofNat_of_zero_le hk
      rw [zpow_natCast, Int.toNat_natCast]
      exact_mod_cast Iff.rfl
  · next hk =>
      obtain ⟨n, hn⟩ := Int.eq_ofNat_of_zero_le (show 0 ≤ -k by omega)
      rw [hn, Int.toNat_natCast, ← neg_neg k, hn, zpow_neg, zpow_natCast, ← div_eq_mul_inv,
        lt_div_iff₀ (by positivity)]
      exact_mod_cast Iff.rfl

/-- A quotient is less than the power of two behind its binary logarithm. -/
theorem lt_mul_zpow_log2Ratio (num : Nat) {den : Nat} (hden : den ≠ 0) :
    (num : ℚ) < den * (2 : ℚ) ^ (log2Ratio num den + 1) := by
  unfold log2Ratio
  generalize hk : (num.log2 : Int) - (den.log2 : Int) = k
  have hestimate : (num : ℚ) < den * (2 : ℚ) ^ (k + 1) := by
    have hnum : (num : ℚ) < (2 : ℚ) ^ ((num.log2 : Int) + 1) := by
      have h : num < 2 ^ (num.log2 + 1) := Nat.lt_log2_self
      rw [← Nat.cast_succ, zpow_natCast]
      exact_mod_cast h
    have hlow : (2 : ℚ) ^ (den.log2 : Int) ≤ den := by
      have h : 2 ^ den.log2 ≤ den := Nat.log2_self_le hden
      rw [zpow_natCast]
      exact_mod_cast h
    calc (num : ℚ) < (2 : ℚ) ^ ((num.log2 : Int) + 1) := hnum
      _ = (2 : ℚ) ^ (den.log2 : Int) * (2 : ℚ) ^ (k + 1) := by
        rw [← zpow_add₀ (by norm_num)]
        congr 1
        omega
      _ ≤ den * (2 : ℚ) ^ (k + 1) := mul_le_mul_of_nonneg_right hlow (by positivity)
  dsimp only
  by_cases hbelow : (num : ℚ) < den * (2 : ℚ) ^ k
  · rw [if_pos ((lt_mul_zpow_iff num den k).mp hbelow), sub_add_cancel]
    exact hbelow
  · rw [if_neg fun h => hbelow ((lt_mul_zpow_iff num den k).mpr h)]
    exact hestimate

/-- A quotient is at least the power of two at its binary logarithm. -/
theorem mul_zpow_log2Ratio_le {num : Nat} (hnum : num ≠ 0) (den : Nat) :
    den * (2 : ℚ) ^ log2Ratio num den ≤ num := by
  unfold log2Ratio
  generalize hk : (num.log2 : Int) - (den.log2 : Int) = k
  have hestimate : den * (2 : ℚ) ^ (k - 1) ≤ num := by
    have hnum' : (2 : ℚ) ^ (num.log2 : Int) ≤ num := by
      have h : 2 ^ num.log2 ≤ num := Nat.log2_self_le hnum
      rw [zpow_natCast]
      exact_mod_cast h
    have hden' : (den : ℚ) ≤ (2 : ℚ) ^ ((den.log2 : Int) + 1) := by
      have h : den < 2 ^ (den.log2 + 1) := Nat.lt_log2_self
      rw [← Nat.cast_succ, zpow_natCast]
      exact_mod_cast h.le
    calc den * (2 : ℚ) ^ (k - 1)
        ≤ (2 : ℚ) ^ ((den.log2 : Int) + 1) * (2 : ℚ) ^ (k - 1) :=
          mul_le_mul_of_nonneg_right hden' (by positivity)
      _ = (2 : ℚ) ^ (num.log2 : Int) := by
        rw [← zpow_add₀ (by norm_num)]
        congr 1
        omega
      _ ≤ num := hnum'
  dsimp only
  by_cases hbelow : (num : ℚ) < den * (2 : ℚ) ^ k
  · rw [if_pos ((lt_mul_zpow_iff num den k).mp hbelow)]
    exact hestimate
  · rw [if_neg fun h => hbelow ((lt_mul_zpow_iff num den k).mpr h)]
    exact not_lt.mp hbelow

theorem log2Ratio_le (num den : Nat) : log2Ratio num den ≤ (num.log2 : Int) - (den.log2 : Int) := by
  unfold log2Ratio
  dsimp only
  split <;> omega

/-! ## §2  Rounding a quotient -/

theorem divNearestEven_le (num den : Nat) : divNearestEven num den ≤ num / den + 1 := by
  unfold divNearestEven
  dsimp only
  split
  · omega
  · split
    · omega
    · split <;> omega

def roundingExponent (num den : Nat) : Int := max leastExponent (log2Ratio num den - 52)

def roundingMantissa (num den : Nat) : Nat :=
  if 0 ≤ roundingExponent num den then
    divNearestEven num (den * 2 ^ (roundingExponent num den).toNat)
  else divNearestEven (num * 2 ^ (-roundingExponent num den).toNat) den

theorem roundingMantissa_le (num : Nat) {den : Nat} (hden : den ≠ 0) :
    roundingMantissa num den ≤ 2 ^ 53 := by
  have hlt : (num : ℚ) < den * (2 : ℚ) ^ (roundingExponent num den + 53) := by
    refine lt_of_lt_of_le (lt_mul_zpow_log2Ratio num hden) ?_
    refine mul_le_mul_of_nonneg_left ?_ (by positivity)
    refine zpow_le_zpow_right₀ (by norm_num) ?_
    unfold roundingExponent
    omega
  rw [zpow_add₀ (by norm_num), ← mul_assoc] at hlt
  unfold roundingMantissa
  split
  · next he =>
      refine le_trans (divNearestEven_le _ _) ?_
      obtain ⟨n, hn⟩ := Int.eq_ofNat_of_zero_le he
      rw [hn] at hlt ⊢
      have hnat : num < 2 ^ 53 * (den * 2 ^ n) := by
        rw [mul_comm]
        rw [zpow_natCast] at hlt
        exact_mod_cast hlt
      exact Nat.div_lt_of_lt_mul (by rwa [mul_comm] at hnat)
  · next he =>
      refine le_trans (divNearestEven_le _ _) ?_
      obtain ⟨n, hn⟩ := Int.eq_ofNat_of_zero_le (show 0 ≤ -roundingExponent num den by omega)
      rw [hn]
      have hexponent : roundingExponent num den = -(n : Int) := by omega
      have hnat : num * 2 ^ n < den * 2 ^ 53 := by
        rw [hexponent, zpow_neg, zpow_natCast, mul_right_comm, ← div_eq_mul_inv,
          lt_div_iff₀ (by positivity)] at hlt
        exact_mod_cast hlt
      exact Nat.div_lt_of_lt_mul hnat

/-- The mantissa and the exponent of a rounded quotient, once 53 bits are enough again. -/
def carried (num den : Nat) : Nat × Int :=
  if roundingMantissa num den = 2 ^ 53 then (2 ^ 52, roundingExponent num den + 1)
  else (roundingMantissa num den, roundingExponent num den)

theorem ofRatio_eq (negative : Bool) (num den : Nat) :
    ofRatio negative num den =
      if num = 0 then zero negative
      else if greatestExponent < (carried num den).2 then infinite negative
      else if (carried num den).1 = 0 then zero negative
      else finite negative (carried num den).1 (carried num den).2 := by
  rfl

/-- **Rounding makes doubles that there are.** -/
theorem isDatum_ofRatio (negative : Bool) (num : Nat) {den : Nat} (hden : den ≠ 0) :
    (ofRatio negative num den).IsDatum := by
  rw [ofRatio_eq]
  split
  · exact isDatum_zero negative
  · have hle := roundingMantissa_le num hden
    have hleast : leastExponent ≤ roundingExponent num den := le_max_left _ _
    unfold carried
    by_cases hcarry : roundingMantissa num den = 2 ^ 53
    · rw [if_pos hcarry]
      dsimp only
      split
      · trivial
      · next hexponent =>
          rw [if_neg (by norm_num)]
          exact ⟨by norm_num, by omega, by omega⟩
    · rw [if_neg hcarry]
      dsimp only
      split
      · trivial
      · next hexponent =>
          split
          · exact isDatum_zero negative
          · exact ⟨by omega, hleast, by omega⟩

theorem isDatum_ofScaled (n e : Int) : (ofScaled n e).IsDatum := by
  unfold ofScaled scale
  by_cases he : 0 ≤ e
  · rw [if_pos he]
    exact isDatum_ofRatio _ _ one_ne_zero
  · rw [if_neg he]
    exact isDatum_ofRatio _ _ (by positivity)

theorem isDatum_ofDecimal (negative : Bool) (coefficient : Nat) (exponent : Int) :
    (ofDecimal negative coefficient exponent).IsDatum := by
  unfold ofDecimal
  dsimp only
  split
  · exact isDatum_zero negative
  · split
    · trivial
    · split
      · exact isDatum_zero negative
      · split
        · exact isDatum_ofRatio _ _ one_ne_zero
        · exact isDatum_ofRatio _ _ (by positivity)

theorem isDatum_addHalf {x : Binary64} (hdatum : x.IsDatum) : x.addHalf.IsDatum := by
  cases x with
  | infinite negative => trivial
  | nan => trivial
  | finite negative m e =>
      simp only [addHalf]
      split
      · exact isDatum_ofScaled _ _
      · exact isDatum_ofScaled _ _

/-! ## §3  No overflow near a double -/

theorem isFinite_ofRatio (negative : Bool) {num den : Nat}
    (hexponent : roundingExponent num den ≤ greatestExponent)
    (hcarry : roundingMantissa num den = 2 ^ 53 → roundingExponent num den < greatestExponent) :
    (ofRatio negative num den).isFinite = true := by
  rw [ofRatio_eq]
  split
  · rfl
  · unfold carried
    by_cases hfull : roundingMantissa num den = 2 ^ 53
    · have hlt := hcarry hfull
      rw [if_pos hfull]
      dsimp only
      rw [if_neg (by omega), if_neg (by norm_num)]
      rfl
    · rw [if_neg hfull]
      dsimp only
      rw [if_neg (by omega)]
      split <;> rfl

theorem isFinite_ofRatio_of_log2 (negative : Bool) {num den : Nat}
    (h : (num.log2 : Int) - den.log2 < greatestExponent) :
    (ofRatio negative num den).isFinite = true := by
  have hle := log2Ratio_le num den
  have hexponent : roundingExponent num den < greatestExponent := by
    unfold roundingExponent leastExponent
    unfold greatestExponent at h ⊢
    omega
  exact isFinite_ofRatio negative hexponent.le fun _ => hexponent

theorem log2_le_of_lt {n k : Nat} (h : n < 2 ^ (k + 1)) : n.log2 ≤ k := by
  by_cases hn : n = 0
  · subst hn
    simp
  · exact Nat.le_of_lt_succ ((Nat.log2_lt hn).mpr h)

theorem isFinite_toWhole {x : Binary64} (up : Bool → Bool) (hx : x.isFinite = true)
    (hdatum : x.IsDatum) : (x.toWhole up).isFinite = true := by
  cases x with
  | infinite negative => cases hx
  | nan => cases hx
  | finite negative m e =>
      obtain ⟨hm, -, -⟩ := hdatum
      simp only [toWhole]
      by_cases he : 0 ≤ e
      · rw [if_pos he]
        rfl
      · rw [if_neg he]
        have hquotient : m / 2 ^ (-e).toNat ≤ m := Nat.div_le_self _ _
        refine isFinite_ofRatio_of_log2 negative ?_
        have hlog : ∀ n ≤ 2 ^ 53, (n.log2 : Int) - (Nat.log2 1 : Int) < greatestExponent := by
          intro n hn
          have hle : n.log2 ≤ 53 := log2_le_of_lt (by omega)
          rw [show Nat.log2 1 = 0 by decide]
          unfold greatestExponent
          omega
        split
        · exact hlog _ (by omega)
        · exact hlog _ (by omega)

/-- One half more than a whole double is rounded to 53 bits without a carry. -/
theorem divNearestEven_half_lt {m num k : Nat} (hk : 2 ≤ k) (hm : m < 2 ^ 53)
    (hnum : num ≤ m * 2 ^ k + 1) : divNearestEven num (2 ^ k) < 2 ^ 53 := by
  have hfour : 2 ^ 2 ≤ 2 ^ k := Nat.pow_le_pow_right (by norm_num) hk
  have hpos : 0 < 2 ^ k := by positivity
  have hsplit := Nat.div_add_mod num (2 ^ k)
  by_cases hq : num / 2 ^ k < m
  · exact lt_of_le_of_lt (divNearestEven_le _ _) (by omega)
  · have hproduct : m * 2 ^ k ≤ 2 ^ k * (num / 2 ^ k) := by
      rw [mul_comm]
      exact Nat.mul_le_mul_left _ (not_lt.mp hq)
    have hquotient : num / 2 ^ k ≤ m := by
      refine Nat.le_of_lt_succ (Nat.div_lt_of_lt_mul ?_)
      rw [Nat.mul_succ, mul_comm (2 ^ k) m]
      omega
    unfold divNearestEven
    dsimp only
    rw [if_pos (by omega)]
    omega

theorem isFinite_addHalf {x : Binary64} (hx : x.isFinite = true) (hdatum : x.IsDatum) :
    x.addHalf.isFinite = true := by
  cases x with
  | infinite negative => cases hx
  | nan => cases hx
  | finite negative m e =>
      obtain ⟨hm, hleast, hgreatest⟩ := hdatum
      unfold addHalf
      dsimp only
      generalize hs : (if negative then -(m : Int) else (m : Int)) = s
      have habs : s.natAbs = m := by
        rw [← hs]
        split <;> simp
      split
      · next he =>
          unfold ofScaled scale
          rw [if_neg (by omega)]
          refine isFinite_ofRatio_of_log2 _ ?_
          obtain ⟨j, hj⟩ := Int.eq_ofNat_of_zero_le (show 0 ≤ -1 - e by omega)
          have hnum : (s + 2 ^ (-1 - e).toNat).natAbs < 2 ^ (max 53 j + 1) := by
            rw [hj, Int.toNat_natCast]
            have hleft : 2 ^ 53 ≤ 2 ^ max 53 j := Nat.pow_le_pow_right (by norm_num) (by omega)
            have hright : 2 ^ j ≤ 2 ^ max 53 j := Nat.pow_le_pow_right (by norm_num) (by omega)
            have hsum : (s + 2 ^ j).natAbs ≤ m + 2 ^ j := by
              refine le_trans (Int.natAbs_add_le s (2 ^ j)) ?_
              rw [habs, Int.natAbs_pow]
              rfl
            rw [pow_succ]
            omega
          have hlog := log2_le_of_lt hnum
          rw [Nat.log2_two_pow, show (-e).toNat = j + 1 by omega]
          unfold greatestExponent
          omega
      · next he =>
          obtain ⟨n, rfl⟩ := Int.eq_ofNat_of_zero_le (show 0 ≤ e by omega)
          unfold ofScaled scale
          rw [if_neg (by omega)]
          have hdouble : ((n : Int) + 1).toNat = n + 1 := by omega
          have hnum : (s * 2 ^ ((n : Int) + 1).toNat + 1).natAbs ≤ m * 2 ^ (n + 1) + 1 := by
            refine le_trans (Int.natAbs_add_le _ _) ?_
            rw [Int.natAbs_mul, habs, hdouble, Int.natAbs_pow]
            rfl
          have hlog : (s * 2 ^ ((n : Int) + 1).toNat + 1).natAbs.log2 ≤ 53 + n := by
            refine log2_le_of_lt (lt_of_le_of_lt hnum ?_)
            have hstep : (m + 1) * 2 ^ (n + 1) ≤ 2 ^ 53 * 2 ^ (n + 1) :=
              Nat.mul_le_mul_right _ hm
            have hone : 2 ≤ 2 ^ (n + 1) := by
              rw [pow_succ]
              have hpos : 1 ≤ 2 ^ n := Nat.one_le_two_pow
              omega
            rw [Nat.succ_mul, ← pow_add] at hstep
            rw [show 53 + n + 1 = 53 + (n + 1) by omega]
            omega
          generalize (s * 2 ^ ((n : Int) + 1).toNat + 1).natAbs = num at hnum hlog ⊢
          have hratio := log2Ratio_le num (2 ^ (- -1 : Int).toNat)
          rw [Nat.log2_two_pow] at hratio
          have hexponent : roundingExponent num (2 ^ (- -1 : Int).toNat) ≤ n := by
            unfold roundingExponent leastExponent
            omega
          refine isFinite_ofRatio _ (le_trans hexponent hgreatest) fun hfull => ?_
          -- only at the greatest exponent would a carry overflow, and there it does not occur
          refine lt_of_le_of_ne (le_trans hexponent hgreatest) fun hlast => ?_
          have hn : greatestExponent.toNat = n := by
            rw [hlast] at hexponent
            omega
          have htwo : 2 ≤ n + 1 := by
            rw [← hn]
            decide
          unfold roundingMantissa at hfull
          rw [hlast, if_pos (by decide), hn, ← pow_add,
            show (- -1 : Int).toNat + n = n + 1 from Nat.add_comm 1 n] at hfull
          exact absurd hfull (ne_of_lt (divNearestEven_half_lt htwo hm hnum))

/-- **Rounding a finite double to a whole one makes a finite double.** -/
theorem isFinite_apply (rounding : Rounding) {x : Binary64} (hx : x.isFinite = true)
    (hdatum : x.IsDatum) : (rounding.apply x).isFinite = true := by
  cases rounding with
  | trunc => exact isFinite_toWhole _ hx hdatum
  | ceil => exact isFinite_toWhole _ hx hdatum
  | floor => exact isFinite_toWhole _ hx hdatum
  | round =>
      exact isFinite_toWhole _ (isFinite_addHalf hx hdatum) (isDatum_addHalf hdatum)

end ReplySchema.Binary64

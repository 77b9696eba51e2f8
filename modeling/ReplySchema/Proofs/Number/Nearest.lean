import Mathlib.Data.Int.Log
import Mathlib.Data.Rat.Floor
import Mathlib.Tactic.Linarith
import Mathlib.Tactic.Ring
import ReplySchema.Proofs.Number.Datum

/-! # The nearest double

A finite double has a value, which is a rational number.  Rounding takes a rational number to a
multiple of its unit, a half going to the even multiple (`nearest`), and the unit is such that 53
bits are enough.  What the arithmetic on mantissas and exponents makes has the value that rounding
makes of the exact result: of a quotient (`value_ofRatio`) and of a sum with one half
(`value_addHalf`).

A value that is a double is its own nearest (`nearest_eq_self`), so whole numbers near a double
(`value_floor`, `value_toWhole`) are exact.  A sum with one half is not.  From 2^52 on it falls
between two doubles, and what is left of it without its fraction is the next whole number if the
number is odd (`floor_nearest_half`).
-/

set_option autoImplicit false

namespace ReplySchema.Binary64

/-! ## §1  Values -/

def withSign (negative : Bool) (q : ℚ) : ℚ := if negative then -q else q

/-- The value of a finite double. -/
def value : Binary64 → ℚ
  | finite negative m e => withSign negative (m * (2 : ℚ) ^ e)
  | _ => 0

theorem withSign_zero (negative : Bool) : withSign negative 0 = 0 := by
  cases negative <;> simp [withSign]

theorem abs_withSign (negative : Bool) (q : ℚ) : |withSign negative q| = |q| := by
  cases negative <;> simp [withSign]

theorem value_zero (negative : Bool) : (zero negative).value = 0 := by
  simp [zero, value, withSign_zero]

/-! ## §2  Halves go to the even neighbour -/

/-- The nearest whole number, a half going to the even neighbour. -/
def halfEven (q : ℚ) : ℤ :=
  if q - ⌊q⌋ < 1 / 2 then ⌊q⌋ else if 1 / 2 < q - ⌊q⌋ then ⌊q⌋ + 1 else ⌊q⌋ + ⌊q⌋ % 2

theorem halfEven_of_near {q : ℚ} {k : ℤ} (h : |q - k| < 1 / 2) : halfEven q = k := by
  obtain ⟨hlow, hhigh⟩ := abs_lt.mp h
  unfold halfEven
  by_cases hk : (k : ℚ) ≤ q
  · have hfloor : ⌊q⌋ = k := Int.floor_eq_iff.mpr ⟨hk, by linarith⟩
    rw [hfloor, if_pos hhigh]
  · have hfloor : ⌊q⌋ = k - 1 := by
      rw [Int.floor_eq_iff]
      push_cast
      constructor <;> linarith
    rw [hfloor]
    push_cast
    rw [if_neg (by linarith), if_pos (by linarith)]
    omega

theorem halfEven_intCast (k : ℤ) : halfEven k = k := halfEven_of_near (by simp)

theorem halfEven_half (k : ℤ) : halfEven (k + 1 / 2) = k + k % 2 := by
  have hfloor : ⌊(k : ℚ) + 1 / 2⌋ = k := by
    rw [Int.floor_eq_iff]
    constructor <;> linarith
  unfold halfEven
  rw [hfloor, if_neg (by linarith), if_neg (by linarith)]

theorem near_or_half (q : ℚ) : (∃ k : ℤ, |q - k| < 1 / 2) ∨ ∃ k : ℤ, q = k + 1 / 2 := by
  have hlow := Int.floor_le q
  have hhigh := Int.lt_floor_add_one q
  rcases lt_trichotomy (q - ⌊q⌋) (1 / 2) with h | h | h
  · refine Or.inl ⟨⌊q⌋, abs_lt.mpr ⟨?_, h⟩⟩
    linarith
  · exact Or.inr ⟨⌊q⌋, by linarith⟩
  · refine Or.inl ⟨⌊q⌋ + 1, abs_lt.mpr ?_⟩
    push_cast
    constructor <;> linarith

theorem halfEven_neg (q : ℚ) : halfEven (-q) = -halfEven q := by
  rcases near_or_half q with ⟨k, hk⟩ | ⟨k, rfl⟩
  · rw [halfEven_of_near hk, halfEven_of_near (k := -k)]
    push_cast
    rwa [neg_sub_neg, abs_sub_comm]
  · have hneg : -((k : ℚ) + 1 / 2) = ((-k - 1 : ℤ) : ℚ) + 1 / 2 := by
      push_cast
      ring
    rw [hneg, halfEven_half, halfEven_half]
    omega

theorem divNearestEven_eq (num : ℕ) {den : ℕ} (hden : den ≠ 0) :
    (divNearestEven num den : ℤ) = halfEven (num / den) := by
  have hpos : (0 : ℚ) < den := by exact_mod_cast Nat.pos_of_ne_zero hden
  have hlt : num % den < den := Nat.mod_lt _ (Nat.pos_of_ne_zero hden)
  have hsplit : (num : ℚ) / den = (num / den : ℕ) + (num % den : ℕ) / (den : ℚ) := by
    rw [eq_comm, eq_div_iff hpos.ne', add_mul, div_mul_cancel₀ _ hpos.ne', mul_comm]
    exact_mod_cast Nat.div_add_mod num den
  unfold divNearestEven
  dsimp only
  generalize num / den = q at hsplit ⊢
  generalize num % den = r at hsplit hlt ⊢
  rw [hsplit]
  have hnonneg : (0 : ℚ) ≤ r / den := by positivity
  have hone : (r : ℚ) / den < 1 := (div_lt_one hpos).mpr (by exact_mod_cast hlt)
  by_cases hlow : 2 * r < den
  · have hhalf : (r : ℚ) / den < 1 / 2 := by
      rw [div_lt_div_iff₀ hpos two_pos]
      exact_mod_cast (by omega : r * 2 < 1 * den)
    rw [if_pos hlow, halfEven_of_near (k := q)]
    rw [Int.cast_natCast, add_sub_cancel_left, abs_of_nonneg hnonneg]
    exact hhalf
  · rw [if_neg hlow]
    by_cases hhigh : den < 2 * r
    · have hhalf : 1 / 2 < (r : ℚ) / den := by
        rw [div_lt_div_iff₀ two_pos hpos]
        exact_mod_cast (by omega : 1 * den < r * 2)
      rw [if_pos hhigh, halfEven_of_near (k := q + 1)]
      · push_cast
        rfl
      · push_cast
        rw [abs_lt]
        constructor <;> linarith
    · have hhalf : (r : ℚ) / den = 1 / 2 := by
        rw [div_eq_div_iff hpos.ne' two_ne_zero]
        exact_mod_cast (by omega : r * 2 = 1 * den)
      rw [if_neg hhigh, hhalf, ← Int.cast_natCast (R := ℚ) q, halfEven_half]
      split <;> push_cast <;> omega

/-! ## §3  The nearest double -/

theorem log2Ratio_eq_log {num den : ℕ} (hnum : num ≠ 0) (hden : den ≠ 0) :
    log2Ratio num den = Int.log 2 ((num : ℚ) / den) := by
  have hpos : (0 : ℚ) < den := by exact_mod_cast Nat.pos_of_ne_zero hden
  have hquotient : (0 : ℚ) < (num : ℚ) / den :=
    div_pos (by exact_mod_cast Nat.pos_of_ne_zero hnum) hpos
  refine le_antisymm ?_ ?_
  · refine (Int.zpow_le_iff_le_log one_lt_two hquotient).mp ?_
    rw [le_div_iff₀ hpos, mul_comm]
    exact mul_zpow_log2Ratio_le hnum den
  · refine Int.lt_add_one_iff.mp ((Int.lt_zpow_iff_log_lt one_lt_two hquotient).mp ?_)
    rw [div_lt_iff₀ hpos, mul_comm]
    exact lt_mul_zpow_log2Ratio num hden

/-- The exponent of the least step between doubles of the size of a number. -/
def unit (q : ℚ) : ℤ := max leastExponent (Int.log 2 |q| - 52)

/-- The nearest multiple of the unit of a number, a half going to the even multiple. -/
def nearest (q : ℚ) : ℚ := halfEven (q / 2 ^ unit q) * 2 ^ unit q

theorem nearest_zero : nearest 0 = 0 := by
  rw [nearest, zero_div, ← Int.cast_zero, halfEven_intCast, Int.cast_zero, zero_mul]

theorem nearest_neg (q : ℚ) : nearest (-q) = -nearest q := by
  have hunit : unit (-q) = unit q := by rw [unit, unit, abs_neg]
  rw [nearest, nearest, hunit, neg_div, halfEven_neg, Int.cast_neg, neg_mul]

theorem nearest_withSign (negative : Bool) (q : ℚ) :
    nearest (withSign negative q) = withSign negative (nearest q) := by
  cases negative with
  | false => rfl
  | true => exact nearest_neg q

theorem roundingMantissa_eq {num den : ℕ} (hnum : num ≠ 0) (hden : den ≠ 0) :
    (roundingMantissa num den : ℚ) * 2 ^ roundingExponent num den = nearest (num / den) := by
  have hunit : unit ((num : ℚ) / den) = roundingExponent num den := by
    rw [unit, roundingExponent, abs_of_nonneg (by positivity), log2Ratio_eq_log hnum hden]
  rw [nearest, hunit]
  congr 1
  unfold roundingMantissa
  split
  · next he =>
      obtain ⟨n, hn⟩ := Int.eq_ofNat_of_zero_le he
      rw [hn, Int.toNat_natCast, zpow_natCast, div_div]
      have hround : (divNearestEven num (den * 2 ^ n) : ℤ) = halfEven (num / (den * 2 ^ n : ℕ)) :=
        divNearestEven_eq num (by positivity)
      push_cast at hround
      exact_mod_cast hround
  · next he =>
      obtain ⟨n, hn⟩ := Int.eq_ofNat_of_zero_le (show 0 ≤ -roundingExponent num den by omega)
      rw [hn, Int.toNat_natCast, show roundingExponent num den = -(n : ℤ) by omega, zpow_neg,
        zpow_natCast, div_inv_eq_mul, div_mul_eq_mul_div]
      have hround := divNearestEven_eq (num * 2 ^ n) hden
      push_cast at hround
      exact_mod_cast hround

/-- **Rounding a quotient gives the nearest double**, if that is finite. -/
theorem value_ofRatio (negative : Bool) (num : ℕ) {den : ℕ} (hden : den ≠ 0)
    (h : (ofRatio negative num den).isFinite = true) :
    (ofRatio negative num den).value = nearest (withSign negative (num / den)) := by
  rw [nearest_withSign]
  rw [ofRatio_eq] at h ⊢
  by_cases hnum : num = 0
  · rw [if_pos hnum, hnum, Nat.cast_zero, zero_div, nearest_zero, withSign_zero, value_zero]
  · have hcarried : ((carried num den).1 : ℚ) * 2 ^ (carried num den).2 = nearest (num / den) := by
      rw [← roundingMantissa_eq hnum hden, carried]
      split
      · next hfull =>
          rw [hfull, zpow_add_one₀ two_ne_zero]
          norm_num
          ring
      · rfl
    rw [if_neg hnum] at h ⊢
    by_cases hgreat : greatestExponent < (carried num den).2
    · rw [if_pos hgreat] at h
      cases h
    · rw [if_neg hgreat]
      by_cases hm : (carried num den).1 = 0
      · rw [if_pos hm, value_zero, ← hcarried, hm, Nat.cast_zero, zero_mul, withSign_zero]
      · rw [if_neg hm, value, hcarried]

/-! ## §4  Numbers that are doubles -/

def IsExact (q : ℚ) : Prop := ∃ x : Binary64, x.IsDatum ∧ x.isFinite = true ∧ x.value = q

theorem nearest_of_multiple {q : ℚ} (k : ℤ) (h : q / 2 ^ unit q = k) : nearest q = q := by
  rw [nearest, h, halfEven_intCast, ← h, div_mul_cancel₀]
  exact zpow_ne_zero _ two_ne_zero

theorem unit_le {q : ℚ} {e : ℤ} (hq : q ≠ 0) (he : leastExponent ≤ e)
    (h : |q| < 2 ^ (53 : ℕ) * (2 : ℚ) ^ e) : unit q ≤ e := by
  rw [← zpow_natCast, ← zpow_add₀ two_ne_zero] at h
  have hlog := (Int.lt_zpow_iff_log_lt one_lt_two (abs_pos.mpr hq)).mp h
  refine max_le he ?_
  omega

/-- A power of two above another one is a multiple of it. -/
theorem mul_zpow_div {k e u : ℤ} (h : u ≤ e) :
    (k : ℚ) * 2 ^ e / 2 ^ u = ((k * 2 ^ (e - u).toNat : ℤ) : ℚ) := by
  have hsub : ((e - u).toNat : ℤ) = e - u := Int.toNat_of_nonneg (by omega)
  push_cast
  rw [mul_div_assoc, ← zpow_sub₀ two_ne_zero, ← hsub, zpow_natCast, Int.toNat_natCast]

/-- **A number of 53 bits is its own nearest.** -/
theorem nearest_mul_zpow {k e : ℤ} (hk : k.natAbs < 2 ^ 53) (he : leastExponent ≤ e) :
    nearest (k * 2 ^ e) = k * 2 ^ e := by
  by_cases hzero : k = 0
  · rw [hzero, Int.cast_zero, zero_mul, nearest_zero]
  · refine nearest_of_multiple _ (mul_zpow_div (unit_le ?_ he ?_))
    · exact mul_ne_zero (by exact_mod_cast hzero) (zpow_ne_zero _ two_ne_zero)
    · rw [abs_mul, abs_of_pos (zpow_pos two_pos e : (0 : ℚ) < 2 ^ e), ← Int.cast_abs,
        ← Nat.cast_natAbs]
      exact mul_lt_mul_of_pos_right (by exact_mod_cast hk) (zpow_pos two_pos e)

theorem nearest_intCast {n : ℤ} (h : n.natAbs ≤ 2 ^ 53) : nearest n = n := by
  rcases h.lt_or_eq with hlt | heq
  · simpa using nearest_mul_zpow (e := 0) hlt (by decide)
  · have hhalf : ((n / 2 : ℤ) : ℚ) * 2 ^ (1 : ℤ) = n := by
      rw [zpow_one]
      exact_mod_cast (by omega : n / 2 * 2 = n)
    rw [← hhalf]
    exact nearest_mul_zpow (by omega) (by decide)

/-- The double nearest to an integer is whole. -/
theorem exists_nearest (n : ℤ) : ∃ k : ℤ, (k : ℚ) = nearest n := by
  by_cases h : n.natAbs ≤ 2 ^ 53
  · exact ⟨n, (nearest_intCast h).symm⟩
  · have hunit : 0 ≤ unit n := by
      have hpos : 0 < |(n : ℚ)| := abs_pos.mpr (by exact_mod_cast (by omega : n ≠ 0))
      have hlog : 53 ≤ Int.log 2 |(n : ℚ)| := by
        refine (Int.zpow_le_iff_le_log one_lt_two hpos).mp ?_
        rw [← Int.cast_abs, ← Nat.cast_natAbs]
        exact_mod_cast (by omega : 2 ^ 53 ≤ n.natAbs)
      unfold unit
      omega
    obtain ⟨j, hj⟩ := Int.eq_ofNat_of_zero_le hunit
    refine ⟨halfEven (n / 2 ^ unit n) * 2 ^ j, ?_⟩
    rw [nearest, hj, zpow_natCast]
    push_cast
    rfl

theorem exists_mantissa {x : Binary64} (hx : x.isFinite = true) (hdatum : x.IsDatum) :
    ∃ k e : ℤ, k.natAbs < 2 ^ 53 ∧ leastExponent ≤ e ∧ x.value = k * 2 ^ e := by
  cases x with
  | infinite negative => cases hx
  | nan => cases hx
  | finite negative m e =>
      obtain ⟨hm, hleast, -⟩ := hdatum
      cases negative with
      | false => exact ⟨m, e, by omega, hleast, by simp [value, withSign]⟩
      | true => exact ⟨-m, e, by omega, hleast, by simp [value, withSign]⟩

/-- **A double is its own nearest.** -/
theorem nearest_eq_self {q : ℚ} (h : IsExact q) : nearest q = q := by
  obtain ⟨x, hdatum, hx, rfl⟩ := h
  obtain ⟨k, e, hk, he, heq⟩ := exists_mantissa hx hdatum
  rw [heq, nearest_mul_zpow hk he]

/-! ## §5  Whole numbers near a double -/

/-- A natural number up to 2^53 is a double. -/
theorem value_ofNat (negative : Bool) {k : ℕ} (hk : k ≤ 2 ^ 53) :
    (ofNat negative k).value = withSign negative k := by
  have hfinite : (ofNat negative k).isFinite = true := by
    refine isFinite_ofRatio_of_log2 negative ?_
    have hlog : k.log2 ≤ 53 := log2_le_of_lt (by omega)
    rw [show Nat.log2 1 = 0 by decide]
    unfold greatestExponent
    omega
  have hvalue := value_ofRatio negative k one_ne_zero hfinite
  have hexact := nearest_intCast (n := k) (by omega)
  rw [Nat.cast_one, div_one, nearest_withSign, ← Int.cast_natCast, hexact] at hvalue
  exact hvalue

theorem value_of_neg {negative : Bool} {m : ℕ} {e : ℤ} (he : ¬ 0 ≤ e) :
    (finite negative m e).value = withSign negative
      ((m / 2 ^ (-e).toNat : ℕ) + (m % 2 ^ (-e).toNat : ℕ) / (2 ^ (-e).toNat : ℕ)) := by
  obtain ⟨j, hj⟩ := Int.eq_ofNat_of_zero_le (show 0 ≤ -e by omega)
  have hpos : ((2 ^ j : ℕ) : ℚ) ≠ 0 := by positivity
  rw [value, hj, Int.toNat_natCast, show e = -(j : ℤ) by omega, zpow_neg, zpow_natCast]
  congr 1
  rw [eq_comm, ← mul_left_inj' hpos, add_mul, div_mul_cancel₀ _ hpos, Nat.cast_pow,
    Nat.cast_ofNat, mul_assoc, inv_mul_cancel₀ (by positivity), mul_one, mul_comm]
  exact_mod_cast Nat.div_add_mod m (2 ^ j)

theorem rest_eq_zero {negative : Bool} {m : ℕ} {e n : ℤ} (he : ¬ 0 ≤ e)
    (hn : (finite negative m e).value = n) : m % 2 ^ (-e).toNat = 0 := by
  have hlt : m % 2 ^ (-e).toNat < 2 ^ (-e).toNat := Nat.mod_lt _ (by positivity)
  have habs := congrArg abs hn
  rw [value_of_neg he, abs_withSign, abs_of_nonneg (by positivity), ← Int.cast_abs] at habs
  generalize m / 2 ^ (-e).toNat = q at habs
  generalize m % 2 ^ (-e).toNat = r at hlt habs ⊢
  generalize 2 ^ (-e).toNat = d at hlt habs
  have hpos : (0 : ℚ) < d := by exact_mod_cast Nat.lt_of_le_of_lt (Nat.zero_le r) hlt
  have hproduct : (r : ℤ) = (|n| - q) * d := by
    have h : (r : ℚ) = (|n| - q) * d := by
      rw [← habs, add_sub_cancel_left, div_mul_cancel₀ _ hpos.ne']
    exact_mod_cast h
  by_contra hr
  -- the whole part would be less than the number by one at least, and so the rest too great
  have hpositive : 0 < |n| - (q : ℤ) := by
    refine pos_of_mul_pos_left ?_ (Int.natCast_nonneg d)
    rw [← hproduct]
    exact_mod_cast Nat.pos_of_ne_zero hr
  have hle : (d : ℤ) ≤ (|n| - q) * d := le_mul_of_one_le_left (Int.natCast_nonneg d) hpositive
  rw [← hproduct] at hle
  omega

theorem value_toWhole (up : Bool → Bool) {negative : Bool} {m : ℕ} {e : ℤ} (he : ¬ 0 ≤ e)
    (hdatum : (finite negative m e).IsDatum) :
    ((finite negative m e).toWhole up).value = withSign negative
      ((if m % 2 ^ (-e).toNat != 0 && up negative then m / 2 ^ (-e).toNat + 1
        else m / 2 ^ (-e).toNat : ℕ)) := by
  have hquotient : m / 2 ^ (-e).toNat ≤ m := Nat.div_le_self _ _
  have hm := hdatum.1
  simp only [toWhole]
  rw [if_neg he]
  refine value_ofNat negative ?_
  split <;> omega

/-- **A whole double stays what it is**, however it is rounded. -/
theorem value_toWhole_of_whole (up : Bool → Bool) {x : Binary64} (hx : x.isFinite = true)
    (hdatum : x.IsDatum) {n : ℤ} (hn : x.value = n) : (x.toWhole up).value = n := by
  cases x with
  | infinite negative => cases hx
  | nan => cases hx
  | finite negative m e =>
      by_cases he : 0 ≤ e
      · simp only [toWhole]
        rwa [if_pos he]
      · have hrest : m % 2 ^ (-e).toNat = 0 := rest_eq_zero he hn
        rw [value_toWhole up he hdatum, hrest, ← hn, value_of_neg he, hrest]
        simp

/-- **The floor of a double is the floor of its value.** -/
theorem value_floor {x : Binary64} (hx : x.isFinite = true) (hdatum : x.IsDatum) :
    x.floor.value = ⌊x.value⌋ := by
  cases x with
  | infinite negative => cases hx
  | nan => cases hx
  | finite negative m e =>
      by_cases he : 0 ≤ e
      · obtain ⟨j, rfl⟩ := Int.eq_ofNat_of_zero_le he
        have hwhole : (finite negative m (j : ℤ)).value =
            ((if negative then -(m * 2 ^ j : ℤ) else m * 2 ^ j : ℤ) : ℚ) := by
          cases negative <;> simp [value, withSign]
        rw [floor, hwhole, Int.floor_intCast,
          value_toWhole_of_whole _ hx hdatum hwhole]
      -- a fraction is left: the quotient is the floor, and below zero one more is taken away
      · have hpos : (0 : ℚ) < (2 ^ (-e).toNat : ℕ) := by positivity
        have hlt : m % 2 ^ (-e).toNat < 2 ^ (-e).toNat := Nat.mod_lt _ (by positivity)
        rw [floor, value_toWhole _ he hdatum, value_of_neg he]
        generalize m / 2 ^ (-e).toNat = q
        generalize m % 2 ^ (-e).toNat = r at hlt ⊢
        generalize 2 ^ (-e).toNat = d at hpos hlt ⊢
        have hone : (r : ℚ) / d < 1 := (div_lt_one hpos).mpr (by exact_mod_cast hlt)
        have hnonneg : (0 : ℚ) ≤ r / d := by positivity
        cases negative with
        | false =>
            have hfloor : ⌊(q : ℚ) + r / d⌋ = q := by
              rw [Int.floor_eq_iff]
              push_cast
              constructor <;> linarith
            simp [withSign, hfloor]
        | true =>
            by_cases hr : r = 0
            · have hfloor : ⌊-(q : ℚ)⌋ = -(q : ℤ) := by
                rw [← Int.cast_natCast, ← Int.cast_neg, Int.floor_intCast]
              simp [withSign, hr, hfloor]
            · have hfraction : 0 < (r : ℚ) / d :=
                div_pos (by exact_mod_cast Nat.pos_of_ne_zero hr) hpos
              have hfloor : ⌊-((q : ℚ) + r / d)⌋ = -(q + 1 : ℕ) := by
                rw [Int.floor_eq_iff]
                push_cast
                constructor <;> linarith
              simp only [withSign, if_true, hfloor]
              simp [hr]

/-! ## §6  One half more -/

theorem withSign_natAbs (n : ℤ) : withSign (decide (n < 0)) n.natAbs = n := by
  by_cases hn : n < 0
  · rw [withSign, if_pos (decide_eq_true hn), Nat.cast_natAbs, abs_of_neg hn]
    push_cast
    rw [neg_neg]
  · rw [withSign, if_neg (by simpa using hn), Nat.cast_natAbs, abs_of_nonneg (not_lt.mp hn)]

theorem withSign_mul (negative : Bool) (a b : ℚ) :
    withSign negative (a * b) = withSign negative a * b := by
  cases negative <;> simp [withSign]

theorem value_ofScaled (n e : ℤ) (h : (ofScaled n e).isFinite = true) :
    (ofScaled n e).value = nearest (n * 2 ^ e) := by
  have hsign : withSign (decide (n < 0)) (n.natAbs * (2 : ℚ) ^ e) = n * 2 ^ e := by
    rw [withSign_mul, withSign_natAbs]
  rw [← hsign]
  unfold ofScaled scale at h ⊢
  by_cases he : 0 ≤ e
  · obtain ⟨j, rfl⟩ := Int.eq_ofNat_of_zero_le he
    rw [if_pos he] at h ⊢
    refine (value_ofRatio _ _ one_ne_zero h).trans ?_
    simp
  · obtain ⟨j, hj⟩ := Int.eq_ofNat_of_zero_le (show 0 ≤ -e by omega)
    rw [if_neg he] at h ⊢
    refine (value_ofRatio _ _ (by positivity) h).trans ?_
    rw [hj, Int.toNat_natCast, show e = -(j : ℤ) by omega, zpow_neg, zpow_natCast]
    simp [div_eq_mul_inv]

/-- **The sum with one half is rounded once.** -/
theorem value_addHalf {x : Binary64} (hx : x.isFinite = true) (hdatum : x.IsDatum) :
    x.addHalf.value = nearest (x.value + 1 / 2) := by
  have hfinite := isFinite_addHalf hx hdatum
  cases x with
  | infinite negative => cases hx
  | nan => cases hx
  | finite negative m e =>
      have hvalue : (finite negative m e).value =
          ((if negative then -(m : ℤ) else (m : ℤ) : ℤ) : ℚ) * 2 ^ e := by
        cases negative <;> simp [value, withSign]
      rw [hvalue]
      simp only [addHalf] at hfinite ⊢
      generalize (if negative then -(m : ℤ) else (m : ℤ)) = s at hfinite ⊢
      split
      · next he =>
          obtain ⟨j, hj⟩ := Int.eq_ofNat_of_zero_le (show 0 ≤ -1 - e by omega)
          rw [if_pos he] at hfinite
          rw [value_ofScaled _ _ hfinite, hj, Int.toNat_natCast, show e = -((j : ℤ) + 1) by omega]
          congr 1
          push_cast
          rw [add_mul, zpow_neg, zpow_add_one₀ two_ne_zero, zpow_natCast]
          field_simp
      · next he =>
          obtain ⟨j, rfl⟩ := Int.eq_ofNat_of_zero_le (show 0 ≤ e by omega)
          rw [if_neg he] at hfinite
          rw [value_ofScaled _ _ hfinite, show ((j : ℤ) + 1).toNat = j + 1 by omega]
          congr 1
          push_cast
          rw [add_mul, pow_succ, zpow_neg_one, zpow_natCast]
          field_simp

section

variable {n : ℤ}

theorem add_half_eq (n : ℤ) : (n : ℚ) + 1 / 2 = ((2 * n + 1 : ℤ) : ℚ) * 2 ^ (-1 : ℤ) := by
  push_cast
  rw [zpow_neg_one]
  ring

theorem abs_add_half (n : ℤ) :
    |(n : ℚ) + 1 / 2| = ((2 * n + 1).natAbs : ℚ) * 2 ^ (-1 : ℤ) := by
  rw [add_half_eq, abs_mul, abs_of_pos (zpow_pos two_pos (-1) : (0 : ℚ) < 2 ^ (-1 : ℤ)),
    Nat.cast_natAbs, Int.cast_abs]

theorem add_half_ne_zero (n : ℤ) : (n : ℚ) + 1 / 2 ≠ 0 := by
  rw [add_half_eq]
  refine mul_ne_zero ?_ (zpow_ne_zero _ two_ne_zero)
  exact_mod_cast (by omega : 2 * n + 1 ≠ 0)

theorem le_log_add_half {j : ℕ} (h : 2 ^ (j + 1) ≤ (2 * n + 1).natAbs) :
    (j : ℤ) ≤ Int.log 2 |(n : ℚ) + 1 / 2| := by
  refine (Int.zpow_le_iff_le_log one_lt_two (abs_pos.mpr (add_half_ne_zero n))).mp ?_
  have hcast : ((2 ^ (j + 1) : ℕ) : ℚ) ≤ (2 * n + 1).natAbs := by exact_mod_cast h
  rw [abs_add_half, Nat.cast_ofNat, zpow_natCast, zpow_neg_one, ← div_eq_mul_inv,
    le_div_iff₀ two_pos, ← pow_succ]
  exact_mod_cast hcast

/-- Below 2^52 the sum with one half is a double. -/
theorem nearest_half_of_small (h : (2 * n + 1).natAbs < 2 ^ 53) :
    nearest (n + 1 / 2) = n + 1 / 2 := by
  rw [add_half_eq, nearest_mul_zpow h (by decide)]

theorem nearest_half_of_medium (hlow : 2 ^ 53 ≤ (2 * n + 1).natAbs)
    (hhigh : (2 * n + 1).natAbs < 2 ^ 54) : nearest (n + 1 / 2) = (n + n % 2 : ℤ) := by
  have hunit : unit ((n : ℚ) + 1 / 2) = 0 := by
    have hlog := le_log_add_half (j := 52) hlow
    have hlog' : Int.log 2 |(n : ℚ) + 1 / 2| < 53 := by
      refine (Int.lt_zpow_iff_log_lt one_lt_two (abs_pos.mpr (add_half_ne_zero n))).mp ?_
      have hcast : ((2 * n + 1).natAbs : ℚ) < (2 ^ 54 : ℕ) := by exact_mod_cast hhigh
      rw [abs_add_half, zpow_neg_one, ← div_eq_mul_inv, div_lt_iff₀ two_pos]
      norm_num at hcast ⊢
      exact hcast
    unfold unit leastExponent
    omega
  rw [nearest, hunit, zpow_zero, div_one, mul_one, halfEven_half]

theorem nearest_half_of_large (h : IsExact n) (hlarge : 2 ^ 54 ≤ (2 * n + 1).natAbs) :
    nearest (n + 1 / 2) = n := by
  obtain ⟨x, hdatum, hx, hvalue⟩ := h
  obtain ⟨k, e, hk, he, heq⟩ := exists_mantissa hx hdatum
  rw [hvalue] at heq
  have habs : |(n : ℚ)| = k.natAbs * 2 ^ e := by
    rw [heq, abs_mul, abs_of_pos (zpow_pos two_pos e : (0 : ℚ) < 2 ^ e), Nat.cast_natAbs,
      Int.cast_abs]
  have hmantissa : (k.natAbs : ℚ) + 1 ≤ (2 ^ 53 : ℕ) := by exact_mod_cast hk
  -- Doubles of this size are more than one apart, so the half is lost in the rounding.
  have hstep : (1 : ℚ) < 2 ^ e := by
    have hle : (2 ^ 53 : ℕ) ≤ |(n : ℚ)| := by
      rw [← Int.cast_abs, ← Nat.cast_natAbs]
      exact_mod_cast (by omega : 2 ^ 53 ≤ n.natAbs)
    by_contra hone
    have hproduct := mul_le_mul_of_nonneg_left (not_lt.mp hone) (Nat.cast_nonneg (α := ℚ) k.natAbs)
    rw [← habs, mul_one] at hproduct
    linarith
  have hhigh : unit ((n : ℚ) + 1 / 2) ≤ e := by
    refine unit_le (add_half_ne_zero n) he ?_
    calc |(n : ℚ) + 1 / 2| ≤ |(n : ℚ)| + |1 / 2| := abs_add_le _ _
      _ < (k.natAbs + 1) * 2 ^ e := by
        rw [habs, add_one_mul, abs_of_pos (by norm_num)]
        linarith
      _ ≤ 2 ^ (53 : ℕ) * (2 : ℚ) ^ e := by
        refine mul_le_mul_of_nonneg_right ?_ (by positivity)
        exact_mod_cast hmantissa
  have hlow : 1 ≤ unit ((n : ℚ) + 1 / 2) := by
    have hlog := le_log_add_half (j := 53) hlarge
    unfold unit
    omega
  have hpos : (0 : ℚ) < 2 ^ unit ((n : ℚ) + 1 / 2) := zpow_pos two_pos _
  have hone : (1 : ℚ) < 2 ^ unit ((n : ℚ) + 1 / 2) := one_lt_zpow₀ one_lt_two (by omega)
  have hnear : halfEven (((n : ℚ) + 1 / 2) / 2 ^ unit ((n : ℚ) + 1 / 2)) =
      k * 2 ^ (e - unit ((n : ℚ) + 1 / 2)).toNat := by
    refine halfEven_of_near ?_
    rw [add_div, ← mul_zpow_div hhigh, ← heq, add_sub_cancel_left, abs_of_pos (by positivity),
      div_lt_iff₀ hpos]
    linarith
  rw [nearest, hnear, ← mul_zpow_div hhigh, div_mul_cancel₀ _ hpos.ne', ← heq]

end

/-- Whether one half more than a whole number falls between two doubles of which the greater is
the even one. -/
def Slips (n : ℤ) : Prop := n % 2 = 1 ∧ 2 ^ 52 < n.natAbs ∧ n.natAbs < 2 ^ 53

instance (n : ℤ) : Decidable (Slips n) := inferInstanceAs (Decidable (_ ∧ _))

/-- **One half more than a whole double** is that double, once its fraction is cut off, or the next
whole number. -/
theorem floor_nearest_half {n : ℤ} (h : IsExact n) :
    ⌊nearest (n + 1 / 2)⌋ = if Slips n then n + 1 else n := by
  by_cases hsmall : (2 * n + 1).natAbs < 2 ^ 53
  · have hslips : ¬ Slips n := by
      rintro ⟨-, hlow, -⟩
      omega
    rw [if_neg hslips, nearest_half_of_small hsmall, Int.floor_eq_iff]
    constructor <;> linarith
  · by_cases hmedium : (2 * n + 1).natAbs < 2 ^ 54
    · rw [nearest_half_of_medium (not_lt.mp hsmall) hmedium, Int.floor_intCast]
      by_cases hodd : n % 2 = 1
      · rw [if_pos ⟨hodd, by omega, by omega⟩, hodd]
      · rw [if_neg fun hslips => hodd hslips.1]
        omega
    · have hslips : ¬ Slips n := by
        rintro ⟨-, -, hhigh⟩
        omega
      rw [if_neg hslips, nearest_half_of_large h (not_lt.mp hmedium), Int.floor_intCast]

end ReplySchema.Binary64

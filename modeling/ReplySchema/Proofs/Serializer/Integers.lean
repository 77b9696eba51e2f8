import Mathlib.Data.List.TakeWhile
import ReplySchema.Proofs.Number.Nearest
import ReplySchema.Proofs.Number.Text
import ReplySchema.Proofs.Serializer.Output
import ReplySchema.Proofs.Text.Ends

/-! # Integers where an integer is declared

An integer reaches a serializer of integers in three forms.  Written as an integer it is left
alone.  A double is rounded, and a text is read as a double first.  So a text keeps its integer
only if that is a double, and rounding to the nearest, which adds one half, moves each odd integer
between 2^52 and 2^53 to the next one.

Main statement: `integers_written`.
-/

set_option autoImplicit false

namespace ReplySchema

open Binary64 (IsExact Slips nearest)

/-! ## §1  What whole doubles become -/

/-- What a whole number becomes when it is rounded as a double. -/
def Rounding.ofWhole (rounding : Rounding) (n : Int) : Int :=
  if rounding = .round ∧ Slips n then n + 1 else n

namespace Binary64

theorem value_apply (rounding : Rounding) {x : Binary64} (hx : x.isFinite = true)
    (hdatum : x.IsDatum) {n : Int} (hn : x.value = n) :
    (rounding.apply x).value = rounding.ofWhole n := by
  cases rounding with
  | trunc => exact value_toWhole_of_whole _ hx hdatum hn
  | ceil => exact value_toWhole_of_whole _ hx hdatum hn
  | floor => exact value_toWhole_of_whole _ hx hdatum hn
  | round =>
      have hfloor := value_floor (isFinite_addHalf hx hdatum) (isDatum_addHalf hdatum)
      rw [value_addHalf hx hdatum, hn, floor_nearest_half ⟨x, hdatum, hx, hn⟩] at hfloor
      rw [Rounding.apply, hfloor]
      simp only [Rounding.ofWhole, true_and]

theorem eq_of_withSign {negative : Bool} {k : Nat} {n : Int} (h : withSign negative k = n) :
    (if negative then -(k : Int) else k) = n := by
  cases negative with
  | false =>
      have hsame : (k : ℚ) = n := h
      rw [if_neg Bool.false_ne_true]
      exact_mod_cast hsame
  | true =>
      have hneg : -(k : ℚ) = n := h
      rw [if_pos rfl]
      exact_mod_cast hneg

end Binary64

namespace Coercion

theorem wholeChars_eq {x : Binary64} (hx : x.isFinite = true) {n : Int} (hn : x.value = n) :
    wholeChars x = Decimal.intChars n := by
  cases x with
  | infinite negative => cases hx
  | nan => cases hx
  | finite negative m e =>
      have hpart : Binary64.withSign negative (Binary64.finite negative m e).wholePart = n := by
        rw [← hn]
        unfold Binary64.wholePart
        dsimp only
        split
        · next he =>
            obtain ⟨j, rfl⟩ := Int.eq_ofNat_of_zero_le he
            rw [Binary64.value, zpow_natCast, Int.toNat_natCast]
            push_cast
            rfl
        · next he =>
            rw [Binary64.value_of_neg he, Binary64.rest_eq_zero he hn, Nat.cast_zero, zero_div,
              add_zero]
      rw [wholeChars_finite, Binary64.eq_of_withSign hpart]

end Coercion

namespace Decimal

/-! ## §2  Digits that are read -/

theorem intChars_injective {a b : Int} (h : intChars a = intChars b) : a = b := by
  have hminus : ∀ n : Nat, '-' ∉ digits n := fun n hmem => by
    cases isDigit_of_mem_digits hmem
  have hdigits : ∀ {m n : Nat}, digits m = digits n → m = n := fun {m n} heq => by
    rw [← ofDigits_digits m, heq, ofDigits_digits]
  unfold intChars at h
  split at h <;> split at h
  · have hsame := hdigits (List.cons.inj h).2
    omega
  · exact absurd (h ▸ List.mem_cons_self) (hminus _)
  · exact absurd (h ▸ List.mem_cons_self) (hminus _)
  · have hsame := hdigits h
    omega

/-- Digits with a sign are read as the double nearest to what they denote. -/
theorem magnitudeOf?_digits (negative : Bool) (n : Nat) :
    magnitudeOf? negative (digits n) = some (Binary64.ofDecimal negative n 0) := by
  have hall : ∀ c ∈ digits n, c.isDigit = true := fun c hc => isDigit_of_mem_digits hc
  have htake : takeDigits (digits n) = (digits n, []) := by
    unfold takeDigits
    rw [List.takeWhile_eq_self_iff.mpr hall, List.dropWhile_eq_nil_iff.mpr hall]
  have hne : (digits n).isEmpty = false := by
    rw [List.isEmpty_eq_false_iff]
    exact Nat.toDigits_ne_nil
  unfold magnitudeOf?
  rw [htake]
  simp [hne, exponentOf?, ofDigits_digits]

theorem exists_digits (n : Nat) : ∃ c rest, digits n = c :: rest ∧ c.isDigit = true := by
  obtain ⟨c, rest, hd⟩ := List.exists_cons_of_ne_nil (isDigits_digits n).1
  refine ⟨c, rest, hd, isDigit_of_mem_digits (n := n) ?_⟩
  rw [hd]
  exact List.mem_cons_self

theorem toLower_of_isDigit {c : Char} (h : c.isDigit = true) : c.toLower = c := by
  simp only [Char.isDigit, Bool.and_eq_true, decide_eq_true_eq] at h
  unfold Char.toLower
  rw [dif_neg]
  rintro ⟨hlow, -⟩
  exact absurd (UInt32.le_trans hlow h.2) (by decide)

theorem lower_digits_ne (n : Nat) {c : Char} (hc : c.isDigit = false) (cs : List Char) :
    String.ofList ((digits n).map Char.toLower) ≠ String.ofList (c :: cs) := by
  obtain ⟨d, rest, hd, hdigit⟩ := exists_digits n
  intro h
  have hlists := String.ofList_injective h
  rw [hd, List.map_cons, toLower_of_isDigit hdigit] at hlists
  rw [(List.cons.inj hlists).1, hc] at hdigit
  cases hdigit

theorem takeSign_intChars (n : Int) :
    takeSign (intChars n) = (decide (n < 0), digits n.natAbs) := by
  unfold intChars
  by_cases hn : n < 0
  · rw [if_pos hn, decide_eq_true hn]
    rfl
  · rw [if_neg hn, decide_eq_false hn]
    obtain ⟨c, rest, hd, hdigit⟩ := exists_digits n.natAbs
    rw [hd]
    unfold takeSign
    split
    · next h =>
        rw [(List.cons.inj h).1] at hdigit
        exact absurd hdigit (by decide)
    · next h =>
        rw [(List.cons.inj h).1] at hdigit
        exact absurd hdigit (by decide)
    · rfl

/-- **The digits of an integer are read as the double nearest to it.** -/
theorem read?_intChars (n : Int) :
    read? (intChars n) = some (Binary64.ofDecimal (decide (n < 0)) n.natAbs 0) := by
  unfold read?
  rw [takeSign_intChars]
  dsimp only
  rw [if_neg, if_neg, magnitudeOf?_digits]
  · exact lower_digits_ne _ (by decide) _
  · exact not_or.mpr ⟨lower_digits_ne _ (by decide) _, lower_digits_ne _ (by decide) _⟩

theorem isBlank_of_mem_intChars {n : Int} {c : Char} (hc : c ∈ intChars n) :
    Text.isBlank c = false := by
  have hdigit : ∀ d ∈ digits n.natAbs, Text.isBlank d = false := by
    intro d hd
    have hd := isDigit_of_mem_digits hd
    simp only [Char.isDigit, Bool.and_eq_true, decide_eq_true_eq, ge_iff_le, UInt32.le_iff_toNat_le] at hd
    change 48 ≤ d.toNat ∧ d.toNat ≤ 57 at hd
    simp only [Text.isBlank, Bool.or_eq_false_iff, Bool.and_eq_false_iff, decide_eq_false_iff_not,
      beq_eq_false_iff_ne]
    omega
  unfold intChars at hc
  split at hc
  · rcases List.mem_cons.mp hc with rfl | hc
    · decide
    · exact hdigit c hc
  · exact hdigit c hc

theorem intChars_ne_nil (n : Int) : intChars n ≠ [] := by
  unfold intChars
  split
  · exact List.cons_ne_nil _ _
  · exact (isDigits_digits n.natAbs).1

end Decimal

/-- An integer of 63 bits is near a finite double. -/
theorem Binary64.value_ofDecimal {n : Int} (hn : n.natAbs < 2 ^ 63) :
    (ofDecimal (decide (n < 0)) n.natAbs 0).isFinite = true ∧
      (ofDecimal (decide (n < 0)) n.natAbs 0).value = nearest n := by
  by_cases hzero : n = 0
  · subst hzero
    exact ⟨rfl, by rw [Int.cast_zero, nearest_zero]; exact value_zero false⟩
  · have hlog : n.natAbs.log2 ≤ 62 := log2_le_of_lt hn
    have hdecimal : ofDecimal (decide (n < 0)) n.natAbs 0 = ofRatio (decide (n < 0)) n.natAbs 1 := by
      unfold ofDecimal
      dsimp only
      rw [if_neg (by omega), if_neg (by omega), if_neg (by omega), if_pos (le_refl _)]
      simp
    have hfinite : (ofRatio (decide (n < 0)) n.natAbs 1).isFinite = true := by
      refine isFinite_ofRatio_of_log2 _ ?_
      rw [show Nat.log2 1 = 0 by decide]
      unfold greatestExponent
      omega
    rw [hdecimal]
    refine ⟨hfinite, ?_⟩
    rw [value_ofRatio _ _ one_ne_zero hfinite, Nat.cast_one, div_one, withSign_natAbs]

namespace Coercion

theorem exists_doubleOf? {n : Int} (hn : n.natAbs < 2 ^ 63) :
    ∃ x, doubleOf? (.string (Decimal.ofInt n)) = some x ∧ x.IsDatum ∧ x.isFinite = true ∧
      x.value = nearest n := by
  obtain ⟨hfinite, hvalue⟩ := Binary64.value_ofDecimal hn
  refine ⟨_, ?_, Binary64.isDatum_ofDecimal _ _ _, hfinite, hvalue⟩
  have hstrip : Text.stripWhile Text.isBlank (Decimal.intChars n) = Decimal.intChars n :=
    Text.stripWhile_eq_self
      (fun c hc => Decimal.isBlank_of_mem_intChars (List.mem_of_head? hc))
      fun c hc => Decimal.isBlank_of_mem_intChars (List.mem_of_getLast? hc)
  have hne : (Decimal.intChars n).isEmpty = false :=
    List.isEmpty_eq_false_iff.mpr (Decimal.intChars_ne_nil n)
  simp [doubleOf?, Decimal.ofInt, hstrip, hne, Decimal.read?_intChars, hfinite]

/-! ## §3  What is written -/

variable (rounding : Rounding)

theorem integerChars?_float {x : Binary64} (hx : x.isFinite = true) (hdatum : x.IsDatum) {n : Int}
    (hn : x.value = n) : integerChars? rounding (.number (.float x)) =
      some (Decimal.intChars (rounding.ofWhole n)) := by
  simp only [integerChars?, hx, if_true]
  rw [wholeChars_eq (Binary64.isFinite_apply rounding hx hdatum)
    (Binary64.value_apply rounding hx hdatum hn)]

theorem exists_integerChars?_string {n : Int} (hn : n.natAbs < 2 ^ 63) :
    ∃ k : Int, (k : ℚ) = nearest n ∧ IsExact k ∧
      integerChars? rounding (.string (Decimal.ofInt n)) =
        some (Decimal.intChars (rounding.ofWhole k)) := by
  obtain ⟨x, hx, hdatum, hfinite, hvalue⟩ := exists_doubleOf? hn
  obtain ⟨k, hk⟩ := Binary64.exists_nearest n
  have hwhole : x.value = k := hvalue.trans hk.symm
  refine ⟨k, hk, ⟨x, hdatum, hfinite, hwhole⟩, ?_⟩
  have hchars : integerChars? rounding (.string (Decimal.ofInt n)) =
      some (wholeChars (rounding.apply x)) := congrArg (Option.map _) hx
  rw [hchars, wholeChars_eq (Binary64.isFinite_apply rounding hfinite hdatum)
    (Binary64.value_apply rounding hfinite hdatum hwhole)]

/-- **A text of digits keeps its integer** only if the integer is a double, and not one that
rounding moves. -/
theorem integerChars?_string_iff {n : Int} (hn : n.natAbs < 2 ^ 63) :
    integerChars? rounding (.string (Decimal.ofInt n)) = some (Decimal.intChars n) ↔
      IsExact n ∧ ¬ (rounding = .round ∧ Slips n) := by
  obtain ⟨k, hk, hexact, hchars⟩ := exists_integerChars?_string rounding hn
  rw [hchars, Option.some.injEq]
  constructor
  · intro h
    have hwhole := Decimal.intChars_injective h
    unfold Rounding.ofWhole at hwhole
    split at hwhole
    · next hslips =>
        -- the next integer is a double too, so the text would have been read as that
        obtain ⟨-, hlow, hhigh⟩ := hslips.2
        rw [Binary64.nearest_intCast (by omega)] at hk
        have hsame : k = n := by exact_mod_cast hk
        omega
    · next hslips => exact hwhole ▸ ⟨hexact, hslips⟩
  · rintro ⟨hn, hslips⟩
    rw [Binary64.nearest_eq_self hn] at hk
    have hsame : k = n := by exact_mod_cast hk
    rw [hsame, Rounding.ofWhole, if_neg hslips]

end Coercion

namespace Serializer.Plan

def integerSchema : Json := .object [("type", .string "integer")]

theorem serialize_integer {plan : Plan} (hroot : plan.root = .integer) {v : Json} {n : Int}
    (h : Coercion.integerChars? plan.rounding v = some (Decimal.intChars n)) :
    plan.serialize v = .ok (Decimal.ofInt n) := by
  rw [serialize_eq, written, hroot]
  simp only [write, h]
  rfl

theorem build_integerSchema (set : Schema.Set) (base : Schema.Source) (rounding : Rounding) :
    build set base integerSchema rounding = .ok { root := .integer, targets := [], rounding } := by
  rfl

/-- **How integers are written where an integer is declared.**  An integer is written as it is, and
so is a double, unless rounding moves it.  A text of digits is written as the double nearest to it
is, and thus keeps its integer only if that is a double that rounding does not move. -/
theorem integers_written (set : Schema.Set) (base : Schema.Source) (rounding : Rounding) :
    ∃ plan, build set base integerSchema rounding = .ok plan ∧
      ∀ n : Int, n.natAbs < 2 ^ 63 →
        plan.serialize (.number (.int n)) = .ok (Decimal.ofInt n) ∧
        (∀ x : Binary64, x.IsDatum → x.isFinite = true → x.value = n →
          plan.serialize (.number (.float x)) = .ok (Decimal.ofInt (rounding.ofWhole n))) ∧
        (∃ k : Int, (k : ℚ) = nearest n ∧
          plan.serialize (.string (Decimal.ofInt n)) = .ok (Decimal.ofInt (rounding.ofWhole k))) ∧
        (plan.serialize (.string (Decimal.ofInt n)) = .ok (Decimal.ofInt n) ↔
          IsExact n ∧ ¬ (rounding = .round ∧ Slips n)) := by
  refine ⟨_, build_integerSchema set base rounding, fun n hn => ⟨?_, ?_, ?_, ?_⟩⟩
  · exact serialize_integer rfl rfl
  · intro x hdatum hx hvalue
    exact serialize_integer rfl (Coercion.integerChars?_float rounding hx hdatum hvalue)
  · obtain ⟨k, hk, -, hchars⟩ := Coercion.exists_integerChars?_string rounding hn
    exact ⟨k, hk, serialize_integer rfl hchars⟩
  · rw [← Coercion.integerChars?_string_iff rounding hn]
    obtain ⟨k, -, -, hchars⟩ := Coercion.exists_integerChars?_string rounding hn
    rw [serialize_integer rfl hchars, hchars, Except.ok.injEq, Option.some.injEq]
    exact ⟨fun h => String.ofList_injective h, fun h => congrArg String.ofList h⟩

/-- A great integer that is a double, in its three forms. -/
theorem integers_written_great :
    ∃ plan, build {} (.ofInline integerSchema) integerSchema .round = .ok plan ∧
      (4611686018427388928 : Int).natAbs < 2 ^ 63 ∧
      (Binary64.finite false 4503599627370497 10).IsDatum ∧
      (Binary64.finite false 4503599627370497 10).value = (4611686018427388928 : Int) ∧
      plan.serialize (.number (.int 4611686018427388928)) = .ok "4611686018427388928" ∧
      plan.serialize (.number (.float (.finite false 4503599627370497 10))) =
        .ok "4611686018427388928" ∧
      plan.serialize (.string "4611686018427388928") = .ok "4611686018427388928" := by
  have hdatum : (Binary64.finite false 4503599627370497 10).IsDatum :=
    ⟨by decide, by decide, by decide⟩
  have hvalue : (Binary64.finite false 4503599627370497 10).value = (4611686018427388928 : Int) := by
    simp only [Binary64.value, Binary64.withSign]
    norm_num
  have hslips : ¬ Slips 4611686018427388928 := by decide
  obtain ⟨plan, hplan, hwritten⟩ := integers_written {} (.ofInline integerSchema) .round
  obtain ⟨hint, hfloat, -, hstring⟩ := hwritten 4611686018427388928 (by decide)
  have hdigits : Decimal.ofInt 4611686018427388928 = "4611686018427388928" := by decide +kernel
  have hwhole : Rounding.ofWhole .round 4611686018427388928 = 4611686018427388928 := by
    rw [Rounding.ofWhole, if_neg fun h => hslips h.2]
  refine ⟨plan, hplan, by decide, hdatum, hvalue, ?_, ?_, ?_⟩
  · rw [← hdigits]
    exact hint
  · rw [← hdigits]
    refine (hfloat _ hdatum rfl hvalue).trans ?_
    rw [hwhole]
  · rw [← hdigits]
    exact hstring.mpr ⟨⟨_, hdatum, rfl, hvalue⟩, fun h => hslips h.2⟩

/-- The first integer that is not a double loses its last digit in a text, and one half more moves
the first odd integer above 2^52. -/
theorem not_integers_written :
    (∃ plan, build {} (.ofInline integerSchema) integerSchema .trunc = .ok plan ∧
      plan.serialize (.string "9007199254740993") = .ok "9007199254740992") ∧
    (Binary64.finite false 4503599627370497 0).IsDatum ∧
    (Binary64.finite false 4503599627370497 0).value = (4503599627370497 : Int) ∧
    ∃ plan, build {} (.ofInline integerSchema) integerSchema .round = .ok plan ∧
      plan.serialize (.number (.float (.finite false 4503599627370497 0))) =
        .ok "4503599627370498" := by
  have htext : Coercion.integerChars? .trunc (.string "9007199254740993") =
      some (Decimal.intChars 9007199254740992) := by decide +kernel
  have hfloat : Coercion.integerChars? .round (.number (.float (.finite false 4503599627370497 0))) =
      some (Decimal.intChars 4503599627370498) := by decide +kernel
  refine ⟨⟨_, build_integerSchema {} _ .trunc, ?_⟩, ⟨by decide, by decide, by decide⟩, ?_, _,
    build_integerSchema {} _ .round, ?_⟩
  · rw [← show Decimal.ofInt 9007199254740992 = "9007199254740992" by decide +kernel]
    exact serialize_integer rfl htext
  · simp [Binary64.value, Binary64.withSign]
  · rw [← show Decimal.ofInt 4503599627370498 = "4503599627370498" by decide +kernel]
    exact serialize_integer rfl hfloat

end Serializer.Plan

end ReplySchema

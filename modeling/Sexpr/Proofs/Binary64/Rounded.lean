import Mathlib.Algebra.Order.Field.Basic
import Mathlib.Tactic.NormNum
import Sexpr.Proofs.Binary64.Equal
import Sexpr.Proofs.Binary64.Nearest
import Sexpr.Proofs.Decimal

/-!
# Correct rounding

A finite double has a rational value. A double is the correctly rounded one of a rational number if
no finite double is nearer and ties go to even significands, and if numbers too large for that, and
no others, go to the infinities. Rounding to the nearest magnitude, with the sign of the number,
gives the correctly rounded double; and a finite double is correctly rounded in this way only.
-/

namespace Sexpr.Binary64

open Numeral

/-- The rational value of a finite double. -/
def toRat (x : Binary64) : ℚ := x.value / 2 ^ unitPlaces

/-- The least rational number that is rounded to an infinity. It lies half a spacing behind the
largest finite value. -/
def overflow : ℚ := 2 ^ 1024 - 2 ^ 970

/-- Whether a double is the correctly rounded one of a rational number. Which of the two zeros or
infinities it is remains open. -/
structure IsRounded (q : ℚ) (x : Binary64) : Prop where
  /-- Numbers that are too large go to infinity. -/
  infinite : overflow ≤ |q| → x.magnitude = infinity
  /-- Other numbers go to a finite double. -/
  finite : |q| < overflow → x.isFinite = true
  /-- No finite double is nearer. -/
  least : x.isFinite = true → ∀ w : Binary64, w.isFinite = true →
    |x.toRat - q| ≤ |w.toRat - q|
  /-- If a finite double of another value is as near, the significand is even. -/
  even : x.isFinite = true → ∀ w : Binary64, w.isFinite = true →
    |x.toRat - q| = |w.toRat - q| → w.toRat ≠ x.toRat → significandOf x.magnitude % 2 = 0

/-- Whether a double may have its sign from a rational number. -/
def HasSignOf (x : Binary64) (q : ℚ) : Prop := if x.negative then q ≤ 0 else 0 ≤ q

/-! ### Distances, counted in units -/

theorem scale_pos : (0 : ℚ) < 2 ^ unitPlaces := pow_pos (by norm_num) _

theorem toRat_mul (x : Binary64) : x.toRat * 2 ^ unitPlaces = x.value :=
  div_mul_cancel₀ _ (ne_of_gt scale_pos)

theorem abs_value (x : Binary64) : |(x.value : ℚ)| = units x.magnitude := by
  unfold value
  split
  · rw [Int.cast_neg, abs_neg, Int.cast_natCast, Nat.abs_cast]
  · rw [Int.cast_natCast, Nat.abs_cast]

theorem abs_toRat_sub_mul (x : Binary64) (q : ℚ) :
    |x.toRat - q| * 2 ^ unitPlaces = |(x.value : ℚ) - q * 2 ^ unitPlaces| := by
  rw [← toRat_mul, ← sub_mul, abs_mul, abs_of_pos scale_pos]

/-- The magnitudes are no further apart than the numbers. -/
theorem abs_units_sub_le (x : Binary64) (q : ℚ) :
    |(units x.magnitude : ℚ) - |q| * 2 ^ unitPlaces| ≤ |x.toRat - q| * 2 ^ unitPlaces := by
  have apart := abs_abs_sub_abs_le (x.value : ℚ) (q * 2 ^ unitPlaces)
  rwa [abs_value, abs_mul, abs_of_pos scale_pos, ← abs_toRat_sub_mul] at apart

/-- Numbers of the same sign are as far apart as their magnitudes. -/
theorem abs_toRat_sub_mul_eq {x : Binary64} {q : ℚ} (sign : x.HasSignOf q) :
    |x.toRat - q| * 2 ^ unitPlaces = |(units x.magnitude : ℚ) - |q| * 2 ^ unitPlaces| := by
  rw [abs_toRat_sub_mul]
  unfold HasSignOf at sign
  unfold value
  cases negative : x.negative with
  | true =>
      rw [negative, if_pos rfl] at sign
      rw [if_pos rfl, abs_of_nonpos sign, Int.cast_neg, Int.cast_natCast, ← abs_neg]
      congr 1
      ring
  | false =>
      rw [negative, if_neg Bool.false_ne_true] at sign
      rw [if_neg Bool.false_ne_true, abs_of_nonneg sign, Int.cast_natCast]

theorem two_mul_overflow_mul :
    2 * (overflow * 2 ^ unitPlaces) = (units (infinity - 1) : ℚ) + units infinity := by
  have wide : (2 : ℚ) ^ 1024 = 2 ^ 54 * 2 ^ 970 := by rw [← pow_add]
  have whole : (2 : ℚ) ^ largestExponent = 2 * (2 ^ 970 * 2 ^ unitPlaces) := by
    rw [← pow_add, ← pow_succ']
    rfl
  have significands : ((2 * binade : Nat) : ℚ) = 2 ^ 53 := by norm_num [binade]
  have last : ((2 * binade - 1 : Nat) : ℚ) = 2 ^ 53 - 1 := by norm_num [binade]
  rw [units_infinity, units_largest, Nat.cast_mul, Nat.cast_mul, Nat.cast_pow, Nat.cast_ofNat, whole,
    significands, last, overflow, wide]
  generalize (2 : ℚ) ^ 970 = half
  ring

/-- The nearest magnitude is not finite exactly if the number is too large. -/
theorem infinity_le_iff_overflow_le {q : ℚ} {magnitude : Nat}
    (h : IsNearest (|q| * 2 ^ unitPlaces) magnitude) :
    infinity ≤ magnitude ↔ overflow ≤ |q| := by
  rw [h.infinity_le_iff, ← two_mul_overflow_mul, mul_le_mul_iff_right₀ (by norm_num),
    mul_le_mul_iff_left₀ scale_pos]

/-! ### Rounding to the nearest magnitude -/

theorem isNearest_zero : IsNearest 0 0 where
  least := by
    intro other
    have zero : units 0 = 0 := rfl
    simp [zero]
  even := fun _ _ _ => rfl

theorem magnitude_eq_of_abs_toRat_eq {x w : Binary64} (h : |x.toRat| = |w.toRat|) :
    x.magnitude = w.magnitude := by
  have scaled (v : Binary64) : |v.toRat| * 2 ^ unitPlaces = units v.magnitude := by
    rw [← abs_value, ← toRat_mul, abs_mul, abs_of_pos scale_pos]
  have same : (units x.magnitude : ℚ) = units w.magnitude := by rw [← scaled, ← scaled, h]
  exact units_strictMono.injective (Nat.cast_injective same)

theorem abs_toRat_eq {x w : Binary64} (h : x.magnitude = w.magnitude) :
    |x.toRat| = |w.toRat| := by
  rw [toRat, toRat, abs_div, abs_div, abs_value, abs_value, h]

/-- Only at zero is a double as near to a number as the double of the other sign. -/
theorem magnitude_eq_zero_of_tie {q : ℚ} {x w : Binary64}
    (h : IsNearest (|q| * 2 ^ unitPlaces) x.magnitude) (same : x.magnitude = w.magnitude)
    (tie : |x.toRat - q| = |w.toRat - q|) (other : w.toRat ≠ x.toRat) : x.magnitude = 0 := by
  have opposite : x.toRat = -w.toRat :=
    (abs_eq_abs.1 (abs_toRat_eq same)).resolve_left (Ne.symm other)
  rw [opposite] at tie
  rcases abs_eq_abs.1 tie with zero | zero
  · have none : w.toRat = 0 := by linarith
    exact absurd (by rw [opposite, none, neg_zero]) other
  · have none : q = 0 := by linarith
    rw [none, abs_zero, zero_mul] at h
    exact h.unique isNearest_zero

/-- A double with the sign of a number and the nearest magnitude is the correctly rounded one. -/
theorem isRounded_of_isNearest {q : ℚ} {x : Binary64} {magnitude : Nat}
    (h : IsNearest (|q| * 2 ^ unitPlaces) magnitude)
    (same : x.magnitude = min infinity magnitude) (sign : x.HasSignOf q) : IsRounded q x := by
  have bound := infinity_le_iff_overflow_le h
  have nearest (finite : x.isFinite = true) : x.magnitude = magnitude := by
    have below := isFinite_iff.1 finite
    omega
  constructor
  · intro large
    have above := bound.2 large
    omega
  · intro small
    have below : ¬ infinity ≤ magnitude := fun above => not_le_of_gt small (bound.1 above)
    refine isFinite_iff.2 ?_
    omega
  · intro finite w _
    refine le_of_mul_le_mul_right ?_ scale_pos
    rw [abs_toRat_sub_mul_eq sign, nearest finite]
    exact (h.least w.magnitude).trans (abs_units_sub_le w q)
  · intro finite w _ tie other
    rw [significandOf_mod_two]
    have this := h
    rw [← nearest finite] at this
    by_cases magnitudes : w.magnitude = x.magnitude
    · rw [magnitude_eq_zero_of_tie this magnitudes.symm tie other]
    · refine this.even w.magnitude (le_antisymm (this.least _) ?_) magnitudes
      rw [← abs_toRat_sub_mul_eq sign, tie]
      exact abs_units_sub_le w q

theorem hasSignOf_ofDecimal (x : Binary64) (coefficient : Nat) (exponent : ℤ) :
    x.HasSignOf (ofDecimal x.negative coefficient exponent) := by
  have tens : (0 : ℚ) < 10 ^ exponent := zpow_pos (by norm_num) _
  have digits : (0 : ℚ) ≤ coefficient := Nat.cast_nonneg coefficient
  have above : (0 : ℚ) ≤ coefficient * 10 ^ exponent := mul_nonneg digits (le_of_lt tens)
  unfold HasSignOf ofDecimal
  split
  · rw [neg_mul]
    exact neg_nonpos.2 above
  · exact above

/-- A decimal is rounded to the nearest magnitude, with its sign. -/
theorem isRounded_ofDecimal {x : Binary64} {coefficient magnitude : Nat} {exponent : ℤ}
    (h : IsNearest (coefficient * 10 ^ exponent * 2 ^ unitPlaces) magnitude)
    (same : x.magnitude = min infinity magnitude) :
    IsRounded (ofDecimal x.negative coefficient exponent) x := by
  rw [← abs_ofDecimal x.negative] at h
  exact isRounded_of_isNearest h same (hasSignOf_ofDecimal x coefficient exponent)

/-! ### The other way round -/

/-- Every finite magnitude has a double with the sign of a number. -/
theorem exists_hasSignOf {magnitude : Nat} (finite : magnitude < infinity) (q : ℚ) :
    ∃ w : Binary64, w.magnitude = magnitude ∧ w.isFinite = true ∧ w.HasSignOf q := by
  have bits : magnitude < signBit := Nat.lt_trans finite (by decide)
  refine ⟨⟨decide (q < 0), magnitude, bits⟩, rfl, decide_eq_true finite, ?_⟩
  unfold HasSignOf
  by_cases below : q < 0
  · simpa [below] using le_of_lt below
  · simpa [below] using le_of_not_gt below

/-- Magnitudes beyond the finite ones are further away from a number that is not too large than the
largest finite one. -/
theorem abs_largest_sub_lt {y : ℚ} {magnitude : Nat} (large : infinity ≤ magnitude)
    (small : 2 * y < units (infinity - 1) + units infinity) :
    |(units (infinity - 1) : ℚ) - y| < |(units magnitude : ℚ) - y| := by
  have last : infinity - 1 < infinity := by decide
  have above : (units (infinity - 1) : ℚ) < units magnitude :=
    Nat.cast_lt.2 (units_strictMono (Nat.lt_of_lt_of_le last large))
  have beyond : (units infinity : ℚ) ≤ units magnitude :=
    Nat.cast_le.2 (units_strictMono.monotone large)
  refine lt_of_not_ge fun near => ?_
  have far := (abs_sub_le_abs_sub_iff' above).1 near
  linarith

/-- A finite double that is correctly rounded has the nearest magnitude. -/
theorem IsRounded.isNearest {q : ℚ} {x : Binary64} (h : IsRounded q x)
    (finite : x.isFinite = true) : IsNearest (|q| * 2 ^ unitPlaces) x.magnitude := by
  have below := isFinite_iff.1 finite
  have small : |q| < overflow := by
    by_contra large
    exact Nat.ne_of_lt below (h.infinite (le_of_not_gt large))
  have room : 2 * (|q| * 2 ^ unitPlaces) < (units (infinity - 1) : ℚ) + units infinity := by
    rw [← two_mul_overflow_mul]
    exact (mul_lt_mul_iff_right₀ (by norm_num)).2 ((mul_lt_mul_iff_left₀ scale_pos).2 small)
  have nearer (w : Binary64) (finiteW : w.isFinite = true) (sign : w.HasSignOf q) :
      |(units x.magnitude : ℚ) - |q| * 2 ^ unitPlaces| ≤
        |(units w.magnitude : ℚ) - |q| * 2 ^ unitPlaces| := by
    rw [← abs_toRat_sub_mul_eq sign]
    refine (abs_units_sub_le x q).trans ?_
    exact (mul_le_mul_iff_left₀ scale_pos).2 (h.least finite w finiteW)
  have nearest (magnitude : Nat) (inside : magnitude < infinity) :
      |(units x.magnitude : ℚ) - |q| * 2 ^ unitPlaces| ≤
        |(units magnitude : ℚ) - |q| * 2 ^ unitPlaces| := by
    obtain ⟨w, rfl, finiteW, sign⟩ := exists_hasSignOf inside q
    exact nearer w finiteW sign
  have further (magnitude : Nat) (large : infinity ≤ magnitude) :
      |(units x.magnitude : ℚ) - |q| * 2 ^ unitPlaces| <
        |(units magnitude : ℚ) - |q| * 2 ^ unitPlaces| :=
    lt_of_le_of_lt (nearest (infinity - 1) (by decide)) (abs_largest_sub_lt large room)
  constructor
  · intro other
    rcases Nat.lt_or_ge other infinity with inside | large
    · exact nearest other inside
    · exact le_of_lt (further other large)
  · intro other tie different
    have inside : other < infinity :=
      Nat.lt_of_not_le fun large => ne_of_lt (further other large) tie
    obtain ⟨w, rfl, finiteW, sign⟩ := exists_hasSignOf inside q
    have apart := abs_toRat_sub_mul_eq sign
    rw [← tie] at apart
    have near : |w.toRat - q| ≤ |x.toRat - q| := by
      refine (mul_le_mul_iff_left₀ scale_pos).1 ?_
      rw [apart]
      exact abs_units_sub_le x q
    rw [← significandOf_mod_two]
    refine h.even finite w finiteW (le_antisymm (h.least finite w finiteW) near) ?_
    intro same
    exact different (magnitude_eq_of_abs_toRat_eq (congrArg abs same))

/-- A number has only one correctly rounded double of each sign. -/
theorem IsRounded.eq {q : ℚ} {x y : Binary64} (hx : IsRounded q x) (hy : IsRounded q y)
    (sign : x.negative = y.negative) : x = y := by
  have same : x.magnitude = y.magnitude := by
    rcases lt_or_ge |q| overflow with small | large
    · exact (hx.isNearest (hx.finite small)).unique (hy.isNearest (hy.finite small))
    · rw [hx.infinite large, hy.infinite large]
  obtain ⟨negative, magnitude, bits⟩ := x
  simp_all

end Sexpr.Binary64

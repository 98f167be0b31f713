import Mathlib.Algebra.Order.Field.Rat
import Mathlib.Algebra.Order.Ring.Abs
import Mathlib.Order.Monotone.Basic
import Mathlib.Tactic.Linarith
import Mathlib.Tactic.Ring
import Sexpr.Proofs.Binary64.Exact

/-!
# Rounding finds the nearest magnitude

The quotient is rounded to the nearest whole number, so rounding finds the nearest value in the
spacing that belongs to the quotient. Values in a finer spacing lie below the quotient and below the
least value of its spacing, so none of them is nearer. There is one nearest magnitude only, with
ties broken by the last bit, and it grows with the number that is rounded.
-/

namespace Sexpr.Binary64

/-! ### The values of magnitudes -/

theorem two_dvd_binade : 2 ∣ binade := by decide

theorem exponentOf_mul_add_significandOf (magnitude : Nat) :
    exponentOf magnitude * binade + significandOf magnitude = magnitude :=
  Nat.add_sub_cancel' (exponentOf_mul_le magnitude)

/-- A significand is even exactly if its magnitude is. -/
theorem significandOf_mod_two (magnitude : Nat) :
    significandOf magnitude % 2 = magnitude % 2 := by
  have split := exponentOf_mul_add_significandOf magnitude
  have even : 2 ∣ exponentOf magnitude * binade := Nat.dvd_mul_left_of_dvd two_dvd_binade _
  omega

theorem significandOf_lt (magnitude : Nat) : significandOf magnitude < 2 * binade := by
  by_cases subnormal : magnitude < binade
  · rw [significandOf_of_lt subnormal]
    omega
  · have fraction : magnitude % binade < binade := Nat.mod_lt _ (by decide)
    rw [significandOf_of_le (Nat.le_of_not_lt subnormal)]
    omega

theorem exponentOf_spaced {s k : Nat} (low : s = 0 ∨ binade ≤ k) (high : k < 2 * binade) :
    exponentOf (s * binade + k) = s := by
  have positive : 0 < binade := by decide
  have split : (s * binade + k) / binade = k / binade + s := by
    rw [Nat.add_comm, Nat.add_mul_div_right k s positive]
  have below : k / binade < 2 := Nat.div_lt_of_lt_mul (Nat.mul_comm 2 binade ▸ high)
  rw [exponentOf, split]
  rcases low with rfl | normal
  · omega
  · have above : 0 < k / binade := Nat.div_pos normal positive
    omega

/-- Counted in spacings, the values go on from one binade to the next. -/
theorem units_spaced {s k : Nat} (low : s = 0 ∨ binade ≤ k) (high : k ≤ 2 * binade) :
    units (s * binade + k) = k * 2 ^ s := by
  rcases Nat.lt_or_eq_of_le high with inside | rfl
  · rw [units_eq, significandOf, exponentOf_spaced low inside, Nat.add_sub_cancel_left]
  · have next : s * binade + 2 * binade = (s + 1) * binade + binade := by
      rw [Nat.add_mul, Nat.two_mul, Nat.one_mul, Nat.add_assoc]
    have inside : binade < 2 * binade := by decide
    have exponent := exponentOf_spaced (s := s + 1) (.inr (Nat.le_refl binade)) inside
    rw [next, units_eq, significandOf, exponent, Nat.add_sub_cancel_left, Nat.pow_succ, Nat.mul_comm 2,
      Nat.mul_assoc, Nat.mul_comm 2]

theorem low_significandOf (magnitude : Nat) :
    exponentOf magnitude = 0 ∨ binade ≤ significandOf magnitude := by
  by_cases subnormal : magnitude < binade
  · exact .inl (exponentOf_of_lt subnormal)
  · rw [significandOf_of_le (Nat.le_of_not_lt subnormal)]
    exact .inr (Nat.le_add_right binade _)

/-- A greater magnitude has a greater value. -/
theorem units_strictMono : StrictMono units := by
  refine strictMono_nat_of_lt_succ ?_
  intro magnitude
  have split := exponentOf_mul_add_significandOf magnitude
  have high := significandOf_lt magnitude
  have low : exponentOf magnitude = 0 ∨ binade ≤ significandOf magnitude + 1 :=
    (low_significandOf magnitude).imp_right Nat.le_succ_of_le
  have next : units (magnitude + 1) =
      (significandOf magnitude + 1) * 2 ^ exponentOf magnitude := by
    rw [← units_spaced low high, ← Nat.add_assoc, split]
  rw [next, units_eq]
  exact Nat.mul_lt_mul_of_pos_right (Nat.lt_succ_self _) (Nat.two_pow_pos _)

/-- The values of greater spacing are multiples of a spacing. -/
theorem exists_units_eq_mul {s magnitude : Nat} (h : s ≤ exponentOf magnitude) :
    ∃ k, units magnitude = k * 2 ^ s := by
  refine ⟨significandOf magnitude * 2 ^ (exponentOf magnitude - s), ?_⟩
  rw [units_eq, Nat.mul_assoc, ← Nat.pow_add, Nat.sub_add_cancel h]

/-- The values of smaller spacing lie below a binade of that spacing. -/
theorem units_lt_of_exponentOf_lt {s magnitude : Nat} (h : exponentOf magnitude < s) :
    units magnitude < binade * 2 ^ s := by
  have high := significandOf_lt magnitude
  calc units magnitude = significandOf magnitude * 2 ^ exponentOf magnitude := units_eq magnitude
    _ < 2 * binade * 2 ^ exponentOf magnitude :=
        Nat.mul_lt_mul_of_pos_right high (Nat.two_pow_pos _)
    _ = binade * 2 ^ (exponentOf magnitude + 1) := by
        rw [Nat.pow_succ, Nat.mul_comm 2 binade, Nat.mul_assoc, Nat.mul_comm 2]
    _ ≤ binade * 2 ^ s := Nat.mul_le_mul_left binade (Nat.pow_le_pow_right (by decide) h)

/-! ### Quotients -/

theorem roundQuotient_bounds (num den : Nat) :
    num / den ≤ roundQuotient num den ∧ roundQuotient num den ≤ num / den + 1 := by
  unfold roundQuotient
  dsimp only
  split <;> omega

/-- The rounded quotient is the nearest whole number, and even if another one is as near. -/
theorem roundQuotient_nearest {den : Nat} (positive : 0 < den) (num k : Nat) :
    |((roundQuotient num den * den : Nat) : ℤ) - num| ≤ |((k * den : Nat) : ℤ) - num| ∧
      (|((roundQuotient num den * den : Nat) : ℤ) - num| = |((k * den : Nat) : ℤ) - num| →
        k ≠ roundQuotient num den → roundQuotient num den % 2 = 0) := by
  have split : num / den * den + num % den = num := by
    rw [Nat.mul_comm]
    exact Nat.div_add_mod num den
  have rest : num % den < den := Nat.mod_lt num positive
  -- Where the other whole number lies: before the quotient, at it, or at or behind the next one.
  have place : k * den + den ≤ num / den * den ∨ k = num / den ∨ k = num / den + 1 ∨
      num / den * den + 2 * den ≤ k * den := by
    rcases Nat.lt_trichotomy k (num / den) with below | same | above
    · have step := Nat.mul_le_mul_right den (Nat.succ_le_of_lt below)
      rw [Nat.succ_mul] at step
      exact .inl step
    · exact .inr (.inl same)
    · rcases Nat.lt_or_eq_of_le (Nat.succ_le_of_lt above) with far | next
      · have step := Nat.mul_le_mul_right den (Nat.succ_le_of_lt far)
        rw [Nat.succ_mul, Nat.succ_mul, Nat.add_assoc, ← Nat.two_mul] at step
        exact .inr (.inr (.inr step))
      · exact .inr (.inr (.inl next.symm))
  have next : (num / den + 1) * den = num / den * den + den := Nat.succ_mul _ _
  simp only [abs_eq_max_neg]
  unfold roundQuotient
  cases side : compare (2 * (num % den)) den with
  | lt =>
      have small := Nat.compare_eq_lt.1 side
      rcases place with below | rfl | rfl | above <;> constructor <;> dsimp only <;> omega
  | gt =>
      have large := Nat.compare_eq_gt.1 side
      rcases place with below | rfl | rfl | above <;> constructor <;> dsimp only <;> omega
  | eq =>
      have half := Nat.compare_eq_eq.1 side
      rcases Nat.mod_two_eq_zero_or_one (num / den) with even | odd
      · dsimp only
        rw [even, Nat.add_zero]
        rcases place with below | rfl | rfl | above <;> constructor <;> omega
      · dsimp only
        rw [odd]
        rcases place with below | rfl | rfl | above <;> constructor <;> omega

/-! ### The nearest magnitude -/

/-- The nearest magnitude to `num / den` units, among all there are if the formula for their values
goes on beyond the finite ones. -/
def nearestOfAll (num den : Nat) : Nat :=
  spacing (num / den) * binade + roundQuotient num (den * 2 ^ spacing (num / den))

theorem nearest_eq_min (num den : Nat) : nearest num den = min infinity (nearestOfAll num den) := rfl

/-- The spacing at a value is such that the value has as many spacings as there are significands. -/
theorem spacing_bounds (n : Nat) :
    (spacing n = 0 ∨ binade * 2 ^ spacing n ≤ n) ∧ n < 2 * binade * 2 ^ spacing n := by
  have double : 2 * binade = 2 ^ 53 := by decide
  have below : n < 2 ^ (n.log2 + 1) := Nat.lt_log2_self
  constructor
  · rcases Nat.eq_zero_or_pos (spacing n) with zero | positive
    · exact .inl zero
    · refine .inr ?_
      have log : 52 + spacing n = n.log2 := by
        unfold spacing at positive ⊢
        omega
      have nonzero : n ≠ 0 := by
        rintro rfl
        simp [spacing] at positive
      rw [binade_eq, ← Nat.pow_add, log]
      exact Nat.log2_self_le nonzero
  · rw [double, ← Nat.pow_add]
    refine Nat.lt_of_lt_of_le below (Nat.pow_le_pow_right (by decide) ?_)
    unfold spacing
    omega

theorem roundQuotient_spacing_bounds (num den : Nat) :
    (spacing (num / den) = 0 ∨ binade ≤ roundQuotient num (den * 2 ^ spacing (num / den))) ∧
      roundQuotient num (den * 2 ^ spacing (num / den)) ≤ 2 * binade := by
  have spaced := Nat.div_div_eq_div_mul num den (2 ^ spacing (num / den))
  have rounded := roundQuotient_bounds num (den * 2 ^ spacing (num / den))
  obtain ⟨low, high⟩ := spacing_bounds (num / den)
  rw [← spaced] at rounded
  constructor
  · refine low.imp_right fun normal => ?_
    exact Nat.le_trans ((Nat.le_div_iff_mul_le (Nat.two_pow_pos _)).2 normal) rounded.1
  · have below := (Nat.div_lt_iff_lt_mul (Nat.two_pow_pos _)).2 high
    exact Nat.le_trans rounded.2 below

theorem units_nearestOfAll (num den : Nat) :
    units (nearestOfAll num den) =
      roundQuotient num (den * 2 ^ spacing (num / den)) * 2 ^ spacing (num / den) := by
  obtain ⟨low, high⟩ := roundQuotient_spacing_bounds num den
  exact units_spaced low high

/-- No value of smaller spacing is as near as the rounded quotient, because the least value of the
spacing lies between. -/
theorem lt_of_exponentOf_lt {num den other : Nat} (positive : 0 < den)
    (h : exponentOf other < spacing (num / den)) :
    |((units (nearestOfAll num den) * den : Nat) : ℤ) - num| <
      |((units other * den : Nat) : ℤ) - num| := by
  have spaced : 0 < den * 2 ^ spacing (num / den) := Nat.mul_pos positive (Nat.two_pow_pos _)
  have nearer := (roundQuotient_nearest spaced num binade).1
  have least : binade * (den * 2 ^ spacing (num / den)) ≤ num := by
    rcases (spacing_bounds (num / den)).1 with zero | normal
    · omega
    · have scaled := Nat.mul_le_mul_right den normal
      rw [Nat.mul_assoc, Nat.mul_comm _ den] at scaled
      exact Nat.le_trans scaled (Nat.div_mul_le_self num den)
  have smaller : units other * den < binade * (den * 2 ^ spacing (num / den)) := by
    have scaled := Nat.mul_lt_mul_of_pos_right (units_lt_of_exponentOf_lt h) positive
    rwa [Nat.mul_assoc, Nat.mul_comm (2 ^ _) den] at scaled
  rw [units_nearestOfAll, Nat.mul_assoc, Nat.mul_comm _ den]
  simp only [abs_eq_max_neg] at nearer ⊢
  omega

theorem nearestOfAll_mod_two (num den : Nat) :
    nearestOfAll num den % 2 = roundQuotient num (den * 2 ^ spacing (num / den)) % 2 := by
  have even : 2 ∣ spacing (num / den) * binade := Nat.dvd_mul_left_of_dvd two_dvd_binade _
  unfold nearestOfAll
  omega

theorem nearestOfAll_nearest {num den : Nat} (positive : 0 < den) (other : Nat) :
    |((units (nearestOfAll num den) * den : Nat) : ℤ) - num| ≤
        |((units other * den : Nat) : ℤ) - num| ∧
      (|((units (nearestOfAll num den) * den : Nat) : ℤ) - num| =
          |((units other * den : Nat) : ℤ) - num| →
        other ≠ nearestOfAll num den → nearestOfAll num den % 2 = 0) := by
  rcases Nat.lt_or_ge (exponentOf other) (spacing (num / den)) with finer | coarser
  · have nearer := lt_of_exponentOf_lt positive finer
    exact ⟨Int.le_of_lt nearer, fun same => absurd same (Int.ne_of_lt nearer)⟩
  · obtain ⟨k, spaced⟩ := exists_units_eq_mul coarser
    have scale : 0 < den * 2 ^ spacing (num / den) := Nat.mul_pos positive (Nat.two_pow_pos _)
    have nearer := roundQuotient_nearest scale num k
    have sides (j : Nat) : j * 2 ^ spacing (num / den) * den =
        j * (den * 2 ^ spacing (num / den)) := by
      rw [Nat.mul_assoc, Nat.mul_comm _ den]
    rw [units_nearestOfAll, spaced, sides, sides, nearestOfAll_mod_two]
    refine ⟨nearer.1, fun same different => nearer.2 same ?_⟩
    rintro rfl
    exact different (units_strictMono.injective (spaced.trans (units_nearestOfAll num den).symm))

/-- Whether no magnitude is nearer to a number of units than the given one, which has an even last
bit if another one is as near. -/
structure IsNearest (y : ℚ) (magnitude : Nat) : Prop where
  /-- No magnitude is nearer. -/
  least : ∀ other : Nat, |(units magnitude : ℚ) - y| ≤ |(units other : ℚ) - y|
  /-- If another magnitude is as near, the last bit is zero. -/
  even : ∀ other : Nat, |(units magnitude : ℚ) - y| = |(units other : ℚ) - y| →
    other ≠ magnitude → magnitude % 2 = 0

theorem isNearest_nearestOfAll {num den : Nat} (positive : 0 < den) :
    IsNearest (num / den) (nearestOfAll num den) := by
  have scale : (0 : ℚ) < den := Nat.cast_pos.2 positive
  have distance (magnitude : Nat) : |(units magnitude : ℚ) - num / den| =
      ((|((units magnitude * den : Nat) : ℤ) - num| : ℤ) : ℚ) / den := by
    rw [Int.cast_abs, eq_div_iff (ne_of_gt scale), ← abs_of_pos scale, ← abs_mul, abs_of_pos scale,
      sub_mul, div_mul_cancel₀ _ (ne_of_gt scale)]
    push_cast
    rfl
  constructor
  · intro other
    rw [distance, distance]
    refine div_le_div_of_nonneg_right (Int.cast_le.2 ?_) (le_of_lt scale)
    exact (nearestOfAll_nearest positive other).1
  · intro other same different
    rw [distance, distance, div_left_inj' (ne_of_gt scale)] at same
    exact (nearestOfAll_nearest positive other).2 (Int.cast_injective same) different

/-! ### Order -/

theorem abs_sub_le_abs_sub_iff {a c y : ℚ} (h : a < c) : |a - y| ≤ |c - y| ↔ 2 * y ≤ a + c := by
  rw [← sq_le_sq]
  constructor
  · intro le
    by_contra far
    nlinarith
  · intro near
    nlinarith

theorem abs_sub_le_abs_sub_iff' {a c y : ℚ} (h : a < c) : |c - y| ≤ |a - y| ↔ a + c ≤ 2 * y := by
  rw [← sq_le_sq]
  constructor
  · intro le
    by_contra far
    nlinarith
  · intro near
    nlinarith

namespace IsNearest

variable {y z : ℚ} {m n : Nat}

theorem two_mul_le (hm : IsNearest y m) (h : m < n) : 2 * y ≤ units m + units n :=
  (abs_sub_le_abs_sub_iff (Nat.cast_lt.2 (units_strictMono h))).1 (hm.least n)

theorem le_two_mul (hm : IsNearest y m) (h : n < m) : units n + units m ≤ 2 * y :=
  (abs_sub_le_abs_sub_iff' (Nat.cast_lt.2 (units_strictMono h))).1 (hm.least n)

theorem not_lt_of_isNearest (hm : IsNearest y m) (hn : IsNearest y n) : ¬ m < n := by
  intro before
  have far := hn.le_two_mul before
  have same := le_antisymm (hm.least n) (hn.least m)
  have evenM := hm.even n same (Nat.ne_of_gt before)
  have evenN := hn.even m same.symm (Nat.ne_of_lt before)
  -- Two magnitudes that are both even have another one between them, which would be nearer.
  have near := hm.two_mul_le (Nat.lt_succ_self m)
  have between : (units (m + 1) : ℚ) < units n :=
    Nat.cast_lt.2 (units_strictMono (by omega))
  linarith

/-- There is only one nearest magnitude. -/
theorem unique (hm : IsNearest y m) (hn : IsNearest y n) : m = n :=
  Nat.le_antisymm (Nat.le_of_not_lt (hn.not_lt_of_isNearest hm))
    (Nat.le_of_not_lt (hm.not_lt_of_isNearest hn))

/-- The nearest magnitude grows with the number. -/
theorem mono (h : y ≤ z) (hm : IsNearest y m) (hn : IsNearest z n) : m ≤ n := by
  by_contra above
  have before : n < m := Nat.lt_of_not_le above
  have far := hm.le_two_mul before
  have near := hn.two_mul_le before
  obtain rfl : y = z := by linarith
  exact hn.not_lt_of_isNearest hm before

end IsNearest

/-- How often the spacing of doubles has doubled at the largest finite ones. -/
def largestExponent : Nat := 2045

theorem units_infinity : units infinity = 2 * binade * 2 ^ largestExponent := by
  have split : infinity = largestExponent * binade + 2 * binade := by decide
  rw [split, units_spaced (.inr (by decide)) (Nat.le_refl _)]

theorem units_largest : units (infinity - 1) = (2 * binade - 1) * 2 ^ largestExponent := by
  have split : infinity - 1 = largestExponent * binade + (2 * binade - 1) := by decide
  rw [split, units_spaced (.inr (by decide)) (Nat.sub_le _ 1)]

/-- The nearest magnitude is not finite from the midpoint between the last two values on. -/
theorem IsNearest.infinity_le_iff {y : ℚ} {m : Nat} (h : IsNearest y m) :
    infinity ≤ m ↔ (units (infinity - 1) : ℚ) + units infinity ≤ 2 * y := by
  have last : infinity - 1 < infinity := by decide
  constructor
  · intro above
    have far := h.le_two_mul (Nat.lt_of_lt_of_le last above)
    have beyond : (units infinity : ℚ) ≤ units m :=
      Nat.cast_le.2 (units_strictMono.monotone above)
    linarith
  · intro far
    by_contra finite
    have below : m < infinity := Nat.lt_of_not_le finite
    have near := h.two_mul_le below
    have before : units m ≤ units (infinity - 1) := units_strictMono.monotone (by omega)
    have within : (units m : ℚ) ≤ units (infinity - 1) := Nat.cast_le.2 before
    have same : (units m : ℚ) = units (infinity - 1) := by linarith
    obtain rfl : m = infinity - 1 := units_strictMono.injective (Nat.cast_injective same)
    have tie : |(units (infinity - 1) : ℚ) - y| = |(units infinity : ℚ) - y| := by
      refine le_antisymm (h.least infinity) ?_
      exact (abs_sub_le_abs_sub_iff' (Nat.cast_lt.2 (units_strictMono last))).2 far
    have even := h.even infinity tie (by decide)
    exact absurd even (by decide)

end Sexpr.Binary64

import Sexpr.Proofs.Binary64.Rounded
import Sexpr.Proofs.Binary64.Shortest

/-!
# The shortest decimal has the fewest digits

The numbers that are rounded to a magnitude have no gaps between them. So if any decimal on a grid
reads back, one of the two neighbours of the exact value on that grid does, and the search ends
there or on a coarser grid. A decimal with few digits lies on a coarse grid, or else below a power
of ten that lies on such a grid, does not exceed the exact value and therefore reads back as well.
-/

namespace Sexpr.Binary64

open Numeral

/-! ### Decimals that read back -/

/-- A decimal reads back exactly if the magnitude is the nearest to it. -/
theorem readsBack_iff_isNearest {magnitude decimal : Nat} (finite : magnitude < infinity) :
    ReadsBack magnitude decimal ↔ IsNearest (decimal / (5 ^ unitPlaces : Nat)) magnitude := by
  have positive : 0 < 5 ^ unitPlaces := Nat.pow_pos (by decide)
  have nearest : IsNearest (decimal / (5 ^ unitPlaces : Nat)) _ := isNearest_nearestOfAll positive
  rw [ReadsBack, nearest_eq_min]
  constructor
  · intro same
    have all : nearestOfAll decimal (5 ^ unitPlaces) = magnitude := by omega
    rwa [all] at nearest
  · intro h
    rw [nearest.unique h, Nat.min_eq_right (Nat.le_of_lt finite)]

/-- What lies between two numbers that are rounded to a magnitude is rounded to it. -/
theorem readsBack_of_between {magnitude decimal : Nat} (finite : magnitude < infinity) {y z : ℚ}
    (hy : IsNearest y magnitude) (hz : IsNearest z magnitude)
    (low : y ≤ decimal / (5 ^ unitPlaces : Nat)) (high : decimal / (5 ^ unitPlaces : Nat) ≤ z) :
    ReadsBack magnitude decimal := by
  have positive : 0 < 5 ^ unitPlaces := Nat.pow_pos (by decide)
  have nearest : IsNearest (decimal / (5 ^ unitPlaces : Nat)) _ := isNearest_nearestOfAll positive
  have same := Nat.le_antisymm (IsNearest.mono low hy nearest) (IsNearest.mono high nearest hz)
  rw [← same] at nearest
  exact (readsBack_iff_isNearest finite).2 nearest

theorem div_fives_le {m n : Nat} (h : m ≤ n) :
    (m : ℚ) / (5 ^ unitPlaces : Nat) ≤ n / (5 ^ unitPlaces : Nat) :=
  div_le_div_of_nonneg_right (Nat.cast_le.2 h) (Nat.cast_nonneg _)

/-- A decimal between one that reads back and the exact value reads back. -/
theorem readsBack_towards {magnitude decimal other : Nat} (finite : magnitude < infinity)
    (h : ReadsBack magnitude other)
    (between : other ≤ decimal ∧ decimal ≤ exactDecimal magnitude ∨
      exactDecimal magnitude ≤ decimal ∧ decimal ≤ other) : ReadsBack magnitude decimal := by
  have given := (readsBack_iff_isNearest finite).1 h
  have exact_ := (readsBack_iff_isNearest finite).1
    (readsBack_exactDecimal (Nat.le_of_lt finite))
  rcases between with ⟨low, high⟩ | ⟨low, high⟩
  · exact readsBack_of_between finite given exact_ (div_fives_le low) (div_fives_le high)
  · exact readsBack_of_between finite exact_ given (div_fives_le low) (div_fives_le high)

/-! ### The search -/

theorem Decimal.eq_or_eq_of_pick? {accepts : Decimal → Bool} {exact_ : Nat}
    {below above decimal : Decimal} (h : pick? accepts exact_ below above = some decimal) :
    decimal = below ∨ decimal = above := by
  unfold pick? at h
  split at h
  · cases h
  · exact .inl (Option.some.inj h).symm
  · exact .inr (Option.some.inj h).symm
  · split at h
    · exact .inl (Option.some.inj h).symm
    · exact .inr (Option.some.inj h).symm
    · rw [← Option.some.inj h]
      split
      · exact .inl rfl
      · exact .inr rfl

theorem Decimal.pick?_isSome {accepts : Decimal → Bool} {exact_ : Nat} {below above : Decimal}
    (h : accepts below = true ∨ accepts above = true) :
    (pick? accepts exact_ below above).isSome = true := by
  unfold pick?
  split
  · next first second =>
      rw [first, second] at h
      simp at h
  · rfl
  · rfl
  · split <;> rfl

/-- What the search finds on a grid is a neighbour of the exact value. -/
theorem onGrid?_eq_some {magnitude places : Nat} {decimal : Decimal}
    (h : onGrid? magnitude places = some decimal) : decimal.places = places ∧
      decimal.coefficient ≤ exactDecimal magnitude / 10 ^ places + 1 := by
  unfold onGrid? at h
  rcases Decimal.eq_or_eq_of_pick? h with rfl | rfl
  · exact ⟨rfl, Nat.le_succ _⟩
  · exact ⟨rfl, Nat.le_refl _⟩

/-- If any decimal on a grid reads back, the search finds one there. -/
theorem onGrid?_isSome {magnitude places k : Nat} (finite : magnitude < infinity)
    (h : ReadsBack magnitude (k * 10 ^ places)) : (onGrid? magnitude places).isSome = true := by
  have tens : 0 < 10 ^ places := Nat.pow_pos (by decide)
  have below := Nat.div_mul_le_self (exactDecimal magnitude) (10 ^ places)
  have above := Nat.lt_mul_of_div_lt (Nat.lt_succ_self (exactDecimal magnitude / 10 ^ places)) tens
  unfold onGrid?
  refine Decimal.pick?_isSome ?_
  rcases Nat.lt_or_ge (exactDecimal magnitude / 10 ^ places) k with large | small
  · refine .inr (decide_eq_true (readsBack_towards finite h (.inr ⟨Nat.le_of_lt above, ?_⟩)))
    exact Nat.mul_le_mul_right _ large
  · refine .inl (decide_eq_true (readsBack_towards finite h (.inl ⟨?_, below⟩)))
    exact Nat.mul_le_mul_right _ small

theorem places_coarsestFrom_le (magnitude places : Nat) :
    (coarsestFrom magnitude places).places ≤ places := by
  induction places with
  | zero => exact Nat.le_refl 0
  | succ places ih =>
      rw [coarsestFrom]
      cases found : onGrid? magnitude (places + 1) with
      | none => exact Nat.le_succ_of_le ih
      | some decimal => exact Nat.le_of_eq (onGrid?_eq_some found).1

/-- The search ends on the coarsest grid where it finds a decimal. -/
theorem le_places_coarsestFrom {magnitude grid places : Nat}
    (h : (onGrid? magnitude grid).isSome = true) (within : grid ≤ places) :
    grid ≤ (coarsestFrom magnitude places).places := by
  induction places with
  | zero => exact Nat.le_trans within (Nat.zero_le _)
  | succ places ih =>
      rw [coarsestFrom]
      cases found : onGrid? magnitude (places + 1) with
      | none =>
          refine ih (Nat.le_of_lt_succ (Nat.lt_of_le_of_ne within ?_))
          rintro rfl
          rw [found] at h
          cases h
      | some decimal => exact (onGrid?_eq_some found).1.symm ▸ within

theorem coefficient_coarsestFrom_le (magnitude places : Nat) :
    (coarsestFrom magnitude places).coefficient ≤
      exactDecimal magnitude / 10 ^ (coarsestFrom magnitude places).places + 1 := by
  induction places with
  | zero =>
      rw [coarsestFrom, Nat.pow_zero, Nat.div_one]
      exact Nat.le_succ _
  | succ places ih =>
      rw [coarsestFrom]
      cases found : onGrid? magnitude (places + 1) with
      | none => exact ih
      | some decimal =>
          obtain ⟨same, bound⟩ := onGrid?_eq_some found
          rw [← same] at bound
          exact bound

/-! ### Few digits -/

theorem toDigits_ten_pow (n : Nat) : Nat.toDigits 10 (10 ^ n) = '1' :: List.replicate n '0' := by
  induction n with
  | zero => rfl
  | succ n ih =>
      have positive : 0 < 10 ^ n := Nat.pow_pos (by decide)
      have digit : Nat.toDigits 10 0 = ['0'] := rfl
      have next := Nat.toDigits_append_toDigits (b := 10) (by decide) positive (by decide : 0 < 10)
      rw [Nat.add_zero, Nat.mul_comm, ← Nat.pow_succ] at next
      rw [← next, ih, digit, List.cons_append, ← List.replicate_succ']

theorem length_dropTrailingZeros_le (digits : Text) :
    (dropTrailingZeros digits).length ≤ digits.length := by
  obtain ⟨zeros, split⟩ := exists_dropTrailingZeros digits
  have whole := congrArg List.length split
  rw [List.length_append] at whole
  omega

/-- A number up to a power of ten has no more digits than that power has zeros, if zeros at its end
are not counted. -/
theorem length_dropTrailingZeros_toDigits_le {coefficient n : Nat} (positive : 0 < n)
    (h : coefficient ≤ 10 ^ n) : (dropTrailingZeros (Nat.toDigits 10 coefficient)).length ≤ n := by
  rcases Nat.lt_or_eq_of_le h with below | rfl
  · have bounded := (Nat.length_toDigits_le_iff (by decide) positive).2 below
    exact Nat.le_trans (length_dropTrailingZeros_le _) bounded
  · have one : dropTrailingZeros ('1' :: List.replicate n '0') = ['1'] := by
      simp [dropTrailingZeros]
    rw [toDigits_ten_pow, one]
    exact positive

/-- The shortest decimal with `places` zeros behind its digits has no more digits than the exact
decimal has in front of so many places. -/
theorem length_digits_significant_le {magnitude : Nat} (nonzero : magnitude ≠ 0) :
    (significant magnitude).digits.length + (shortest magnitude).places ≤
      (Nat.toDigits 10 (exactDecimal magnitude)).length := by
  have digits := length_toDigits_pos (exactDecimal magnitude)
  have places := places_coarsestFrom_le magnitude
    ((Nat.toDigits 10 (exactDecimal magnitude)).length - 1)
  have coefficient := coefficient_coarsestFrom_le magnitude
    ((Nat.toDigits 10 (exactDecimal magnitude)).length - 1)
  rw [← shortest] at places coefficient
  obtain ⟨more, split⟩ : ∃ more, (Nat.toDigits 10 (exactDecimal magnitude)).length =
      more + (shortest magnitude).places := ⟨_, (Nat.sub_add_cancel (by omega)).symm⟩
  have positive : 0 < more := by omega
  have value := lt_ten_pow_length (exactDecimal magnitude)
  have front : exactDecimal magnitude / 10 ^ (shortest magnitude).places < 10 ^ more := by
    rw [split, Nat.pow_add] at value
    exact Nat.div_lt_of_lt_mul (Nat.mul_comm _ _ ▸ value)
  have short := length_dropTrailingZeros_toDigits_le positive (Nat.le_trans coefficient front)
  simp only [significant, if_neg nonzero]
  omega

theorem exactDecimal_pos {magnitude : Nat} (nonzero : magnitude ≠ 0) :
    0 < exactDecimal magnitude := by
  have above : units 0 < units magnitude := units_strictMono (Nat.pos_of_ne_zero nonzero)
  exact Nat.mul_pos (Nat.zero_lt_of_lt above) (Nat.pow_pos (by decide))

/-- A decimal with an exponent, counted in units of `10 ^ -1074`. -/
theorem scaled_decimal (coefficient : Nat) (exponent : ℤ) :
    (coefficient : ℚ) * 10 ^ exponent * 2 ^ unitPlaces =
      coefficient * 10 ^ (exponent + unitPlaces) / (5 ^ unitPlaces : Nat) := by
  have tens : (10 : ℚ) ^ unitPlaces = 2 ^ unitPlaces * 5 ^ unitPlaces := by
    rw [← mul_pow]
    norm_num
  have fives : (5 : ℚ) ^ unitPlaces ≠ 0 := pow_ne_zero _ (by norm_num)
  rw [zpow_add₀ (by norm_num), zpow_natCast, tens, Nat.cast_pow, Nat.cast_ofNat, eq_div_iff fives]
  ring

/-- If a decimal with few digits reads back, then so does one on the grid where the exact value has
as many digits. -/
theorem exists_readsBack {magnitude coefficient places n : Nat} {exponent : ℤ}
    (finite : magnitude < infinity) (few : coefficient < 10 ^ (n + 1))
    (low : 10 ^ n * 10 ^ places ≤ exactDecimal magnitude)
    (h : IsNearest (coefficient * 10 ^ exponent * 2 ^ unitPlaces) magnitude) :
    ∃ k, ReadsBack magnitude (k * 10 ^ places) := by
  have tens : (10 : ℚ) ≠ 0 := by norm_num
  by_cases coarse : (places : ℤ) ≤ exponent + unitPlaces
  · obtain ⟨zeros, split⟩ : ∃ zeros : Nat, exponent + unitPlaces = zeros + places :=
      ⟨(exponent + unitPlaces - places).toNat, by omega⟩
    refine ⟨coefficient * 10 ^ zeros, (readsBack_iff_isNearest finite).2 ?_⟩
    have same : ((coefficient * 10 ^ zeros * 10 ^ places : Nat) : ℚ) / (5 ^ unitPlaces : Nat) =
        coefficient * 10 ^ exponent * 2 ^ unitPlaces := by
      rw [scaled_decimal, split, zpow_add₀ tens, zpow_natCast, zpow_natCast]
      push_cast
      ring
    rwa [same]
  · -- The decimal lies below the power of ten, which does not exceed the exact value.
    have exact_ := (readsBack_iff_isNearest finite).1
      (readsBack_exactDecimal (Nat.le_of_lt finite))
    refine ⟨10 ^ n, readsBack_of_between finite h exact_ ?_ (div_fives_le low)⟩
    rw [scaled_decimal]
    refine div_le_div_of_nonneg_right ?_ (Nat.cast_nonneg _)
    have digits : (coefficient : ℚ) ≤ 10 ^ (n + 1) := by exact_mod_cast Nat.le_of_lt few
    have finer : (10 : ℚ) ^ (exponent + unitPlaces) ≤ 10 ^ (places - 1 : ℤ) :=
      zpow_le_zpow_right₀ (by norm_num) (by omega)
    calc (coefficient : ℚ) * 10 ^ (exponent + unitPlaces)
        ≤ 10 ^ (n + 1) * 10 ^ (places - 1 : ℤ) :=
          mul_le_mul digits finer (le_of_lt (zpow_pos (by norm_num) _)) (by positivity)
      _ = ((10 ^ n * 10 ^ places : Nat) : ℚ) := by
          rw [zpow_sub₀ tens, zpow_natCast, zpow_one]
          push_cast
          ring

/-- No decimal with fewer digits than the significant ones of a magnitude is rounded to it. -/
theorem fewest_significant {magnitude coefficient n : Nat} {exponent : ℤ}
    (finite : magnitude < infinity) (nonzero : magnitude ≠ 0) (few : coefficient < 10 ^ n)
    (h : IsNearest (coefficient * 10 ^ exponent * 2 ^ unitPlaces) magnitude) :
    (significant magnitude).digits.length ≤ n := by
  have length := length_digits_significant_le nonzero
  cases n with
  | zero =>
      obtain rfl : coefficient = 0 := Nat.lt_one_iff.1 few
      rw [Nat.cast_zero, zero_mul, zero_mul] at h
      exact absurd (h.unique isNearest_zero) nonzero
  | succ n =>
      by_cases many : (Nat.toDigits 10 (exactDecimal magnitude)).length ≤ n + 1
      · omega
      · obtain ⟨places, split⟩ : ∃ places,
            (Nat.toDigits 10 (exactDecimal magnitude)).length = n + places + 1 :=
          ⟨(Nat.toDigits 10 (exactDecimal magnitude)).length - (n + 1), by omega⟩
        have low := ten_pow_le (exactDecimal_pos nonzero)
        rw [split, Nat.add_sub_cancel, Nat.pow_add] at low
        obtain ⟨k, reads⟩ := exists_readsBack finite few low h
        have coarse := le_places_coarsestFrom (onGrid?_isSome finite reads)
          (show places ≤ (Nat.toDigits 10 (exactDecimal magnitude)).length - 1 by omega)
        rw [← shortest] at coarse
        omega

end Sexpr.Binary64

import Mathlib.Data.List.DropRight
import Sexpr.Binary64.Shortest
import Sexpr.Proofs.Binary64.Exact

/-!
# The shortest decimal reads back

Each decimal that the search for the shortest one can end with is rounded to the magnitude it was
searched for. The zeros at the end of its digits are made up for by the exponent, so the significant
digits of a magnitude have the same value and are rounded to that magnitude as well.
-/

namespace Sexpr.Binary64

theorem readsBack_exactDecimal {magnitude : Nat} (h : magnitude ≤ infinity) :
    ReadsBack magnitude (exactDecimal magnitude) := by
  have positive : 0 < 5 ^ unitPlaces := Nat.pow_pos (by decide)
  rw [ReadsBack, exactDecimal, nearest_units h positive]

/-- The decimal that is picked is accepted. -/
theorem Decimal.accepts_of_pick? {accepts : Decimal → Bool} {exact_ : Nat}
    {below above decimal : Decimal} (h : pick? accepts exact_ below above = some decimal) :
    accepts decimal = true := by
  unfold pick? at h
  cases first : accepts below with
  | false =>
      cases second : accepts above with
      | false => simp [first, second] at h
      | true =>
          simp only [first, second, Option.some.injEq] at h
          rw [← h, second]
  | true =>
      cases second : accepts above with
      | false =>
          simp only [first, second, Option.some.injEq] at h
          rw [← h, first]
      | true =>
          -- Whichever of the two is nearer, it is accepted.
          have either : decimal = below ∨ decimal = above := by grind
          rcases either with rfl | rfl
          · exact first
          · exact second

theorem readsBack_of_onGrid? {magnitude places : Nat} {decimal : Decimal}
    (h : onGrid? magnitude places = some decimal) : ReadsBack magnitude decimal.value := by
  unfold onGrid? at h
  have accepted := Decimal.accepts_of_pick? h
  exact of_decide_eq_true accepted

theorem readsBack_coarsestFrom {magnitude : Nat} (h : magnitude ≤ infinity) (places : Nat) :
    ReadsBack magnitude (coarsestFrom magnitude places).value := by
  induction places with
  | zero =>
      rw [coarsestFrom, Decimal.value, Nat.pow_zero, Nat.mul_one]
      exact readsBack_exactDecimal h
  | succ places ih =>
      rw [coarsestFrom]
      cases found : onGrid? magnitude (places + 1) with
      | none => exact ih
      | some decimal => exact readsBack_of_onGrid? found

/-- The shortest decimal of a magnitude is rounded to that magnitude. -/
theorem readsBack_shortest {magnitude : Nat} (h : magnitude ≤ infinity) :
    ReadsBack magnitude (shortest magnitude).value :=
  readsBack_coarsestFrom h _

/-- No other magnitude has a decimal that is rounded to it. -/
theorem ReadsBack.eq {magnitude other decimal : Nat} (h : ReadsBack magnitude decimal)
    (h' : ReadsBack other decimal) : magnitude = other := h.symm.trans h'

theorem exactDecimal_zero : exactDecimal 0 = 0 := by
  have zero : units 0 = 0 := rfl
  rw [exactDecimal, zero, Nat.zero_mul]

/-- Only zero reads back from nothing. -/
theorem eq_zero_of_readsBack_zero {magnitude : Nat} (h : ReadsBack magnitude 0) :
    magnitude = 0 := by
  have zero := readsBack_exactDecimal (Nat.zero_le infinity)
  rw [exactDecimal_zero] at zero
  exact h.eq zero

theorem exists_dropTrailingZeros (digits : Text) :
    ∃ zeros, digits = dropTrailingZeros digits ++ List.replicate zeros '0' := by
  refine ⟨(digits.rtakeWhile (· == '0')).length, ?_⟩
  have dropped : digits.rtakeWhile (· == '0') =
      List.replicate (digits.rtakeWhile (· == '0')).length '0' := by
    refine List.eq_replicate_iff.2 ⟨rfl, ?_⟩
    intro c member
    simpa using List.mem_rtakeWhile_imp member
  rw [← dropped]
  exact List.rdropWhile_append_rtakeWhile.symm

theorem value_append_zeros (digits : Text) (zeros : Nat) :
    Numeral.value (digits ++ List.replicate zeros '0') = Numeral.value digits * 10 ^ zeros := by
  have none : Numeral.value (List.replicate zeros '0') = 0 := by
    rw [Numeral.value_eq, Nat.ofDigitChars_replicate_zero, Nat.mul_zero]
  rw [Numeral.value_append, none, List.length_replicate, Nat.add_zero, Nat.mul_comm]

namespace Significant

/-- The value of significant digits, counted in units of `10 ^ -1074`. -/
def value (s : Significant) : Nat :=
  Numeral.value s.digits * 10 ^ (s.exponent + 1 + unitPlaces - s.digits.length).toNat

/-- Whether there are significant digits, and the last of them does not count less than a unit of
`10 ^ -1074`. -/
structure Fits (s : Significant) : Prop where
  /-- There are digits, and nothing else. -/
  digits : Numeral.IsDigits s.digits
  /-- The last digit counts at least a unit. -/
  places : (s.digits.length : Int) ≤ s.exponent + 1 + unitPlaces

end Significant

theorem significant_zero : significant 0 = ⟨['0'], 0⟩ := rfl

/-- The significant digits of a magnitude have the value of its shortest decimal. -/
theorem exists_zeros_significant {magnitude : Nat} (nonzero : magnitude ≠ 0) :
    ∃ zeros, Nat.toDigits 10 (shortest magnitude).coefficient =
        (significant magnitude).digits ++ List.replicate zeros '0' ∧
      (significant magnitude).exponent + 1 + unitPlaces =
        (significant magnitude).digits.length + (zeros + (shortest magnitude).places : Nat) := by
  obtain ⟨zeros, split⟩ :=
    exists_dropTrailingZeros (Nat.toDigits 10 (shortest magnitude).coefficient)
  have whole := congrArg List.length split
  rw [List.length_append, List.length_replicate] at whole
  simp only [significant, if_neg nonzero]
  refine ⟨zeros, split, ?_⟩
  omega

theorem value_significant {magnitude : Nat} (nonzero : magnitude ≠ 0) :
    (significant magnitude).value = (shortest magnitude).value := by
  obtain ⟨zeros, split, places⟩ := exists_zeros_significant nonzero
  have coefficient := Numeral.value_toDigits (shortest magnitude).coefficient
  rw [split, value_append_zeros] at coefficient
  have exponent : ((significant magnitude).exponent + 1 + unitPlaces -
      (significant magnitude).digits.length).toNat = zeros + (shortest magnitude).places := by
    omega
  rw [Significant.value, exponent, Decimal.value, ← coefficient, Nat.pow_add, Nat.mul_assoc]

/-- The significant digits of a magnitude are rounded to that magnitude. -/
theorem readsBack_significant {magnitude : Nat} (h : magnitude ≤ infinity) :
    ReadsBack magnitude (significant magnitude).value := by
  by_cases zero : magnitude = 0
  · subst zero
    have none : (significant 0).value = exactDecimal 0 := by
      have digit : Numeral.value ['0'] = 0 := rfl
      rw [exactDecimal_zero, significant_zero, Significant.value, digit, Nat.zero_mul]
    rw [none]
    exact readsBack_exactDecimal h
  · rw [value_significant zero]
    exact readsBack_shortest h

/-- A magnitude other than zero has significant digits. -/
theorem significant_digits_ne_nil {magnitude : Nat} (h : magnitude ≤ infinity) :
    (significant magnitude).digits ≠ [] := by
  by_cases zero : magnitude = 0
  · subst zero
    simp [significant_zero]
  · intro empty
    have reads := readsBack_significant h
    have none : (significant magnitude).value = 0 := by
      have digits : Numeral.value [] = 0 := rfl
      rw [Significant.value, empty, digits, Nat.zero_mul]
    rw [none] at reads
    exact zero (eq_zero_of_readsBack_zero reads)

theorem fits_significant {magnitude : Nat} (h : magnitude ≤ infinity) :
    (significant magnitude).Fits := by
  refine ⟨⟨significant_digits_ne_nil h, ?_⟩, ?_⟩
  · by_cases zero : magnitude = 0
    · subst zero
      simp [significant_zero]
    · obtain ⟨zeros, split, -⟩ := exists_zeros_significant zero
      intro c member
      refine (Numeral.isDigits_toDigits (shortest magnitude).coefficient).2 c ?_
      rw [split]
      exact List.mem_append_left _ member
  · by_cases zero : magnitude = 0
    · subst zero
      simp [significant_zero, unitPlaces]
    · obtain ⟨zeros, -, places⟩ := exists_zeros_significant zero
      omega

end Sexpr.Binary64

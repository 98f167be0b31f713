import Sexpr.Binary64.Exact
import Sexpr.Proofs.Numeral

/-!
# Exact decimals are read back

A whole number of units that a magnitude stands for is rounded to that magnitude: its spacing is
that of the magnitude, and in this spacing it has no remainder. Rounding goes on beyond the finite values
up to the magnitude of infinity, so the exact decimals of the infinities are read back as well.
-/

namespace Sexpr.Binary64

theorem isNaN_eq_false_iff {x : Binary64} : x.isNaN = false ↔ x.magnitude ≤ infinity := by
  simp [isNaN]

theorem isFinite_iff {x : Binary64} : x.isFinite = true ↔ x.magnitude < infinity :=
  decide_eq_true_iff

/-- How often the spacing of doubles has doubled at a magnitude. -/
def exponentOf (magnitude : Nat) : Nat := magnitude / binade - 1

/-- The value of a magnitude, counted in the spacing at the magnitude. -/
def significandOf (magnitude : Nat) : Nat := magnitude - exponentOf magnitude * binade

theorem binade_eq : binade = 2 ^ (52 : Nat) := by decide

theorem exponentOf_mul_le (magnitude : Nat) : exponentOf magnitude * binade ≤ magnitude := by
  have whole := Nat.div_mul_le_self magnitude binade
  have fewer : exponentOf magnitude * binade ≤ magnitude / binade * binade :=
    Nat.mul_le_mul_right binade (Nat.sub_le _ 1)
  exact Nat.le_trans fewer whole

theorem exponentOf_of_lt {magnitude : Nat} (subnormal : magnitude < binade) :
    exponentOf magnitude = 0 := by
  rw [exponentOf, Nat.div_eq_of_lt subnormal]

theorem significandOf_of_lt {magnitude : Nat} (subnormal : magnitude < binade) :
    significandOf magnitude = magnitude := by
  rw [significandOf, exponentOf_of_lt subnormal, Nat.zero_mul, Nat.sub_zero]

/-- From the first binade on, the significand is the fraction with a leading one. -/
theorem significandOf_of_le {magnitude : Nat} (normal : binade ≤ magnitude) :
    significandOf magnitude = binade + magnitude % binade := by
  have split := Nat.div_add_mod magnitude binade
  have positive : 0 < magnitude / binade := Nat.div_pos normal (by decide)
  obtain ⟨exponent, same⟩ : ∃ exponent, magnitude / binade = exponent + 1 :=
    ⟨_, (Nat.sub_add_cancel positive).symm⟩
  rw [same, Nat.mul_add, Nat.mul_one, Nat.mul_comm] at split
  rw [significandOf, exponentOf, same, Nat.add_sub_cancel]
  omega

/-- The value of a magnitude is its significand, in the spacing at the magnitude. -/
theorem units_eq (magnitude : Nat) :
    units magnitude = significandOf magnitude * 2 ^ exponentOf magnitude := by
  unfold units
  by_cases subnormal : magnitude < binade
  · rw [if_pos subnormal, significandOf_of_lt subnormal, exponentOf_of_lt subnormal, Nat.pow_zero,
      Nat.mul_one]
  · rw [if_neg subnormal, significandOf_of_le (Nat.le_of_not_lt subnormal)]
    rfl

theorem log2_mul_two_pow {n : Nat} (nonzero : n ≠ 0) (k : Nat) :
    (n * 2 ^ k).log2 = n.log2 + k := by
  induction k with
  | zero => rw [Nat.pow_zero, Nat.mul_one, Nat.add_zero]
  | succ k ih =>
      have power : n * 2 ^ k ≠ 0 := Nat.mul_ne_zero nonzero (Nat.ne_of_gt (Nat.two_pow_pos k))
      rw [Nat.pow_succ, ← Nat.mul_assoc, Nat.mul_comm _ 2, Nat.log2_two_mul power, ih,
        Nat.add_assoc]

/-- The spacing of doubles at a value is the one at its magnitude. -/
theorem spacing_units (magnitude : Nat) : spacing (units magnitude) = exponentOf magnitude := by
  unfold spacing
  by_cases subnormal : magnitude < binade
  · rw [units, if_pos subnormal, exponentOf_of_lt subnormal]
    by_cases zero : magnitude = 0
    · subst zero
      rfl
    · have small : magnitude.log2 < 52 := (Nat.log2_lt zero).2 (binade_eq ▸ subnormal)
      omega
  · have significand := significandOf_of_le (Nat.le_of_not_lt subnormal)
    have fraction : magnitude % binade < binade := Nat.mod_lt _ (by decide)
    have leading : binade ≤ significandOf magnitude := by omega
    have nonzero : significandOf magnitude ≠ 0 := by
      have positive : 0 < binade := by decide
      omega
    have log : (significandOf magnitude).log2 = 52 := by
      have double : 2 ^ (52 + 1) = binade + binade := by decide
      rw [Nat.log2_eq_iff nonzero, ← binade_eq, double]
      omega
    rw [units_eq, log2_mul_two_pow nonzero, log]
    omega

theorem roundQuotient_mul (q : Nat) {den : Nat} (positive : 0 < den) :
    roundQuotient (q * den) den = q := by
  have exact_ : q * den % den = 0 := Nat.mul_mod_left q den
  have below : compare (2 * (q * den % den)) den = .lt := by
    rw [exact_, Nat.mul_zero]
    exact Nat.compare_eq_lt.2 positive
  unfold roundQuotient
  rw [below]
  exact Nat.mul_div_cancel q positive

/-- A value that a magnitude stands for is rounded to that magnitude. -/
theorem nearest_units {magnitude : Nat} (h : magnitude ≤ infinity) {den : Nat}
    (positive : 0 < den) : nearest (units magnitude * den) den = magnitude := by
  have value : units magnitude * den / den = units magnitude :=
    Nat.mul_div_cancel _ positive
  have spaced : 0 < den * 2 ^ exponentOf magnitude :=
    Nat.mul_pos positive (Nat.two_pow_pos _)
  have rounded : roundQuotient (units magnitude * den) (den * 2 ^ exponentOf magnitude) =
      significandOf magnitude := by
    rw [units_eq, Nat.mul_assoc, Nat.mul_comm (2 ^ exponentOf magnitude) den,
      roundQuotient_mul _ spaced]
  unfold nearest
  simp only [value, spacing_units, rounded]
  rw [significandOf, Nat.add_sub_cancel' (exponentOf_mul_le magnitude), Nat.min_eq_right h]

/-- The digits of the exact decimal, read back, are the double they were written for. -/
theorem ofDigits_exactDecimal {x : Binary64} (h : x.isNaN = false) :
    ofDigits x.negative (Nat.toDigits 10 (exactDecimal x.magnitude / 10 ^ unitPlaces))
      ((Nat.toDigits 10 (exactDecimal x.magnitude % 10 ^ unitPlaces)).leftpad unitPlaces '0') =
        x := by
  have bounded := isNaN_eq_false_iff.1 h
  have tens : 0 < 10 ^ unitPlaces := Nat.pow_pos (by decide)
  have places : ((Nat.toDigits 10 (exactDecimal x.magnitude % 10 ^ unitPlaces)).leftpad
      unitPlaces '0').length = unitPlaces :=
    Numeral.length_leftpad_toDigits (by decide) (Nat.mod_lt _ tens)
  have decimal : Numeral.value (Nat.toDigits 10 (exactDecimal x.magnitude / 10 ^ unitPlaces) ++
      (Nat.toDigits 10 (exactDecimal x.magnitude % 10 ^ unitPlaces)).leftpad unitPlaces '0') =
        exactDecimal x.magnitude := by
    rw [Numeral.value_append, Numeral.value_leftpad, Numeral.value_toDigits,
      Numeral.value_toDigits, places]
    exact Nat.div_add_mod _ _
  have scaled : exactDecimal x.magnitude * 2 ^ unitPlaces =
      units x.magnitude * 10 ^ unitPlaces := by
    rw [exactDecimal, Nat.mul_assoc, ← Nat.mul_pow]
  obtain ⟨negative, magnitude, bits⟩ := x
  simp only [ofDigits, mk.injEq, true_and]
  rw [decimal, places, scaled, nearest_units bounded tens]

end Sexpr.Binary64

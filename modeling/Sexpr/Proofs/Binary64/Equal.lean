import Sexpr.Proofs.Binary64.Nearest

/-!
# Doubles that are equal

A double that is a number has a value, a whole number of units. Different magnitudes have different
values, so doubles are equal exactly if both are numbers and their values are the same: the two
zeros are equal, and what is no number is equal to nothing.
-/

namespace Sexpr.Binary64

/-- The value of a double that is a number, counted in units. The infinities count as the first
powers of two beyond the finite values. -/
def value (x : Binary64) : Int := if x.negative then -(units x.magnitude : Int) else units x.magnitude

theorem value_eq_iff {x y : Binary64} : x.value = y.value ↔
    x.magnitude = y.magnitude ∧ (x.negative = y.negative ∨ x.magnitude = 0) := by
  have zero : units 0 = 0 := rfl
  have same := units_strictMono.injective.eq_iff (a := x.magnitude) (b := y.magnitude)
  have none := units_strictMono.injective.eq_iff (a := x.magnitude) (b := 0)
  unfold value
  constructor
  · intro h
    cases signX : x.negative <;> cases signY : y.negative <;> simp only [signX, signY] at h
    all_goals grind
  · rintro ⟨magnitude, sign | vanishes⟩
    · rw [magnitude, sign]
    · rw [← magnitude, vanishes, zero]
      simp

/-- Doubles are equal exactly if both are numbers and have the same value. -/
theorem equal_iff {x y : Binary64} :
    x.equal y = true ↔ x.isNaN = false ∧ y.isNaN = false ∧ x.value = y.value := by
  constructor
  · intro h
    simp only [equal, Bool.and_eq_true, Bool.or_eq_true, Bool.not_eq_true', beq_iff_eq] at h
    obtain ⟨⟨hx, hy⟩, same⟩ := h
    exact ⟨hx, hy, value_eq_iff.2 same⟩
  · rintro ⟨hx, hy, same⟩
    simp only [equal, Bool.and_eq_true, Bool.or_eq_true, Bool.not_eq_true', beq_iff_eq]
    exact ⟨⟨hx, hy⟩, value_eq_iff.1 same⟩

end Sexpr.Binary64

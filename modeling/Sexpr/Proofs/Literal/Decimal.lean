import Sexpr.Proofs.Binary64.Rounded
import Sexpr.Proofs.Literal.Classify

/-!
# Decimals with a point

A text with digits around a point is read as the correctly rounded double of the number that it
stands for, and the double has the sign of the text, even where that number is rounded to zero or to
an infinity.
-/

namespace Sexpr

open Numeral

namespace Binary64

/-- The digits of a decimal with a point make up its correctly rounded double. -/
theorem isRounded_ofDigits (negative : Bool) (whole fraction : Text) :
    IsRounded (ofDecimal negative (Numeral.value (whole ++ fraction)) (-fraction.length))
      (ofDigits negative whole fraction) := by
  have positive : 0 < 10 ^ fraction.length := Nat.pow_pos (by decide)
  have nearest : IsNearest
      ((Numeral.value (whole ++ fraction) * 2 ^ unitPlaces : Nat) / (10 ^ fraction.length : Nat))
      (nearestOfAll (Numeral.value (whole ++ fraction) * 2 ^ unitPlaces) (10 ^ fraction.length)) :=
    isNearest_nearestOfAll positive
  have scaled : (Numeral.value (whole ++ fraction) : ℚ) * 10 ^ (-fraction.length : ℤ) *
      2 ^ unitPlaces =
        (Numeral.value (whole ++ fraction) * 2 ^ unitPlaces : Nat) / (10 ^ fraction.length : Nat) := by
    rw [zpow_neg, zpow_natCast]
    push_cast
    ring
  rw [← scaled] at nearest
  exact isRounded_ofDecimal (x := ofDigits negative whole fraction) nearest rfl

end Binary64

namespace Literal

theorem classify_signed_point {whole fraction : Text} (digits : IsDigits whole)
    (more : IsDigits fraction) (negative : Bool) :
    classify (signed negative (whole ++ '.' :: fraction)) =
      some (.float (.ofDigits negative whole fraction)) := by
  have admitted := Kind.admits_float_iff.2 ⟨negative, whole, fraction, digits, more, rfl⟩
  rw [classify_eq_read admitted (by simp), Kind.read, Binary64.ofText?_signed digits more,
    Option.map_some]

/-- A text with digits around a point is read as the correctly rounded double of the number it
stands for, whatever the number of digits, with the sign of the text. -/
theorem classify_point_isRounded {whole fraction : Text} (digits : IsDigits whole)
    (more : IsDigits fraction) (negative : Bool) :
    ∃ x, classify (signed negative (whole ++ '.' :: fraction)) = some (.float x) ∧
      (x.negative = true ↔ (signed negative (whole ++ '.' :: fraction)).head? = some '-') ∧
      x.isNaN = false ∧
      x.IsRounded (ofDecimal negative (Nat.ofDigitChars 10 (whole ++ fraction) 0)
        (-fraction.length)) := by
  refine ⟨.ofDigits negative whole fraction, classify_signed_point digits more negative, ?_, ?_, ?_⟩
  · exact (head?_signed_eq_iff (not_head_of_isDigits digits _) negative).symm
  · exact Binary64.isNaN_ofDigits negative whole fraction
  · have rounded := Binary64.isRounded_ofDigits negative whole fraction
    rwa [value_eq] at rounded

/-- The number lies halfway between two doubles. -/
theorem classify_point_isRounded_halfway :
    IsDigits "9007199254740993".toList ∧ IsDigits "0".toList ∧
      ∃ x, classify "-9007199254740993.0".toList = some (.float x) ∧
        (x.negative = true ↔ "-9007199254740993.0".toList.head? = some '-') ∧
        x.isNaN = false ∧ x.IsRounded (ofDecimal true 90071992547409930 (-1)) := by
  have digits : IsDigits "9007199254740993".toList := by decide
  have more : IsDigits "0".toList := by decide
  exact ⟨digits, more, classify_point_isRounded digits more true⟩

end Literal

end Sexpr

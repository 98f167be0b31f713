import Sexpr.Literal.Printed
import Sexpr.Proofs.Binary64.Denoted
import Sexpr.Proofs.Literal.Decimal

/-!
# Printed doubles are read back

The text of a finite double stands for a number that is rounded to the double, and no number with
fewer digits is. If it has no exponent, it is a float to the reader as well, and since there is only
one correctly rounded double of each sign, the reader finds the double that was printed.
-/

namespace Sexpr.Literal

open Numeral

/-- The floats to the reader are the decimals with a point and without an exponent. -/
theorem exists_classify_float_iff {t : Text} :
    (∃ x, classify t = some (.float x)) ↔ IsPositional t := by
  constructor
  · rintro ⟨x, read⟩
    obtain ⟨kind, admitted, -, read⟩ := exists_kind_of_classify read
    have float : Kind.float = kind := Kind.kind_of_read read
    rw [← float] at admitted
    exact Kind.admits_float_iff.1 admitted
  · rintro ⟨negative, whole, fraction, digits, more, rfl⟩
    exact ⟨_, classify_signed_point digits more negative⟩

/-- A float is read as the correctly rounded double of the number that its text stands for, with the
sign of the text. -/
theorem isRounded_of_classify {t : Text} {x : Binary64} (h : classify t = some (.float x)) :
    ∃ q, decimal? t = some q ∧ x.IsRounded q ∧ (t.head? = some '-' ↔ x.negative = true) := by
  obtain ⟨negative, whole, fraction, digits, more, rfl⟩ := exists_classify_float_iff.1 ⟨x, h⟩
  rw [classify_signed_point digits more, Option.some.injEq, float.injEq] at h
  subst h
  refine ⟨_, decimal?_signed_point digits more negative, ?_, ?_⟩
  · have rounded := Binary64.isRounded_ofDigits negative whole fraction
    rwa [value_eq] at rounded
  · exact head?_signed_eq_iff (not_head_of_isDigits digits _) negative

/-- A float that is spelled as a double is printed is that double. -/
theorem eq_of_classify_printed {x y : Binary64} (h : classify x.printed = some (.float y)) :
    y = x := by
  have positional := exists_classify_float_iff.1 ⟨y, h⟩
  obtain ⟨finite, -⟩ := Binary64.isPositional_printed_iff.1 positional
  obtain ⟨q, number, rounded, sign⟩ := isRounded_of_classify h
  rw [Binary64.decimal?_printed finite, Option.some.injEq] at number
  subst number
  rw [Binary64.head?_printed_iff finite, Bool.coe_iff_coe] at sign
  exact rounded.eq (Binary64.isRounded_shortestValue finite) sign.symm

/-- The text that a float is printed with stands for a number that is rounded to the float, with its
sign, and no decimal with fewer significant digits is; it has an exponent unless the float is zero
or the first digit counts powers of ten with an exponent from `-4` to `15`. The reader takes the
text for a float exactly if the float is finite and the text has no exponent, and finds the float
that was printed. -/
theorem printed_float_readBack (x : Binary64) :
    (Literal.float x).printed = "FloatLiteral(value=".toList ++ x.printed ++ ")".toList ∧
      (x.isFinite = true → ∃ q, decimal? x.printed = some q ∧ x.IsRounded q ∧
        (x.printed.head? = some '-' ↔ x.negative = true) ∧
        (∀ (negative : Bool) (coefficient n : Nat) (exponent : ℤ), coefficient < 10 ^ n →
          x.IsRounded (ofDecimal negative coefficient exponent) →
            (Binary64.significantDigits x.printed).length ≤ n) ∧
        (IsPositional x.printed ↔ x.magnitude = 0 ∨
          ∃ e : ℤ, 10 ^ e ≤ |q| ∧ |q| < 10 ^ (e + 1) ∧ -4 ≤ e ∧ e < 16)) ∧
      ((∃ y, classify x.printed = some (.float y)) ↔
        x.isFinite = true ∧ IsPositional x.printed) ∧
      (∀ y, classify x.printed = some (.float y) → y = x) := by
  refine ⟨rfl, ?_, ?_, fun y => eq_of_classify_printed⟩
  · intro finite
    refine ⟨x.shortestValue, Binary64.decimal?_printed finite,
      Binary64.isRounded_shortestValue finite, Binary64.head?_printed_iff finite, ?_, ?_⟩
    · intro negative coefficient n exponent few rounded
      exact Binary64.significantDigits_printed_le finite few rounded
    · exact Binary64.isPositional_printed_iff_weight finite
  · rw [exists_classify_float_iff]
    constructor
    · intro positional
      exact ⟨(Binary64.isPositional_printed_iff.1 positional).1, positional⟩
    · rintro ⟨-, positional⟩
      exact positional

end Sexpr.Literal

import Sexpr.Proofs.Binary64.Fewest
import Sexpr.Proofs.Binary64.Printed
import Sexpr.Proofs.Decimal

/-!
# The number that the text of a double stands for

The text of a finite double is a decimal. Its number is that of the significant digits, which is
rounded to the double; it has no more digits than those, and an exponent exactly if theirs is small
or large.
-/

namespace Sexpr.Binary64

open Numeral

namespace Significant

variable {s : Significant}

theorem isPositional_text_iff (fits : s.Fits) (negative : Bool) :
    Numeral.IsPositional (signed negative s.text) ↔ s.IsPositional := by
  unfold text
  constructor
  · intro positional
    by_contra raised
    rw [if_neg raised] at positional
    have mark : 'e' ∈ signed negative s.scientific := by
      cases negative <;> simp [signed, scientific]
    exact not_mem_of_isPositional positional rfl (by decide) (by decide) mark
  · intro positional
    rw [if_pos positional]
    obtain ⟨whole, fraction, laid, ⟨digits, more, -⟩, -⟩ := exists_positional fits
    exact ⟨negative, whole, fraction, digits, more, by rw [laid]⟩

end Significant

/-! ### The text of a double -/

theorem printed_of_isFinite {x : Binary64} (finite : x.isFinite = true) :
    x.printed = signed x.negative (significant x.magnitude).text := by
  have number : x.isNaN = false := isNaN_eq_false_iff.2 (Nat.le_of_lt (isFinite_iff.1 finite))
  rw [printed_of_not_isNaN number, unsignedText, if_pos finite]

theorem fits_of_isFinite {x : Binary64} (finite : x.isFinite = true) :
    (significant x.magnitude).Fits :=
  fits_significant (Nat.le_of_lt (isFinite_iff.1 finite))

/-- The number that the text of a finite double stands for. -/
def shortestValue (x : Binary64) : ℚ :=
  ofDecimal x.negative (significant x.magnitude).value (-unitPlaces)

theorem decimal?_printed {x : Binary64} (finite : x.isFinite = true) :
    decimal? x.printed = some x.shortestValue := by
  rw [printed_of_isFinite finite, Significant.decimal?_text (fits_of_isFinite finite),
    shortestValue]

/-- The number that the text of a finite double stands for is rounded to the double. -/
theorem isRounded_shortestValue {x : Binary64} (finite : x.isFinite = true) :
    IsRounded x.shortestValue x := by
  have below := isFinite_iff.1 finite
  have reads := (readsBack_iff_isNearest below).1 (readsBack_significant (Nat.le_of_lt below))
  have scaled : ((significant x.magnitude).value : ℚ) * 10 ^ (-unitPlaces : ℤ) * 2 ^ unitPlaces =
      (significant x.magnitude).value / (5 ^ unitPlaces : Nat) := by
    rw [scaled_decimal, neg_add_cancel, zpow_zero, mul_one]
  rw [← scaled] at reads
  exact isRounded_ofDecimal reads (Nat.min_eq_right (Nat.le_of_lt below)).symm

theorem head?_printed_iff {x : Binary64} (finite : x.isFinite = true) :
    x.printed.head? = some '-' ↔ x.negative = true := by
  obtain ⟨c, rest, same, digit⟩ := Significant.exists_head_text (fits_of_isFinite finite)
  have unsigned : '-' ∉ (significant x.magnitude).text.head? := by
    rw [same]
    intro minus
    obtain rfl : c = '-' := Option.some.inj minus
    cases digit
  rw [printed_of_isFinite finite, head?_signed_eq_iff unsigned]

/-- The text of a double is positional exactly if the double is finite and its significant digits
are laid out without an exponent. -/
theorem isPositional_printed_iff {x : Binary64} : Numeral.IsPositional x.printed ↔
    x.isFinite = true ∧ (significant x.magnitude).IsPositional := by
  cases finite : x.isFinite with
  | true =>
      rw [printed_of_isFinite finite, Significant.isPositional_text_iff (fits_of_isFinite finite)]
      simp
  | false =>
      have name : 'n' ∈ x.printed := by
        unfold printed
        rw [finite, if_neg Bool.false_ne_true]
        split
        · decide
        · exact List.mem_append_right _ (by decide)
      simp only [Bool.false_eq_true, false_and, iff_false]
      intro positional
      exact not_mem_of_isPositional positional rfl (by decide) (by decide) name

/-! ### The exponent of the first digit -/

theorem coefficient_shortest_pos {magnitude : Nat} (nonzero : magnitude ≠ 0)
    (h : magnitude ≤ infinity) : 0 < (shortest magnitude).coefficient := by
  refine Nat.pos_of_ne_zero fun none => nonzero ?_
  have reads := readsBack_shortest h
  rw [Decimal.value, none, Nat.zero_mul] at reads
  exact eq_zero_of_readsBack_zero reads

/-- The exponent of the significant digits is that of the first of them. -/
theorem weight_shortestValue {x : Binary64} (finite : x.isFinite = true) (nonzero : x.magnitude ≠ 0) :
    10 ^ (significant x.magnitude).exponent ≤ |x.shortestValue| ∧
      |x.shortestValue| < 10 ^ ((significant x.magnitude).exponent + 1) := by
  have bounded := Nat.le_of_lt (isFinite_iff.1 finite)
  have value : x.shortestValue = ofDecimal x.negative (shortest x.magnitude).coefficient
      (-unitPlaces + (shortest x.magnitude).places) := by
    rw [shortestValue, value_significant nonzero, Decimal.value, ofDecimal_mul_ten_pow]
  have exponent : (significant x.magnitude).exponent =
      (Nat.toDigits 10 (shortest x.magnitude).coefficient).length - 1 +
        (-unitPlaces + (shortest x.magnitude).places) := by
    simp only [significant, if_neg nonzero]
    omega
  have next : (significant x.magnitude).exponent + 1 =
      (Nat.toDigits 10 (shortest x.magnitude).coefficient).length +
        (-unitPlaces + (shortest x.magnitude).places) := by
    omega
  rw [next, exponent, value]
  exact abs_ofDecimal_bounds (coefficient_shortest_pos nonzero bounded) _ _

theorem exponent_le_of_weights {a : ℚ} {e f : ℤ} (low : 10 ^ e ≤ a) (high : a < 10 ^ (f + 1)) :
    e ≤ f := by
  have below : (10 : ℚ) ^ e < 10 ^ (f + 1) := lt_of_le_of_lt low high
  exact Int.le_of_lt_add_one ((zpow_lt_zpow_iff_right₀ (by norm_num)).1 below)

/-- The text of a finite double is positional exactly if the double is zero or the first digit of
the text has a middling exponent. -/
theorem isPositional_printed_iff_weight {x : Binary64} (finite : x.isFinite = true) :
    Numeral.IsPositional x.printed ↔ x.magnitude = 0 ∨
      ∃ e : ℤ, 10 ^ e ≤ |x.shortestValue| ∧ |x.shortestValue| < 10 ^ (e + 1) ∧
        -4 ≤ e ∧ e < 16 := by
  rw [isPositional_printed_iff]
  by_cases zero : x.magnitude = 0
  · rw [zero, significant_zero]
    simp [finite, Significant.IsPositional]
  · obtain ⟨low, high⟩ := weight_shortestValue finite zero
    simp only [finite, zero, true_and, false_or]
    constructor
    · intro h
      exact ⟨_, low, high, h⟩
    · rintro ⟨e, lowE, highE, h⟩
      have same := le_antisymm (exponent_le_of_weights low highE) (exponent_le_of_weights lowE high)
      unfold Significant.IsPositional
      omega

/-! ### The number of digits -/

/-- The digits of a decimal in front of its exponent. -/
def figures (t : Text) : Text := (t.takeWhile (· != 'e')).filter Char.isDigit

/-- The digits of a decimal in front of its exponent, without zeros at the beginning and at the
end. -/
def significantDigits (t : Text) : Text := dropTrailingZeros ((figures t).dropWhile (· == '0'))

example : significantDigits "-0.0150e-7".toList = "15".toList := rfl

theorem figures_signed (negative : Bool) (t : Text) : figures (signed negative t) = figures t := by
  cases negative <;> simp [figures, signed]

theorem dropTrailingZeros_append_zeros (digits : Text) (zeros : Nat) :
    dropTrailingZeros (digits ++ List.replicate zeros '0') = dropTrailingZeros digits := by
  have zero : ∀ c ∈ List.replicate zeros '0', (c == '0') = true := by simp
  rw [dropTrailingZeros, List.reverse_append, List.reverse_replicate,
    List.dropWhile_append_of_pos zero, dropTrailingZeros]

theorem length_significantDigits_le {t digits : Text} {before behind : Nat}
    (h : figures t = List.replicate before '0' ++ (digits ++ List.replicate behind '0')) :
    (significantDigits t).length ≤ digits.length := by
  have zero (zeros : Nat) : ∀ c ∈ List.replicate zeros '0', (c == '0') = true := by simp
  rw [significantDigits, h, List.dropWhile_append_of_pos (zero before), List.dropWhile_append]
  split
  · rw [← List.append_nil (List.replicate _ _), List.dropWhile_append_of_pos (zero behind)]
    exact Nat.zero_le _
  · rw [dropTrailingZeros_append_zeros]
    exact Nat.le_trans (length_dropTrailingZeros_le _) (List.length_dropWhile_le _ _)

theorem figures_append {t ending : Text} (inside : 'e' ∉ t)
    (stop : ∀ c ∈ ending.head?, (c != 'e') = false) :
    figures (t ++ ending) = t.filter Char.isDigit := by
  rw [figures, Text.takeWhile_append_of_head (Text.bne_of_not_mem inside) stop]

namespace Significant

variable {s : Significant}

theorem figures_positional (fits : s.Fits) : ∃ before behind, figures s.positional =
    List.replicate before '0' ++ (s.digits ++ List.replicate behind '0') := by
  have kept : s.digits.filter Char.isDigit = s.digits := List.filter_eq_self.2 fits.digits.2
  have all : figures s.positional = s.positional.filter Char.isDigit := by
    have inside : 'e' ∉ s.positional := by
      obtain ⟨whole, fraction, laid, ⟨digits, more, -⟩, -⟩ := exists_positional fits
      exact not_mem_of_isPositional ⟨false, whole, fraction, digits, more, laid⟩ rfl (by decide)
        (by decide)
    have none : ∀ c ∈ ([] : Text).head?, (c != 'e') = false := by simp
    have whole := figures_append inside none
    rwa [List.append_nil] at whole
  rw [all]
  unfold positional
  split
  · refine ⟨(-s.exponent - 1).toNat + 1, 0, ?_⟩
    simp [List.filter_append, kept, List.replicate_succ]
  · dsimp only
    split
    · refine ⟨0, s.exponent.toNat + 1 - s.digits.length + 1, ?_⟩
      simp [List.rightpad, List.filter_append, kept, List.replicate_succ']
    · refine ⟨0, 0, ?_⟩
      have cut := List.filter_append (p := Char.isDigit) (s.digits.take (s.exponent.toNat + 1))
        (s.digits.drop (s.exponent.toNat + 1))
      rw [List.take_append_drop, kept] at cut
      simp [List.filter_append, ← cut]

theorem figures_scientific (fits : s.Fits) : figures s.scientific = s.digits := by
  have stop : ∀ c ∈ ('e' :: s.exponentText).head?, (c != 'e') = false := by simp
  have kept : s.digits.filter Char.isDigit = s.digits := List.filter_eq_self.2 fits.digits.2
  have absent : 'e' ∉ s.digits := by
    intro member
    cases fits.digits.2 'e' member
  obtain ⟨first, point, same, laid, pointed⟩ := exists_mantissa fits.digits
  rw [same] at kept absent
  have inside : 'e' ∉ first :: point := by
    rcases pointed with rfl | ⟨fraction, -, rfl⟩
    · exact absent
    · simpa using absent
  rw [scientific, laid, figures_append inside stop, same]
  rcases pointed with rfl | ⟨fraction, -, rfl⟩
  · exact kept
  · simpa [List.filter_cons] using kept

/-- No other digits stand in the text than the significant ones and zeros around them. -/
theorem figures_text (fits : s.Fits) : ∃ before behind, figures s.text =
    List.replicate before '0' ++ (s.digits ++ List.replicate behind '0') := by
  unfold text
  split
  · exact figures_positional fits
  · refine ⟨0, 0, ?_⟩
    rw [figures_scientific fits]
    simp

end Significant

/-- No decimal with fewer significant digits than the text of a double is rounded to the double. -/
theorem significantDigits_printed_le {x : Binary64} (finite : x.isFinite = true) {negative : Bool}
    {coefficient n : Nat} {exponent : ℤ} (few : coefficient < 10 ^ n)
    (h : IsRounded (ofDecimal negative coefficient exponent) x) :
    (significantDigits x.printed).length ≤ n := by
  have unsigned : figures x.printed = figures (significant x.magnitude).text := by
    rw [printed_of_isFinite finite, figures_signed]
  by_cases zero : x.magnitude = 0
  · have none : significantDigits x.printed = [] := by
      rw [significantDigits, unsigned, zero]
      rfl
    rw [none]
    exact Nat.zero_le n
  · obtain ⟨before, behind, same⟩ := Significant.figures_text (fits_of_isFinite finite)
    have nearest := h.isNearest finite
    rw [abs_ofDecimal] at nearest
    have fewest := fewest_significant (isFinite_iff.1 finite) zero few nearest
    exact Nat.le_trans (length_significantDigits_le (unsigned.trans same)) fewest

end Sexpr.Binary64

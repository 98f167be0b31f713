import Mathlib.Algebra.Order.Field.Basic
import Mathlib.Algebra.Order.Field.Rat
import Mathlib.Algebra.Order.Ring.Abs
import Mathlib.Tactic.NormNum
import Mathlib.Tactic.Ring
import Sexpr.Proofs.Numeral

/-!
# The numbers that decimals stand for

A decimal is a numeral that may have a point and, behind it, an exponent. It stands for a rational
number: its digits, taken as one number, times a power of ten.
-/

namespace Sexpr.Numeral

/-- The rational number with a sign, decimal digits taken as one number, and an exponent. -/
def ofDecimal (negative : Bool) (coefficient : Nat) (exponent : ℤ) : ℚ :=
  (if negative then -(coefficient : ℚ) else coefficient) * 10 ^ exponent

/-- The exponent at the end of a decimal: a sign and digits behind an `e`. It may be missing. -/
def exponent? : Text → Option ℤ
  | [] => some 0
  | 'e' :: '-' :: digits =>
      if IsDigits digits then some (-(Nat.ofDigitChars 10 digits 0 : ℤ)) else none
  | 'e' :: '+' :: digits => if IsDigits digits then some (Nat.ofDigitChars 10 digits 0) else none
  | _ => none

/-- The number that a decimal stands for; `none` for any other text. -/
def decimal? (t : Text) : Option ℚ :=
  let (negative, body) := splitSign t
  let mantissa := body.takeWhile (· != 'e')
  let whole := mantissa.takeWhile (· != '.')
  let point := mantissa.dropWhile (· != '.')
  let fraction := point.drop 1
  if IsDigits whole ∧ (point = [] ∨ IsDigits fraction) then
    (exponent? (body.dropWhile (· != 'e'))).map fun exponent =>
      ofDecimal negative (Nat.ofDigitChars 10 (whole ++ fraction) 0) (exponent - fraction.length)
  else none

/-- Whether a text is a decimal with a point and without an exponent. -/
def IsPositional (t : Text) : Prop :=
  ∃ negative whole fraction, IsDigits whole ∧ IsDigits fraction ∧
    t = signed negative (whole ++ '.' :: fraction)

theorem abs_ofDecimal (negative : Bool) (coefficient : Nat) (exponent : ℤ) :
    |ofDecimal negative coefficient exponent| = coefficient * 10 ^ exponent := by
  have tens : (0 : ℚ) < 10 ^ exponent := zpow_pos (by norm_num) _
  rw [ofDecimal, abs_mul, abs_of_pos tens]
  cases negative <;> simp

theorem ofDecimal_injective {negative : Bool} {m n : Nat} {exponent : ℤ}
    (h : ofDecimal negative m exponent = ofDecimal negative n exponent) : m = n := by
  have tens : (10 : ℚ) ^ exponent ≠ 0 := zpow_ne_zero _ (by norm_num)
  have sizes := congrArg abs h
  rw [abs_ofDecimal, abs_ofDecimal] at sizes
  exact Nat.cast_injective (mul_right_cancel₀ tens sizes)

/-- Zeros behind the digits are made up for by the exponent. -/
theorem ofDecimal_mul_ten_pow (negative : Bool) (coefficient zeros : Nat) (exponent : ℤ) :
    ofDecimal negative (coefficient * 10 ^ zeros) exponent =
      ofDecimal negative coefficient (exponent + zeros) := by
  rw [ofDecimal, ofDecimal, zpow_add₀ (by norm_num), zpow_natCast]
  push_cast
  cases negative <;> simp only [if_true, if_false, Bool.false_eq_true] <;> ring

/-- The first digit of a decimal counts powers of ten. -/
theorem abs_ofDecimal_bounds {coefficient : Nat} (positive : 0 < coefficient) (negative : Bool)
    (exponent : ℤ) :
    10 ^ ((Nat.toDigits 10 coefficient).length - 1 + exponent) ≤
        |ofDecimal negative coefficient exponent| ∧
      |ofDecimal negative coefficient exponent| <
        10 ^ ((Nat.toDigits 10 coefficient).length + exponent) := by
  have low := ten_pow_le positive
  have high := lt_ten_pow_length coefficient
  have tens : (0 : ℚ) < 10 ^ exponent := zpow_pos (by norm_num) _
  have first : ((Nat.toDigits 10 coefficient).length - 1 : ℤ) =
      ((Nat.toDigits 10 coefficient).length - 1 : Nat) :=
    (Nat.cast_pred (length_toDigits_pos coefficient)).symm
  rw [abs_ofDecimal, first, zpow_add₀ (by norm_num), zpow_add₀ (by norm_num), zpow_natCast,
    zpow_natCast]
  constructor
  · refine mul_le_mul_of_nonneg_right ?_ (le_of_lt tens)
    exact_mod_cast low
  · refine mul_lt_mul_of_pos_right ?_ tens
    exact_mod_cast high

theorem bne_of_mem_head?_exponent {ending : Text} {exponent : ℤ}
    (h : exponent? ending = some exponent) : ∀ c ∈ ending.head?, (c != 'e') = false := by
  unfold exponent? at h
  split at h
  · simp
  · simp
  · simp
  · cases h

/-- The parts of a decimal. -/
theorem decimal?_signed {whole point ending : Text} {exponent : ℤ} (digits : IsDigits whole)
    (pointed : point = [] ∨ ∃ fraction, IsDigits fraction ∧ point = '.' :: fraction)
    (raised : exponent? ending = some exponent) (negative : Bool) :
    decimal? (signed negative (whole ++ point ++ ending)) =
      some (ofDecimal negative (Nat.ofDigitChars 10 (whole ++ point.drop 1) 0)
        (exponent - (point.drop 1).length)) := by
  have unsigned := not_head_of_isDigits digits (point ++ ending)
  rw [← List.append_assoc] at unsigned
  have end_ := bne_of_mem_head?_exponent raised
  have stop : ∀ c ∈ point.head?, (c != '.') = false := by
    rcases pointed with rfl | ⟨fraction, -, rfl⟩ <;> simp
  have behind : point = [] ∨ IsDigits (point.drop 1) := by
    rcases pointed with rfl | ⟨fraction, more, rfl⟩
    · exact .inl rfl
    · exact .inr more
  have mantissa : ∀ c ∈ whole ++ point, (c != 'e') = true := by
    intro c member
    rcases List.mem_append.1 member with member | member
    · exact bne_of_isDigit rfl digits.2 c member
    · rcases pointed with rfl | ⟨fraction, more, rfl⟩
      · cases member
      · rcases List.mem_cons.1 member with rfl | member
        · rfl
        · exact bne_of_isDigit rfl more.2 c member
  unfold decimal?
  rw [splitSign_signed unsigned]
  simp only [Text.takeWhile_append_of_head mantissa end_,
    Text.dropWhile_append_of_head mantissa end_,
    Text.takeWhile_append_of_head (bne_of_isDigit rfl digits.2) stop,
    Text.dropWhile_append_of_head (bne_of_isDigit rfl digits.2) stop, digits, behind, raised,
    and_self, if_true, Option.map_some]

/-- A decimal with a point and without an exponent. -/
theorem decimal?_signed_point {whole fraction : Text} (digits : IsDigits whole)
    (more : IsDigits fraction) (negative : Bool) :
    decimal? (signed negative (whole ++ '.' :: fraction)) =
      some (ofDecimal negative (Nat.ofDigitChars 10 (whole ++ fraction) 0) (-fraction.length)) := by
  have none : exponent? [] = some 0 := rfl
  have parts := decimal?_signed digits (.inr ⟨fraction, more, rfl⟩) none negative
  rwa [List.append_nil, zero_sub] at parts

example : decimal? "-1.50e+2".toList = some (ofDecimal true 150 0) := rfl

/-- A decimal with a point and without an exponent holds digits, the point and a sign only. -/
theorem not_mem_of_isPositional {t : Text} (h : IsPositional t) {c : Char}
    (letter : c.isDigit = false) (point : c ≠ '.') (minus : c ≠ '-') : c ∉ t := by
  obtain ⟨negative, whole, fraction, digits, more, rfl⟩ := h
  have absent {u : Text} (all : IsDigits u) : c ∉ u := by
    intro member
    rw [all.2 c member] at letter
    cases letter
  cases negative <;> simp [signed, absent digits, absent more, point, minus]

end Sexpr.Numeral

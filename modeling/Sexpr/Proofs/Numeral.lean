import Sexpr.Numeral
import Sexpr.Proofs.Text.Span

/-!
# The value of numerals

The digits of a number are a numeral of its value, zeros in front of a numeral change nothing, and a
numeral that goes on behind another one moves the value of that one up by as many places. A sign can
be taken off again from a text that does not start with one.
-/

namespace Sexpr.Numeral

/-- A text with or without a minus sign in front. -/
def signed (negative : Bool) (t : Text) : Text := if negative then '-' :: t else t

theorem signed_append (negative : Bool) (t rest : Text) :
    (if negative then ['-'] else []) ++ t ++ rest = signed negative (t ++ rest) := by
  cases negative <;> rfl

theorem signed_splitSign (t : Text) : signed (splitSign t).1 (splitSign t).2 = t := by
  fun_cases splitSign t <;> rfl

theorem splitSign_signed {t : Text} (unsigned : '-' ∉ t.head?) (negative : Bool) :
    splitSign (signed negative t) = (negative, t) := by
  cases negative with
  | true => rfl
  | false =>
      rw [signed, if_neg Bool.false_ne_true, splitSign]
      rintro rest rfl
      exact unsigned rfl

theorem head?_signed_eq_iff {t : Text} (unsigned : '-' ∉ t.head?) (negative : Bool) :
    (signed negative t).head? = some '-' ↔ negative = true := by
  cases negative with
  | true => simp [signed]
  | false => simpa [signed] using unsigned

theorem not_head_of_isDigits {t : Text} (digits : IsDigits t) (rest : Text) :
    '-' ∉ (t ++ rest).head? := by
  obtain ⟨nonempty, all⟩ := digits
  cases t with
  | nil => exact absurd rfl nonempty
  | cons c more =>
      intro head
      have same : c = '-' := Option.some.inj head
      have digit := all c List.mem_cons_self
      rw [same] at digit
      exact absurd digit (by decide)

theorem not_head_of_isDigits_nil {digits : Text} (h : IsDigits digits) : '-' ∉ digits.head? := by
  have unsigned := not_head_of_isDigits h []
  rwa [List.append_nil] at unsigned

theorem bne_of_isDigit {d : Char} (symbol : d.isDigit = false) {digits : Text}
    (all : ∀ c ∈ digits, c.isDigit = true) : ∀ c ∈ digits, (c != d) = true := by
  refine Text.bne_of_not_mem ?_
  intro member
  rw [all d member] at symbol
  cases symbol

theorem isDigits_toDigits (n : Nat) : IsDigits (Nat.toDigits 10 n) := by
  refine ⟨Nat.toDigits_ne_nil, ?_⟩
  intro c member
  exact Nat.isDigit_of_mem_toDigits (by decide) (by decide) member

theorem isDigits_leftpad (n places : Nat) :
    IsDigits ((Nat.toDigits 10 n).leftpad places '0') := by
  obtain ⟨nonempty, all⟩ := isDigits_toDigits n
  refine ⟨?_, ?_⟩
  · intro empty
    exact nonempty (List.append_eq_nil_iff.1 empty).2
  · intro c member
    rcases List.mem_append.1 member with zero | member
    · rw [(List.mem_replicate.1 zero).2]
      rfl
    · exact all c member

/-- The value of a numeral is its plain decimal value. -/
theorem value_eq (digits : Text) : value digits = Nat.ofDigitChars 10 digits 0 :=
  valueInBlocks_eq blockSize digits

theorem value_toDigits (n : Nat) : value (Nat.toDigits 10 n) = n := by
  rw [value_eq, Nat.ofDigitChars_ten_toDigits]

/-- Digits behind a numeral move its value up by as many places. -/
theorem value_append (whole fraction : Text) :
    value (whole ++ fraction) = 10 ^ fraction.length * value whole + value fraction := by
  rw [value_eq, value_eq, value_eq, Nat.ofDigitChars_append, Nat.ofDigitChars_eq_ofDigitChars_zero]

theorem value_leftpad (digits : Text) (places : Nat) :
    value (digits.leftpad places '0') = value digits := by
  rw [value_eq, value_eq, List.leftpad, Nat.ofDigitChars_append, Nat.ofDigitChars_replicate_zero,
    Nat.mul_zero]

theorem length_leftpad_toDigits {n places : Nat} (positive : 0 < places) (h : n < 10 ^ places) :
    ((Nat.toDigits 10 n).leftpad places '0').length = places := by
  have bounded := (Nat.length_toDigits_le_iff (by decide) positive).2 h
  rw [List.length_leftpad, Nat.max_eq_left bounded]

theorem length_toDigits_pos (n : Nat) : 0 < (Nat.toDigits 10 n).length :=
  List.length_pos_iff.2 Nat.toDigits_ne_nil

/-- A number is less than the power of ten with as many zeros as it has digits. -/
theorem lt_ten_pow_length (n : Nat) : n < 10 ^ (Nat.toDigits 10 n).length :=
  (Nat.length_toDigits_le_iff (by decide) (length_toDigits_pos n)).1 (Nat.le_refl _)

/-- A number other than zero is at least the power of ten with as many digits. -/
theorem ten_pow_le {n : Nat} (positive : 0 < n) :
    10 ^ ((Nat.toDigits 10 n).length - 1) ≤ n := by
  by_contra below
  have shorter : 0 < (Nat.toDigits 10 n).length - 1 := by
    refine Nat.pos_of_ne_zero fun none => below ?_
    rw [none]
    exact positive
  have length := (Nat.length_toDigits_le_iff (by decide) shorter).2 (Nat.lt_of_not_le below)
  omega

@[simp] theorem natAbs_signedValue (negative : Bool) (n : Nat) :
    (signedValue negative n).natAbs = n := by
  cases negative <;> simp [signedValue]

theorem signedValue_lt_zero_iff {negative : Bool} {n : Nat} :
    signedValue negative n < 0 ↔ negative = true ∧ n ≠ 0 := by
  cases negative <;> simp [signedValue, Nat.pos_iff_ne_zero]

/-- The sign of an integer may be left open only if the integer is zero. -/
theorem signedValue_natAbs_eq {negative : Bool} {n : Int} (below : n < 0 → negative = true)
    (above : 0 < n → negative = false) : signedValue negative n.natAbs = n := by
  cases negative with
  | true =>
      have low : ¬ 0 < n := fun positive => by cases above positive
      rw [signedValue, if_pos rfl]
      omega
  | false =>
      have high : ¬ n < 0 := fun negative => by cases below negative
      rw [signedValue, if_neg Bool.false_ne_true]
      omega

theorem eq_true_of_signedValue_lt_zero {negative : Bool} {n : Nat}
    (h : signedValue negative n < 0) : negative = true := (signedValue_lt_zero_iff.1 h).1

theorem eq_false_of_signedValue_pos {negative : Bool} {n : Nat}
    (h : 0 < signedValue negative n) : negative = false := by
  cases negative with
  | true =>
      rw [signedValue, if_pos rfl] at h
      omega
  | false => rfl

theorem int?_signed {digits : Text} (h : IsDigits digits) (negative : Bool) :
    int? (signed negative digits) = some (signedValue negative (value digits)) := by
  unfold int?
  rw [splitSign_signed (not_head_of_isDigits_nil h)]
  simp only [h, if_true]

theorem ofInt_eq_signed (n : Int) : ofInt n = signed (n < 0) (Nat.toDigits 10 n.natAbs) := by
  cases n with
  | ofNat n => rfl
  | negSucc n =>
      have negative : Int.negSucc n < 0 := Int.negSucc_lt_zero n
      rw [signed, decide_eq_true negative]
      rfl

/-- The canonical numeral of an integer is read as that integer. -/
theorem int?_ofInt (n : Int) : int? (ofInt n) = some n := by
  have below : n < 0 → decide (n < 0) = true := decide_eq_true
  have above : 0 < n → decide (n < 0) = false := fun positive =>
    decide_eq_false (Int.not_lt.2 (Int.le_of_lt positive))
  rw [ofInt_eq_signed, int?_signed (isDigits_toDigits _), value_toDigits,
    signedValue_natAbs_eq below above]

end Sexpr.Numeral

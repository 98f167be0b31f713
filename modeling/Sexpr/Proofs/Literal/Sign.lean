import Sexpr.Proofs.Literal.Decimal
import Sexpr.Proofs.Literal.Table

/-!
# A minus sign in front of a digit

A text that starts with a digit is a number or no literal at all. With a minus sign in front it is a
number exactly if it is one without, the integer negated and the double with its sign bit flipped.
What is no number becomes a name behind the minus sign, if all its characters can stand in names.
-/

namespace Sexpr

open Numeral

/-- The double that differs in the sign bit only. -/
def Binary64.flipSign (x : Binary64) : Binary64 := { x with negative := !x.negative }

theorem Binary64.flipSign_ofDigits (negative : Bool) (whole fraction : Text) :
    (ofDigits negative whole fraction).flipSign = ofDigits (!negative) whole fraction := rfl

variable {c : Char} {rest : Text}

namespace Numeral

theorem ne_minus_of_isDigit (digit : c.isDigit = true) : c ≠ '-' := by
  rintro rfl
  cases digit

theorem splitSign_of_isDigit (digit : c.isDigit = true) :
    splitSign (c :: rest) = (false, c :: rest) :=
  splitSign_signed (by simpa using ne_minus_of_isDigit digit) false

end Numeral

namespace Literal

namespace Kind

theorem continuesName_eq (d : Char) : continuesName d = (d.isAlphanum || d ∈ symbols) := by
  rw [continuesName, startsName, Char.isAlphanum, Bool.or_right_comm]

/-- A text that starts with a digit is admitted as a number or not at all. -/
theorem isNumber_of_admits (digit : c.isDigit = true) {kind : Kind}
    (h : kind.admits (c :: rest) = true) : kind = .int ∨ kind = .float := by
  have positive : ¬IsNegated (c :: rest) := by
    rintro ⟨digits, -, same⟩
    exact ne_minus_of_isDigit digit (List.cons.inj same).1
  rw [← only_eq_of_admits h positive, only_of_head_digit digit]
  split
  · exact .inr rfl
  · exact .inl rfl

/-- A minus sign in front of a digit makes no number, and takes none away. -/
theorem admits_minus (digit : c.isDigit = true) {kind : Kind}
    (number : kind = .int ∨ kind = .float) :
    kind.admits ('-' :: c :: rest) = kind.admits (c :: rest) := by
  have signed : splitSign ('-' :: c :: rest) = (true, c :: rest) := rfl
  rcases number with rfl | rfl
  · simp only [admits, signed, splitSign_of_isDigit digit]
  · simp only [admits, signed, splitSign_of_isDigit digit]

theorem admits_var_minus (t : Text) :
    var.admits ('-' :: t) = t.all fun d => d.isAlphanum || d ∈ symbols := by
  have start : startsName '-' = true := by decide
  simp only [admits, start, Bool.true_and, ← continuesName_eq]

end Kind

theorem classify_digits_minus {t : Text} (h : IsDigits t) :
    ∃ n : Int, classify t = some (.int n) ∧ classify ('-' :: t) = some (.int (-n)) :=
  ⟨_, classify_signed_digits h false, classify_signed_digits h true⟩

theorem classify_point_minus {whole fraction : Text} (digits : IsDigits whole)
    (more : IsDigits fraction) :
    ∃ x : Binary64, classify (whole ++ '.' :: fraction) = some (.float x) ∧
      classify ('-' :: (whole ++ '.' :: fraction)) = some (.float x.flipSign) := by
  refine ⟨.ofDigits false whole fraction, classify_signed_point digits more false, ?_⟩
  rw [Binary64.flipSign_ofDigits]
  exact classify_signed_point digits more true

/-- What starts with a digit and is no number can only be a name behind a minus sign. -/
theorem classify_refused_minus (digit : c.isDigit = true)
    (refused : ∀ kind : Kind, kind.admits (c :: rest) = false) :
    classify ('-' :: c :: rest) =
      if (c :: rest).all fun d => d.isAlphanum || d ∈ Kind.symbols then
        some (.var ('-' :: c :: rest))
      else none := by
  rw [← Kind.admits_var_minus]
  split
  · next named =>
      have positive : ¬IsNegated ('-' :: c :: rest) := by
        rintro ⟨digits, isDigits, same⟩
        obtain rfl := (List.cons.inj same).2
        have integer : Kind.int.admits (c :: rest) = true :=
          Kind.admits_int_iff.2 ⟨false, c :: rest, isDigits, rfl⟩
        rw [refused] at integer
        cases integer
      rw [classify_eq_read named fun _ => positive]
      rfl
  · next unnamed =>
      refine (classifyBy_eq_none_iff Kind.mem_all).2 fun kind => ?_
      cases kind with
      | int => rw [Kind.admits_minus digit (.inl rfl), refused]
      | float => rw [Kind.admits_minus digit (.inr rfl), refused]
      | bool => simp [Kind.admits]
      | string => rfl
      | var => simpa using unnamed

/-- A text that starts with a digit consists of digits, or of digits around a point, or has no
pattern. -/
theorem digits_or_point_or_refused (digit : c.isDigit = true) (rest : Text) :
    IsDigits (c :: rest) ∨
      (∃ whole fraction, IsDigits whole ∧ IsDigits fraction ∧
        c :: rest = whole ++ '.' :: fraction) ∨
      ∀ kind : Kind, kind.admits (c :: rest) = false := by
  by_cases h : ∃ kind : Kind, kind.admits (c :: rest) = true
  · obtain ⟨kind, admitted⟩ := h
    rcases Kind.isNumber_of_admits digit admitted with rfl | rfl
    · left
      rw [Kind.admits, splitSign_of_isDigit digit] at admitted
      exact of_decide_eq_true admitted
    · right; left
      rw [Kind.admits, splitSign_of_isDigit digit] at admitted
      exact Kind.digitsPointDigits_iff.1 admitted
  · right; right
    simpa using h

/-- A minus sign in front of a text that starts with a digit. The text is an integer, a float or no
literal. With the sign it is an integer or a float exactly if it is one without, and then the value
is the negated integer, or the double with the other sign bit. If it is no literal, the sign makes a
name of it if all its characters are letters, digits and symbols of names, and otherwise it is still
no literal. -/
theorem classify_minus (digit : c.isDigit = true) (rest : Text) :
    ((∃ n, classify (c :: rest) = some (.int n)) ∨ (∃ x, classify (c :: rest) = some (.float x)) ∨
      classify (c :: rest) = none) ∧
    (∀ m, classify ('-' :: c :: rest) = some (.int m) ↔
      ∃ n, classify (c :: rest) = some (.int n) ∧ m = -n) ∧
    (∀ y, classify ('-' :: c :: rest) = some (.float y) ↔
      ∃ x, classify (c :: rest) = some (.float x) ∧ y = x.flipSign) ∧
    (classify (c :: rest) = none →
      classify ('-' :: c :: rest) =
        if (c :: rest).all fun d => d.isAlphanum || d ∈ "!@$%&*_=+|<>/?-".toList then
          some (.var ('-' :: c :: rest))
        else none) := by
  rcases digits_or_point_or_refused digit rest with
    digits | ⟨whole, fraction, digits, more, split⟩ | refused
  · obtain ⟨n, plain, negated⟩ := classify_digits_minus digits
    rw [plain, negated]
    refine ⟨.inl ⟨n, rfl⟩, ?_, ?_, ?_⟩
    · simp [eq_comm]
    · simp
    · simp
  · obtain ⟨x, plain, negated⟩ := classify_point_minus digits more
    rw [split, plain, negated]
    refine ⟨.inr (.inl ⟨x, rfl⟩), ?_, ?_, ?_⟩
    · simp
    · simp [eq_comm]
    · simp
  · have plain : classify (c :: rest) = none := (classifyBy_eq_none_iff Kind.mem_all).2 refused
    have named := classify_refused_minus digit refused
    refine ⟨.inr (.inr plain), ?_, ?_, fun _ => named⟩
    · intro m
      rw [plain, named]
      split <;> simp
    · intro y
      rw [plain, named]
      split <;> simp

/-- A number with an exponent is no literal, and becomes a name behind a minus sign. -/
theorem classify_minus_exponent :
    '1'.isDigit = true ∧ classify "1e10".toList = none ∧
      classify "-1e10".toList = some (.var "-1e10".toList) := by
  have digit : '1'.isDigit = true := rfl
  obtain ⟨-, -, -, named⟩ := classify_minus digit "e10".toList
  have unread : classify "1e10".toList = none := rfl
  exact ⟨digit, unread, named unread⟩

end Literal

end Sexpr

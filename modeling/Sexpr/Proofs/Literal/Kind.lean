import Sexpr.Literal.Kind
import Sexpr.Proofs.Numeral
import Sexpr.Proofs.Text.Span
import Sexpr.Token.Lexer

/-!
# Which texts a kind of literal admits

The pattern of each kind, said without a procedure, and what follows from the patterns together: a
text other than a minus sign with digits behind it has at most one kind, which shows in its first
character and in whether it has a point; and a text that is no string is a single word.
-/

namespace Sexpr

namespace Numeral

/-- A minus sign and digits. -/
def IsNegated (t : Text) : Prop := ∃ digits, IsDigits digits ∧ t = '-' :: digits

end Numeral

namespace Literal.Kind

open Numeral

theorem admits_int_iff {t : Text} :
    int.admits t = true ↔ ∃ negative digits, IsDigits digits ∧ t = signed negative digits := by
  rw [admits, decide_eq_true_iff]
  constructor
  · intro digits
    exact ⟨_, _, digits, (signed_splitSign t).symm⟩
  · intro h
    obtain ⟨negative, digits, isDigits, rfl⟩ := h
    rw [splitSign_signed (not_head_of_isDigits_nil isDigits)]
    exact isDigits

theorem digitsPointDigits_iff {t : Text} :
    digitsPointDigits t = true ↔
      ∃ whole fraction, IsDigits whole ∧ IsDigits fraction ∧ t = whole ++ '.' :: fraction := by
  unfold digitsPointDigits
  constructor
  · intro h
    split at h
    · next fraction point =>
        rw [Bool.and_eq_true, decide_eq_true_iff, decide_eq_true_iff] at h
        refine ⟨_, fraction, h.1, h.2, ?_⟩
        rw [← point, List.takeWhile_append_dropWhile]
    · cases h
  · intro h
    obtain ⟨whole, fraction, digits, more, rfl⟩ := h
    have stop : ∀ c ∈ ('.' :: fraction).head?, c.isDigit = false := by
      intro c head
      obtain rfl := Option.some.inj head
      rfl
    rw [Text.dropWhile_append_of_head digits.2 stop, Text.takeWhile_append_of_head digits.2 stop]
    simp [digits, more]

theorem admits_float_iff {t : Text} :
    float.admits t = true ↔ ∃ negative whole fraction, IsDigits whole ∧ IsDigits fraction ∧
      t = signed negative (whole ++ '.' :: fraction) := by
  rw [admits, digitsPointDigits_iff]
  constructor
  · intro h
    obtain ⟨whole, fraction, digits, more, split⟩ := h
    exact ⟨_, whole, fraction, digits, more, split ▸ (signed_splitSign t).symm⟩
  · intro h
    obtain ⟨negative, whole, fraction, digits, more, rfl⟩ := h
    rw [splitSign_signed (not_head_of_isDigits digits _)]
    exact ⟨whole, fraction, digits, more, rfl⟩

theorem admits_bool_iff {t : Text} :
    bool.admits t = true ↔ t = ['#', 't'] ∨ t = ['#', 'f'] := by
  rw [admits, Bool.or_eq_true, beq_iff_eq, beq_iff_eq]

theorem admits_string_iff {t : Text} :
    string.admits t = true ↔ ∃ body, Text.IsEscaped body ∧ t = '"' :: body ++ ['"'] := by
  constructor
  · intro h
    cases t with
    | nil => cases h
    | cons c rest =>
        by_cases quote : c = '"'
        · subst quote
          obtain ⟨body, escaped, rfl⟩ := Text.endsAtClosingQuote_iff.1 h
          exact ⟨body, escaped, rfl⟩
        · simp [admits, quote] at h
  · intro h
    obtain ⟨body, escaped, rfl⟩ := h
    exact escaped.endsAtClosingQuote

theorem admits_var_iff {t : Text} :
    var.admits t = true ↔
      ∃ c rest, startsName c = true ∧ (∀ d ∈ rest, continuesName d = true) ∧ t = c :: rest := by
  cases t with
  | nil => simp [admits]
  | cons c rest => simp [admits]

/-! ### Characters -/

theorem toNat_of_isDigit {c : Char} (digit : c.isDigit = true) :
    48 ≤ c.toNat ∧ c.toNat ≤ 57 := Char.isDigit_iff_toNat.1 digit

theorem toNat_of_isAlpha {c : Char} (alpha : c.isAlpha = true) :
    65 ≤ c.toNat ∧ c.toNat ≤ 122 := by
  rcases Bool.or_eq_true_iff.1 alpha with upper | lower
  · have range : 'A'.val ≤ c.val ∧ c.val ≤ 'Z'.val := of_decide_eq_true upper
    have above : 65 ≤ c.toNat := UInt32.le_iff_toNat_le.1 range.1
    have below : c.toNat ≤ 90 := UInt32.le_iff_toNat_le.1 range.2
    omega
  · obtain ⟨low, high⟩ := Bool.and_eq_true_iff.1 lower
    have above : 97 ≤ c.toNat := UInt32.le_iff_toNat_le.1 (of_decide_eq_true low)
    have below : c.toNat ≤ 122 := UInt32.le_iff_toNat_le.1 (of_decide_eq_true high)
    omega

theorem not_isAlpha_of_isDigit {c : Char} (digit : c.isDigit = true) : c.isAlpha = false := by
  have figure := toNat_of_isDigit digit
  cases alpha : c.isAlpha with
  | false => rfl
  | true =>
      have letter := toNat_of_isAlpha alpha
      omega

/-- A name does not start with a digit. -/
theorem not_startsName_of_isDigit {c : Char} (digit : c.isDigit = true) :
    startsName c = false := by
  have solid : ∀ d ∈ symbols, (!d.isDigit) = true := List.all_eq_true.1 (by decide)
  have symbol : c ∉ symbols := by
    intro member
    have other := solid c member
    rw [digit] at other
    cases other
  simp [startsName, not_isAlpha_of_isDigit digit, symbol]

theorem not_isBlank_of_toNat {c : Char} (low : 0x20 < c.toNat) (high : c.toNat < 0x85) :
    Text.isBlank c = false := by
  have apart : ∀ range ∈ Text.blankRanges, (range.2 ≤ 0x20 || 0x85 ≤ range.1) = true :=
    List.all_eq_true.1 (by decide)
  rw [← Bool.not_eq_true, Text.isBlank_iff]
  rintro ⟨range, member, above, below⟩
  have outside := apart range member
  simp only [Bool.or_eq_true, decide_eq_true_eq] at outside
  omega

theorem isPlain_of_isAlphanum {c : Char} (h : c.isAlphanum = true) : Token.isPlain c = true := by
  have marks : ∀ d ∈ ['(', ')', '"', ';'], (!d.isAlphanum) = true :=
    List.all_eq_true.1 (by decide)
  have solid : c ∉ ['(', ')', '"', ';'] := by
    intro member
    have other := marks c member
    rw [h] at other
    cases other
  have range : 0x20 < c.toNat ∧ c.toNat < 0x85 := by
    rw [Char.isAlphanum, Bool.or_eq_true] at h
    rcases h with alpha | digit
    · have letter := toNat_of_isAlpha alpha
      omega
    · have figure := toNat_of_isDigit digit
      omega
  have visible := not_isBlank_of_toNat range.1 range.2
  simp [Token.isPlain, visible, solid]

/-- A character that names may go on with stands in words. -/
theorem isPlain_of_continuesName {c : Char} (h : continuesName c = true) :
    Token.isPlain c = true := by
  have symbolsPlain : ∀ d ∈ symbols, Token.isPlain d = true := List.all_eq_true.1 (by decide)
  unfold continuesName startsName at h
  rw [Bool.or_eq_true, Bool.or_eq_true] at h
  rcases h with (alpha | symbol) | digit
  · exact isPlain_of_isAlphanum (by simp [Char.isAlphanum, alpha])
  · exact symbolsPlain c (of_decide_eq_true symbol)
  · exact isPlain_of_isAlphanum (by simp [Char.isAlphanum, digit])

/-! ### One kind for each text -/

/-- The only kind that can admit a text that is not a minus sign with digits behind it. -/
def only (t : Text) : Kind :=
  if t.head? = some '"' then .string
  else if t.head? = some '#' then .bool
  else if '.' ∈ t then .float
  else if t.head?.any startsName then .var
  else .int

theorem only_of_head_digit {c : Char} {rest : Text} (digit : c.isDigit = true) :
    only (c :: rest) = if '.' ∈ c :: rest then .float else .int := by
  have quote : c ≠ '"' := by
    rintro rfl
    cases digit
  have mark : c ≠ '#' := by
    rintro rfl
    cases digit
  simp [only, quote, mark, not_startsName_of_isDigit digit]

theorem not_point_mem_of_isDigits {digits : Text} (h : IsDigits digits) : '.' ∉ digits := by
  intro point
  have digit := h.2 '.' point
  cases digit

theorem only_of_admits_int {t : Text} (h : int.admits t = true) (positive : ¬IsNegated t) :
    only t = .int := by
  obtain ⟨negative, digits, isDigits, rfl⟩ := admits_int_iff.1 h
  cases negative with
  | true => exact absurd ⟨digits, isDigits, rfl⟩ positive
  | false =>
      have point := not_point_mem_of_isDigits isDigits
      cases digits with
      | nil => exact absurd rfl isDigits.1
      | cons c rest =>
          have digit : c.isDigit = true := isDigits.2 c List.mem_cons_self
          rw [signed, if_neg Bool.false_ne_true, only_of_head_digit digit, if_neg point]

theorem only_of_admits_float {t : Text} (h : float.admits t = true) : only t = .float := by
  obtain ⟨negative, whole, fraction, digits, -, rfl⟩ := admits_float_iff.1 h
  cases negative with
  | true => simp [only, signed]
  | false =>
      cases whole with
      | nil => exact absurd rfl digits.1
      | cons c rest =>
          have digit : c.isDigit = true := digits.2 c List.mem_cons_self
          rw [signed, if_neg Bool.false_ne_true, List.cons_append, only_of_head_digit digit]
          simp

theorem only_of_admits_var {t : Text} (h : var.admits t = true) : only t = .var := by
  obtain ⟨c, rest, start, more, rfl⟩ := admits_var_iff.1 h
  have differs (d : Char) (solid : startsName d = false) : c ≠ d := by
    rintro rfl
    rw [start] at solid
    cases solid
  have point : '.' ∉ c :: rest := by
    intro member
    rcases List.mem_cons.1 member with same | member
    · exact differs '.' (by decide) same.symm
    · exact absurd (more '.' member) (by decide)
  have quote : c ≠ '"' := differs '"' (by decide)
  have mark : c ≠ '#' := differs '#' (by decide)
  unfold only
  rw [if_neg point]
  simp [quote, mark, start]

/-- The kinds exclude each other, apart from the spellings of negative integers as names. -/
theorem only_eq_of_admits {kind : Kind} {t : Text} (h : kind.admits t = true)
    (positive : ¬IsNegated t) : only t = kind := by
  cases kind with
  | int => exact only_of_admits_int h positive
  | float => exact only_of_admits_float h
  | bool => rcases admits_bool_iff.1 h with rfl | rfl <;> rfl
  | string =>
      obtain ⟨body, -, rfl⟩ := admits_string_iff.1 h
      rfl
  | var => exact only_of_admits_var h

/-- A minus sign with digits behind it is an integer and a name, and nothing else. -/
theorem admits_of_isNegated {kind : Kind} {t : Text} (negated : IsNegated t) :
    kind.admits t = true ↔ kind = .int ∨ kind = .var := by
  obtain ⟨digits, isDigits, rfl⟩ := negated
  constructor
  · intro h
    cases kind with
    | int => exact .inl rfl
    | var => exact .inr rfl
    | float =>
        obtain ⟨negative, whole, fraction, -, -, same⟩ := admits_float_iff.1 h
        have point : '.' ∈ '-' :: digits := by
          rw [same]
          cases negative <;> simp [signed]
        rcases List.mem_cons.1 point with wrong | member
        · cases wrong
        · exact absurd member (not_point_mem_of_isDigits isDigits)
    | bool => rcases admits_bool_iff.1 h with same | same <;> cases same
    | string =>
        obtain ⟨body, -, same⟩ := admits_string_iff.1 h
        cases same
  · rintro (rfl | rfl)
    · exact admits_int_iff.2 ⟨true, digits, isDigits, rfl⟩
    · refine admits_var_iff.2 ⟨'-', digits, by decide, ?_, rfl⟩
      intro d member
      simp [continuesName, isDigits.2 d member]

/-! ### Words -/

theorem isPlain_of_isDigit {c : Char} (digit : c.isDigit = true) : Token.isPlain c = true :=
  isPlain_of_isAlphanum (by simp [Char.isAlphanum, digit])

theorem isPlain_of_mem_signed {negative : Bool} {t : Text}
    (plain : ∀ c ∈ t, Token.isPlain c = true) :
    ∀ c ∈ signed negative t, Token.isPlain c = true := by
  intro c member
  cases negative with
  | false => exact plain c member
  | true =>
      rcases List.mem_cons.1 member with rfl | member
      · decide
      · exact plain c member

/-- A text that a kind admits is a string or a word. -/
theorem isPlain_of_admits {kind : Kind} {t : Text} (h : kind.admits t = true)
    (word : kind ≠ .string) : t ≠ [] ∧ ∀ c ∈ t, Token.isPlain c = true := by
  cases kind with
  | int =>
      obtain ⟨negative, digits, isDigits, rfl⟩ := admits_int_iff.1 h
      refine ⟨?_, isPlain_of_mem_signed fun c member => isPlain_of_isDigit (isDigits.2 c member)⟩
      cases negative <;> simp [signed, isDigits.1]
  | float =>
      obtain ⟨negative, whole, fraction, digits, more, rfl⟩ := admits_float_iff.1 h
      refine ⟨by cases negative <;> simp [signed], isPlain_of_mem_signed ?_⟩
      intro c member
      rcases List.mem_append.1 member with member | member
      · exact isPlain_of_isDigit (digits.2 c member)
      · rcases List.mem_cons.1 member with rfl | member
        · decide
        · exact isPlain_of_isDigit (more.2 c member)
  | bool =>
      rcases admits_bool_iff.1 h with rfl | rfl
      all_goals exact ⟨List.cons_ne_nil _ _, List.all_eq_true.1 (by decide)⟩
  | string => exact absurd rfl word
  | var =>
      obtain ⟨c, rest, start, more, rfl⟩ := admits_var_iff.1 h
      refine ⟨List.cons_ne_nil c rest, ?_⟩
      intro d member
      rcases List.mem_cons.1 member with rfl | member
      · exact isPlain_of_continuesName (by simp [continuesName, start])
      · exact isPlain_of_continuesName (more d member)

end Literal.Kind

end Sexpr

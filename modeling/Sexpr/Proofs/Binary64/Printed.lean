import Sexpr.Binary64.Printed
import Sexpr.Proofs.Binary64.Shortest
import Sexpr.Proofs.Decimal
import Sexpr.Proofs.Literal.Kind

/-!
# The text of a double tells the double

The text of a double is a decimal of the value of its significant digits, however they are laid out,
and that value is rounded to the double. So two doubles with the same text are the same, unless both
are no number.
-/

namespace Sexpr.Binary64

open Numeral

theorem value_zeros_append (zeros : Nat) (digits : Text) :
    Numeral.value (List.replicate zeros '0' ++ digits) = Numeral.value digits := by
  rw [value_eq, value_eq, Nat.ofDigitChars_append, Nat.ofDigitChars_replicate_zero, Nat.mul_zero]

namespace Significant

variable {s : Significant}

theorem isDigit_of_mem_zeros {zeros : Nat} : ∀ c ∈ List.replicate zeros '0', c.isDigit = true := by
  intro c member
  rw [(List.mem_replicate.1 member).2]
  rfl

theorem isDigit_of_mem_append {t u : Text} (first : ∀ c ∈ t, c.isDigit = true)
    (second : ∀ c ∈ u, c.isDigit = true) : ∀ c ∈ t ++ u, c.isDigit = true := by
  intro c member
  exact (List.mem_append.1 member).elim (first c) (second c)

/-- Whether digits before and behind a point have the value of the significant digits. -/
structure LaysOut (s : Significant) (whole fraction : Text) : Prop where
  before : IsDigits whole
  behind : IsDigits fraction
  same : Numeral.value (whole ++ fraction) *
    10 ^ (unitPlaces - fraction.length : Int).toNat = s.value

/-- All digits may stand behind the point, with zeros between the two. -/
theorem laysOut_small (fits : s.Fits) (small : s.exponent < 0) :
    s.LaysOut ['0'] (List.replicate (-s.exponent - 1).toNat '0' ++ s.digits) := by
  obtain ⟨⟨nonempty, digits⟩, places⟩ := fits
  refine ⟨by decide, ⟨by simp [nonempty], isDigit_of_mem_append isDigit_of_mem_zeros digits⟩, ?_⟩
  have front : ['0'] ++ (List.replicate (-s.exponent - 1).toNat '0' ++ s.digits) =
      List.replicate ((-s.exponent - 1).toNat + 1) '0' ++ s.digits := by
    rw [List.replicate_succ]
    rfl
  rw [front, value_zeros_append, value, List.length_append, List.length_replicate]
  congr 2
  omega

/-- No digit may stand behind the point, with zeros before it. -/
theorem laysOut_padded (fits : s.Fits) (large : ¬ s.exponent < 0)
    (few : s.digits.length ≤ s.exponent.toNat + 1) :
    s.LaysOut (s.digits.rightpad (s.exponent.toNat + 1) '0') ['0'] := by
  obtain ⟨⟨nonempty, digits⟩, places⟩ := fits
  refine ⟨⟨by simp [List.rightpad, nonempty], isDigit_of_mem_append digits isDigit_of_mem_zeros⟩,
    by decide, ?_⟩
  have padded : s.digits.rightpad (s.exponent.toNat + 1) '0' ++ ['0'] =
      s.digits ++ List.replicate (s.exponent.toNat + 1 - s.digits.length + 1) '0' := by
    rw [List.rightpad, List.append_assoc, List.replicate_succ']
  have exponent : s.exponent.toNat + 1 - s.digits.length + 1 +
      (unitPlaces - (1 : Nat) : Int).toNat =
        (s.exponent + 1 + unitPlaces - s.digits.length).toNat := by
    simp only [unitPlaces] at places ⊢
    omega
  rw [padded, value_append_zeros, value, Nat.mul_assoc, ← Nat.pow_add, List.length_singleton,
    exponent]

/-- The point may stand between two of the digits. -/
theorem laysOut_cut (fits : s.Fits) (large : ¬ s.exponent < 0)
    (many : ¬ s.digits.length ≤ s.exponent.toNat + 1) :
    s.LaysOut (s.digits.take (s.exponent.toNat + 1)) (s.digits.drop (s.exponent.toNat + 1)) := by
  obtain ⟨⟨nonempty, digits⟩, places⟩ := fits
  have some : 0 < s.digits.length := List.length_pos_iff.2 nonempty
  refine ⟨⟨?_, fun c member => digits c (List.mem_of_mem_take member)⟩,
    ⟨?_, fun c member => digits c (List.mem_of_mem_drop member)⟩, ?_⟩
  · refine List.length_pos_iff.1 ?_
    rw [List.length_take]
    omega
  · refine List.length_pos_iff.1 ?_
    rw [List.length_drop]
    omega
  · rw [List.take_append_drop, value, List.length_drop]
    congr 2
    omega

/-- The digits around the point of a positional text. -/
theorem exists_positional (fits : s.Fits) :
    ∃ whole fraction : Text, s.positional = whole ++ '.' :: fraction ∧
      s.LaysOut whole fraction ∧ fraction.length ≤ unitPlaces := by
  have places := fits.places
  unfold positional
  split
  · next small =>
      refine ⟨_, _, rfl, laysOut_small fits small, ?_⟩
      rw [List.length_append, List.length_replicate]
      omega
  · next large =>
      dsimp only
      split
      · next few => exact ⟨_, _, rfl, laysOut_padded fits large few, by decide⟩
      · next many =>
          refine ⟨_, _, rfl, laysOut_cut fits large many, ?_⟩
          rw [List.length_drop]
          omega

/-- The first digit stands before the point of a mantissa and the others behind it. -/
theorem exists_mantissa (digits : IsDigits s.digits) :
    ∃ (first : Char) (point : Text), s.digits = first :: point.drop 1 ∧
      s.mantissa = first :: point ∧
      (point = [] ∨ ∃ fraction, IsDigits fraction ∧ point = '.' :: fraction) := by
  unfold mantissa
  split
  · next first second rest same =>
      refine ⟨first, '.' :: second :: rest, same, rfl, .inr ⟨second :: rest, ⟨by simp, ?_⟩, rfl⟩⟩
      intro c member
      exact digits.2 c (by rw [same]; exact List.mem_cons_of_mem first member)
  · next single =>
      match same : s.digits with
      | [] => exact absurd same digits.1
      | [first] => exact ⟨first, [], rfl, rfl, .inl rfl⟩
      | first :: second :: rest => exact absurd same (single first second rest)

theorem isDigit_of_digits_eq_cons {first : Char} {rest : Text} (digits : IsDigits s.digits)
    (h : s.digits = first :: rest) : first.isDigit = true :=
  digits.2 first (by rw [h]; exact List.mem_cons_self)

/-- The text of significant digits starts with a digit. -/
theorem exists_head_text (fits : s.Fits) :
    ∃ c rest, s.text = c :: rest ∧ c.isDigit = true := by
  unfold text
  split
  · obtain ⟨whole, fraction, laid, ⟨⟨nonempty, digits⟩, -, -⟩, -⟩ := exists_positional fits
    obtain ⟨c, rest, rfl⟩ := List.exists_cons_of_ne_nil nonempty
    exact ⟨c, rest ++ '.' :: fraction, laid, digits c List.mem_cons_self⟩
  · obtain ⟨first, point, same, laid, -⟩ := exists_mantissa fits.digits
    refine ⟨first, point ++ 'e' :: s.exponentText, ?_, isDigit_of_digits_eq_cons fits.digits same⟩
    rw [scientific, laid, List.cons_append]

/-! ### The number of the digits -/

/-- The value of significant digits, as a decimal. -/
theorem ofDecimal_value (fits : s.Fits) (negative : Bool) :
    ofDecimal negative s.value (-unitPlaces) =
      ofDecimal negative (Nat.ofDigitChars 10 s.digits 0)
        (s.exponent + 1 - s.digits.length) := by
  have places := fits.places
  rw [value, value_eq, ofDecimal_mul_ten_pow]
  congr 1
  omega

theorem exponent?_exponentText (s : Significant) :
    exponent? ('e' :: s.exponentText) = some s.exponent := by
  have digits := isDigits_leftpad s.exponent.natAbs 2
  have number : Nat.ofDigitChars 10 ((Nat.toDigits 10 s.exponent.natAbs).leftpad 2 '0') 0 =
      s.exponent.natAbs := by
    rw [← value_eq, value_leftpad, value_toDigits]
  unfold exponentText
  by_cases negative : s.exponent < 0
  · rw [if_pos negative, exponent?, if_pos digits, number]
    congr 1
    omega
  · rw [if_neg negative, exponent?, if_pos digits, number]
    congr 1
    omega

theorem decimal?_positional (fits : s.Fits) (negative : Bool) :
    decimal? (signed negative s.positional) = some (ofDecimal negative s.value (-unitPlaces)) := by
  obtain ⟨whole, fraction, laid, ⟨digits, more, same⟩, within⟩ := exists_positional fits
  rw [laid, decimal?_signed_point digits more, ← same, ofDecimal_mul_ten_pow, value_eq]
  congr 2
  omega

theorem decimal?_scientific (fits : s.Fits) (negative : Bool) :
    decimal? (signed negative s.scientific) = some (ofDecimal negative s.value (-unitPlaces)) := by
  obtain ⟨first, point, same, laid, pointed⟩ := exists_mantissa fits.digits
  have one : IsDigits [first] :=
    ⟨by simp, by simpa using isDigit_of_digits_eq_cons fits.digits same⟩
  have parts := decimal?_signed one pointed (exponent?_exponentText s) negative
  rw [List.singleton_append, List.singleton_append, ← same, ← laid] at parts
  rw [scientific, parts, ofDecimal_value fits, same, List.length_cons]
  congr 2
  omega

/-- The digits laid out are a decimal of the value of the digits. -/
theorem decimal?_text (fits : s.Fits) (negative : Bool) :
    decimal? (signed negative s.text) = some (ofDecimal negative s.value (-unitPlaces)) := by
  unfold text
  split
  · exact decimal?_positional fits negative
  · exact decimal?_scientific fits negative

end Significant

/-! ### The text of a double -/

/-- The text of a double without its sign. -/
def unsignedText (x : Binary64) : Text :=
  if x.isFinite then (significant x.magnitude).text else "inf".toList

theorem printed_of_isNaN {x : Binary64} (h : x.isNaN = true) : x.printed = "nan".toList := by
  rw [printed, if_pos h]

theorem printed_of_not_isNaN {x : Binary64} (h : x.isNaN = false) :
    x.printed = signed x.negative x.unsignedText := by
  rw [printed, if_neg (by simp [h]), unsignedText, ← List.append_nil (_ ++ _), signed_append,
    List.append_nil]

/-- Without its sign, the text of a finite number starts with a digit; the infinities have a name. -/
theorem unsignedText_cases {x : Binary64} (h : x.isNaN = false) :
    (x.magnitude < infinity ∧ ∃ c rest, x.unsignedText = c :: rest ∧ c.isDigit = true) ∨
      (x.magnitude = infinity ∧ x.unsignedText = "inf".toList) := by
  have bounded := isNaN_eq_false_iff.1 h
  unfold unsignedText
  cases finite : x.isFinite with
  | true =>
      exact .inl ⟨of_decide_eq_true finite, Significant.exists_head_text (fits_significant bounded)⟩
  | false =>
      have large : infinity ≤ x.magnitude := by simpa [isFinite] using finite
      exact .inr ⟨Nat.le_antisymm bounded large, rfl⟩

theorem unsignedText_of_lt {x : Binary64} (finite : x.magnitude < infinity) :
    x.unsignedText = (significant x.magnitude).text := by
  rw [unsignedText, if_pos (isFinite_iff.2 finite)]

/-- Two finite numbers with the same text but for the sign have the same magnitude. -/
theorem magnitude_eq_of_text_eq {m n : Nat} (hm : m ≤ infinity) (hn : n ≤ infinity)
    (h : (significant m).text = (significant n).text) : m = n := by
  have decimalM := Significant.decimal?_text (fits_significant hm) false
  have decimalN := Significant.decimal?_text (fits_significant hn) false
  rw [h, decimalN, Option.some.injEq] at decimalM
  have reads := readsBack_significant hn
  rw [ofDecimal_injective decimalM] at reads
  exact (readsBack_significant hm).eq reads

/-- Two numbers with the same text but for the sign have the same magnitude. -/
theorem magnitude_eq_of_unsignedText_eq {x y : Binary64} (hx : x.isNaN = false)
    (hy : y.isNaN = false) (h : x.unsignedText = y.unsignedText) :
    x.magnitude = y.magnitude := by
  rcases unsignedText_cases hx with ⟨finiteX, c, rest, same, digit⟩ | ⟨largeX, inf⟩
  · rcases unsignedText_cases hy with ⟨finiteY, -⟩ | ⟨-, inf⟩
    · rw [unsignedText_of_lt finiteX, unsignedText_of_lt finiteY] at h
      exact magnitude_eq_of_text_eq (Nat.le_of_lt finiteX) (Nat.le_of_lt finiteY) h
    · rw [← h, same] at inf
      rw [(List.cons.inj inf).1] at digit
      cases digit
  · rcases unsignedText_cases hy with ⟨-, c, rest, same, digit⟩ | ⟨largeY, -⟩
    · rw [h, same] at inf
      rw [(List.cons.inj inf).1] at digit
      cases digit
    · rw [largeX, largeY]

/-- Without its sign, the text of a number starts with neither a minus sign nor an `n`. -/
theorem unsignedText_head {x : Binary64} (h : x.isNaN = false) :
    ∃ c rest, x.unsignedText = c :: rest ∧ c ≠ '-' ∧ c ≠ 'n' := by
  rcases unsignedText_cases h with ⟨-, c, rest, same, digit⟩ | ⟨-, inf⟩
  · refine ⟨c, rest, same, ?_, ?_⟩
    · rintro rfl
      cases digit
    · rintro rfl
      cases digit
  · exact ⟨'i', ['n', 'f'], inf, by decide, by decide⟩

theorem printed_ne_nan {x : Binary64} (h : x.isNaN = false) : x.printed ≠ "nan".toList := by
  obtain ⟨c, rest, same, -, other⟩ := unsignedText_head h
  rw [printed_of_not_isNaN h, same]
  intro nan
  cases negative : x.negative with
  | true =>
      rw [negative] at nan
      cases (List.cons.inj nan).1
  | false =>
      rw [negative] at nan
      exact other (List.cons.inj nan).1

theorem eq_of_printed_eq {x y : Binary64} (hx : x.isNaN = false) (hy : y.isNaN = false)
    (h : x.printed = y.printed) : x = y := by
  have unsigned {z : Binary64} (hz : z.isNaN = false) : '-' ∉ z.unsignedText.head? := by
    obtain ⟨c, rest, same, other, -⟩ := unsignedText_head hz
    rw [same]
    exact fun minus => other (Option.some.inj minus)
  have split := congrArg splitSign h
  rw [printed_of_not_isNaN hx, printed_of_not_isNaN hy, splitSign_signed (unsigned hx),
    splitSign_signed (unsigned hy)] at split
  obtain ⟨sign, body⟩ := Prod.mk.inj split
  have magnitude := magnitude_eq_of_unsignedText_eq hx hy body
  obtain ⟨negative, magnitude, bits⟩ := x
  simp_all

/-- Two doubles have the same text exactly if they have the same bits or are both no number. -/
theorem printed_eq_iff {x y : Binary64} :
    x.printed = y.printed ↔ x = y ∨ (x.isNaN = true ∧ y.isNaN = true) := by
  constructor
  · intro h
    cases hx : x.isNaN with
    | true =>
        cases hy : y.isNaN with
        | true => exact .inr ⟨rfl, rfl⟩
        | false => exact absurd (h ▸ printed_of_isNaN hx) (printed_ne_nan hy)
    | false =>
        cases hy : y.isNaN with
        | true => exact absurd (h.trans (printed_of_isNaN hy)) (printed_ne_nan hx)
        | false => exact .inl (eq_of_printed_eq hx hy h)
  · rintro (rfl | ⟨hx, hy⟩)
    · rfl
    · rw [printed_of_isNaN hx, printed_of_isNaN hy]

/-! ### The characters of the text -/

/-- The characters besides digits that stand in the texts of doubles. -/
def printedSymbols : Text := "-+.einfa".toList

theorem mem_printedSymbols {t : Text} (all : t.all (· ∈ printedSymbols) = true) :
    ∀ c ∈ t, c ∈ printedSymbols :=
  fun c member => of_decide_eq_true (List.all_eq_true.1 all c member)

theorem mem_positional {s : Significant} (fits : s.Fits) :
    ∀ c ∈ s.positional, c.isDigit = true ∨ c ∈ printedSymbols := by
  obtain ⟨whole, fraction, laid, ⟨digits, more, -⟩, -⟩ := Significant.exists_positional fits
  intro c member
  rw [laid] at member
  rcases List.mem_append.1 member with member | member
  · exact .inl (digits.2 c member)
  · rcases List.mem_cons.1 member with rfl | member
    · exact .inr (by decide)
    · exact .inl (more.2 c member)

theorem mem_scientific {s : Significant} (fits : s.Fits) :
    ∀ c ∈ s.scientific, c.isDigit = true ∨ c ∈ printedSymbols := by
  have exponent := (isDigits_leftpad s.exponent.natAbs 2).2
  have mantissa : ∀ c ∈ s.mantissa, c ∈ s.digits ∨ c = '.' := by
    obtain ⟨first, point, same, laid, rfl | ⟨fraction, -, rfl⟩⟩ :=
      Significant.exists_mantissa fits.digits
    · rw [laid, same]
      exact fun c member => .inl member
    · rw [laid, same]
      simp only [List.drop_one, List.tail_cons, List.mem_cons]
      tauto
  intro c member
  rcases List.mem_append.1 member with member | member
  · rcases mantissa c member with digit | rfl
    · exact .inl (fits.digits.2 c digit)
    · exact .inr (by decide)
  · rcases List.mem_cons.1 member with rfl | member
    · exact .inr (by decide)
    · rcases List.mem_cons.1 member with sign | digit
      · right
        split at sign <;> rw [sign] <;> decide
      · exact .inl (exponent c digit)

theorem mem_unsignedText {x : Binary64} (h : x.isNaN = false) :
    ∀ c ∈ x.unsignedText, c.isDigit = true ∨ c ∈ printedSymbols := by
  have fits := fits_significant (isNaN_eq_false_iff.1 h)
  have inf : ∀ c ∈ "inf".toList, c ∈ printedSymbols := mem_printedSymbols (by decide)
  unfold unsignedText Significant.text
  split
  · split
    · exact mem_positional fits
    · exact mem_scientific fits
  · exact fun c member => .inr (inf c member)

/-- The text of a double is made of digits and a few symbols. -/
theorem mem_printed {x : Binary64} : ∀ c ∈ x.printed, c.isDigit = true ∨ c ∈ printedSymbols := by
  have nan : ∀ c ∈ "nan".toList, c ∈ printedSymbols := mem_printedSymbols (by decide)
  intro c member
  cases h : x.isNaN with
  | true =>
      rw [printed_of_isNaN h] at member
      exact .inr (nan c member)
  | false =>
      rw [printed_of_not_isNaN h] at member
      cases negative : x.negative with
      | true =>
          rw [negative] at member
          rcases List.mem_cons.1 member with rfl | member
          · exact .inr (by decide)
          · exact mem_unsignedText h c member
      | false =>
          rw [negative] at member
          exact mem_unsignedText h c member

end Sexpr.Binary64

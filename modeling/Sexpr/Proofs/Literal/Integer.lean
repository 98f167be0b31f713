import Mathlib.Data.List.Induction
import Sexpr.Proofs.Literal.Classify

/-!
# The spellings of integers

However a numeral is cut into blocks, the values of the blocks make up the plain decimal value, and
no block that is short enough is refused. A numeral without zeros in front is the only one of its
value, so the tokens of an integer are its canonical numeral with any number of zeros put in front,
and zero may have a sign.
-/

namespace Sexpr

namespace Numeral

/-! ### Blocks -/

theorem flatten_blocks {size : Nat} (positive : 0 < size) (t : Text) :
    (blocks size t).flatten = t := by
  fun_induction blocks size t with
  | case1 t none =>
      rcases none with zero | rfl
      · omega
      · rfl
  | case2 t more ih => rw [List.flatten_cons, ih, List.take_append_drop]

theorem length_le_of_mem_blocks {size : Nat} {t : Text} :
    ∀ block ∈ blocks size t, block.length ≤ size := by
  fun_induction blocks size t with
  | case1 => simp
  | case2 t more ih =>
      intro block member
      rcases List.mem_cons.1 member with rfl | later
      · exact List.length_take_le size t
      · exact ih block later

/-- Blocks that a reader gives their values make up the value of their digits, behind any value
before them. -/
theorem foldlM_blocks {read? : Text → Option Nat} {texts : List Text}
    (reads : ∀ t ∈ texts, read? t = some (Nat.ofDigitChars 10 t 0)) (whole : Nat) :
    texts.foldlM (fun whole block => (read? block).map (whole * 10 ^ block.length + ·)) whole =
      some (Nat.ofDigitChars 10 texts.flatten whole) := by
  induction texts generalizing whole with
  | nil => rfl
  | cons block rest ih =>
      have later := ih fun t member => reads t (List.mem_cons_of_mem block member)
      have moved : Nat.ofDigitChars 10 block whole =
          10 ^ block.length * whole + Nat.ofDigitChars 10 block 0 :=
        Nat.ofDigitChars_eq_ofDigitChars_zero
      rw [List.foldlM_cons, reads block List.mem_cons_self, List.flatten_cons,
        Nat.ofDigitChars_append, moved, Nat.mul_comm _ whole]
      exact later _

/-- Blocks of any size up to the limit give the plain decimal value. -/
theorem valueOfBlocks?_eq {limit size : Nat} (positive : 0 < size) (short : size ≤ limit)
    (digits : Text) :
    valueOfBlocks? limit size digits = some (Nat.ofDigitChars 10 digits 0) := by
  have reads : ∀ block ∈ blocks size digits,
      limitedValue? limit block = some (Nat.ofDigitChars 10 block 0) :=
    fun block member => if_pos (Nat.le_trans (length_le_of_mem_blocks block member) short)
  rw [valueOfBlocks?, foldlM_blocks reads, flatten_blocks positive]

/-! ### Canonical numerals -/

theorem digitChar_of_isDigit {c : Char} (digit : c.isDigit = true) :
    (c.toNat - '0'.toNat).digitChar = c := by
  have range : 48 ≤ c.toNat ∧ c.toNat ≤ 57 := Char.isDigit_iff_toNat.1 digit
  have zero : '0'.toNat = 48 := rfl
  refine Char.toNat_inj.1 ?_
  rw [zero, Nat.toNat_digitChar_of_lt_ten (by omega)]
  omega

/-- A numeral is the canonical one of its value with zeros in front. -/
theorem exists_zeros_append_toDigits {digits : Text} (h : IsDigits digits) :
    ∃ zeros, digits =
      List.replicate zeros '0' ++ Nat.toDigits 10 (Nat.ofDigitChars 10 digits 0) := by
  -- The last digit is split off, because the canonical numeral of the value ends with it.
  induction digits using List.reverseRecOn with
  | nil => exact absurd rfl h.1
  | append_singleton front c ih =>
      have digit : c.isDigit = true := h.2 c (by simp)
      have range : 48 ≤ c.toNat ∧ c.toNat ≤ 57 := Char.isDigit_iff_toNat.1 digit
      have small : c.toNat - '0'.toNat < 10 := by
        have zero : '0'.toNat = 48 := rfl
        omega
      have last : Nat.toDigits 10 (c.toNat - '0'.toNat) = [c] := by
        rw [Nat.toDigits_of_lt_base small, digitChar_of_isDigit digit]
      rw [Nat.ofDigitChars_append, Nat.ofDigitChars_cons, Nat.ofDigitChars_nil]
      by_cases empty : front = []
      · refine ⟨0, ?_⟩
        rw [empty, Nat.ofDigitChars_nil, Nat.mul_zero, Nat.zero_add, last]
        rfl
      · obtain ⟨zeros, canonical⟩ :=
          ih ⟨empty, fun d member => h.2 d (List.mem_append_left _ member)⟩
        rcases Nat.eq_zero_or_pos (Nat.ofDigitChars 10 front 0) with none | some
        · refine ⟨zeros + 1, ?_⟩
          rw [none, Nat.toDigits_zero] at canonical
          rw [none, Nat.mul_zero, Nat.zero_add, last, canonical, List.replicate_succ']
        · refine ⟨zeros, ?_⟩
          rw [← Nat.toDigits_append_toDigits (by decide) some small, last, ← List.append_assoc,
            ← canonical]

theorem isDigits_zeros_append_toDigits (zeros n : Nat) :
    IsDigits (List.replicate zeros '0' ++ Nat.toDigits 10 n) := by
  obtain ⟨nonempty, digits⟩ := isDigits_toDigits n
  refine ⟨by simp [nonempty], ?_⟩
  intro c member
  rcases List.mem_append.1 member with zero | member
  · rw [(List.mem_replicate.1 zero).2]
    rfl
  · exact digits c member

theorem ofDigitChars_zeros_append_toDigits (zeros n : Nat) :
    Nat.ofDigitChars 10 (List.replicate zeros '0' ++ Nat.toDigits 10 n) 0 = n := by
  rw [Nat.ofDigitChars_append, Nat.ofDigitChars_replicate_zero, Nat.mul_zero,
    Nat.ofDigitChars_ten_toDigits]

end Numeral

namespace Literal

open Numeral

theorem classify_signed_digits {digits : Text} (h : IsDigits digits) (negative : Bool) :
    classify (signed negative digits) =
      some (.int (signedValue negative (Nat.ofDigitChars 10 digits 0))) := by
  have admitted : Kind.int.admits (signed negative digits) = true :=
    Kind.admits_int_iff.2 ⟨negative, digits, h, rfl⟩
  rw [classify_eq_read admitted (by simp), Kind.read, int?_signed h, value_eq]
  rfl

/-- A token of an integer is a numeral, and the integer is its value with its sign. -/
theorem exists_signed_of_classify_int {t : Text} {n : Int} (h : classify t = some (.int n)) :
    ∃ negative digits, IsDigits digits ∧ t = signed negative digits ∧
      n = signedValue negative (Nat.ofDigitChars 10 digits 0) := by
  obtain ⟨kind, admitted, -, read⟩ := exists_kind_of_classify h
  obtain rfl : Kind.int = kind := Kind.kind_of_read read
  obtain ⟨negative, digits, isDigits, rfl⟩ := Kind.admits_int_iff.1 admitted
  rw [classify_signed_digits isDigits] at h
  exact ⟨negative, digits, isDigits, rfl, (Literal.int.inj (Option.some.inj h)).symm⟩

/-- A signed numeral of any length stands for its decimal value with its sign, whatever the size of
the blocks in which the value is read, as long as a block may be read at all. The tokens of an
integer are its canonical numeral with any number of zeros between it and its sign, and only zero
may have a sign or not. -/
theorem classify_int_spellings :
    (∀ (negative : Bool) (digits : Text), IsDigits digits →
      ∃ n : Int, classify (signed negative digits) = some (.int n) ∧
        n.natAbs = Nat.ofDigitChars 10 digits 0 ∧
        (n < 0 ↔ (signed negative digits).head? = some '-' ∧ Nat.ofDigitChars 10 digits 0 ≠ 0) ∧
        ∀ size, 1 ≤ size → size ≤ digitLimit →
          valueOfBlocks? digitLimit size digits = some n.natAbs ∧
            valueInBlocks size digits = n.natAbs) ∧
    ∀ (n : Int) (t : Text), classify t = some (.int n) ↔
      ∃ negative zeros,
        t = signed negative (List.replicate zeros '0' ++ Nat.toDigits 10 n.natAbs) ∧
          (n < 0 → negative = true) ∧ (0 < n → negative = false) := by
  constructor
  · intro negative digits h
    have unsigned := not_head_of_isDigits h []
    rw [List.append_nil] at unsigned
    refine ⟨_, classify_signed_digits h negative, natAbs_signedValue _ _, ?_, ?_⟩
    · rw [head?_signed_eq_iff unsigned, signedValue_lt_zero_iff]
    · intro size positive short
      rw [natAbs_signedValue]
      exact ⟨valueOfBlocks?_eq positive short digits, valueInBlocks_eq size digits⟩
  · intro n t
    constructor
    · intro h
      obtain ⟨negative, digits, isDigits, rfl, rfl⟩ := exists_signed_of_classify_int h
      obtain ⟨zeros, canonical⟩ := exists_zeros_append_toDigits isDigits
      rw [natAbs_signedValue]
      exact ⟨negative, zeros, congrArg (signed negative) canonical,
        eq_true_of_signedValue_lt_zero, eq_false_of_signedValue_pos⟩
    · rintro ⟨negative, zeros, rfl, below, above⟩
      rw [classify_signed_digits (isDigits_zeros_append_toDigits zeros _),
        ofDigitChars_zeros_append_toDigits, signedValue_natAbs_eq below above]

example : classify "-0007".toList = some (.int (-7)) := by rfl

end Literal

end Sexpr

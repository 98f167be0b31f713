import Sexpr.Proofs.Literal.Integer
import Sexpr.Reader.Atom

/-!
# The table of kinds

No text has the pattern of two kinds, unless it is a minus sign with digits behind it, which is
spelled like an integer and like a name. The conversion that belongs to a kind can refuse a text,
but none that has the pattern of the kind. So an atom is invalid exactly if it has no pattern at
all, and of the order in which the kinds are tried only the place of the integers before the names
matters.
-/

namespace Sexpr

namespace Numeral

theorem isDigits_of_mem_blocks {size : Nat} {t : Text} (digits : ∀ c ∈ t, c.isDigit = true) :
    ∀ block ∈ blocks size t, IsDigits block := by
  fun_induction blocks size t with
  | case1 => simp
  | case2 t more ih =>
      intro block member
      rcases List.mem_cons.1 member with rfl | later
      · refine ⟨?_, fun c inside => digits c (List.mem_of_mem_take inside)⟩
        intro empty
        apply more
        exact List.take_eq_nil_iff.1 empty
      · exact ih (fun c inside => digits c (List.mem_of_mem_drop inside)) block later

/-- No block of a text of digits is refused, if blocks are no longer than the limit. -/
theorem convertBlock?_of_mem_blocks {limit size : Nat} (short : size ≤ limit) {digits : Text}
    (h : IsDigits digits) : ∀ block ∈ blocks size digits,
      convertBlock? limit block = some (Nat.ofDigitChars 10 block 0) := by
  intro block member
  have length : block.length ≤ limit :=
    Nat.le_trans (length_le_of_mem_blocks block member) short
  rw [convertBlock?, if_pos (isDigits_of_mem_blocks h.2 block member), limitedValue?,
    if_pos length]

theorem dropWhile_minus_signed {t : Text} (unsigned : '-' ∉ t.head?) (negative : Bool) :
    (signed negative t).dropWhile (· == '-') = t := by
  have stop : ∀ c ∈ t.head?, (c == '-') = false := by
    intro c head
    rw [beq_eq_false_iff_ne]
    rintro rfl
    exact unsigned head
  have sign : ∀ c ∈ (if negative then ['-'] else []), (c == '-') = true := by
    cases negative <;> simp
  have split : signed negative t = (if negative then ['-'] else []) ++ t := by
    cases negative <;> rfl
  rw [split]
  exact Text.dropWhile_append_of_head sign stop

/-- A signed numeral of any length is converted to its decimal value with its sign. -/
theorem convert?_signed {limit size : Nat} (positive : 0 < size) (short : size ≤ limit)
    {digits : Text} (h : IsDigits digits) (negative : Bool) :
    convert? limit size (signed negative digits) =
      some (signedValue negative (Nat.ofDigitChars 10 digits 0)) := by
  have unsigned := not_head_of_isDigits_nil h
  have sign : ((signed negative digits).head? == some '-') = negative := by
    rw [Bool.eq_iff_iff, beq_iff_eq]
    exact head?_signed_eq_iff unsigned negative
  rw [convert?, dropWhile_minus_signed unsigned, sign,
    foldlM_blocks (convertBlock?_of_mem_blocks short h), flatten_blocks positive, Option.map_some]

end Numeral

namespace Literal

open Numeral

/-- The conversion of a kind refuses no text that has the pattern of the kind. -/
theorem Kind.exists_convert?_of_admits {kind : Kind} {t : Text} (h : kind.admits t = true) :
    ∃ literal, kind.convert? t = some literal ∧ kind.read t = some literal := by
  cases kind with
  | int =>
      obtain ⟨negative, digits, isDigits, rfl⟩ := admits_int_iff.1 h
      refine ⟨.int (signedValue negative (Nat.ofDigitChars 10 digits 0)), ?_, ?_⟩
      · rw [convert?, convert?_signed (by decide) (by decide) isDigits, Option.map_some]
      · rw [read, int?_signed isDigits, value_eq]
        rfl
  | float =>
      obtain ⟨negative, whole, fraction, digits, more, rfl⟩ := admits_float_iff.1 h
      have converted : float.read (signed negative (whole ++ '.' :: fraction)) =
          some (.float (.ofDigits negative whole fraction)) := by
        rw [read, Binary64.ofText?_signed digits more, Option.map_some]
      exact ⟨_, converted, converted⟩
  | bool =>
      rcases admits_bool_iff.1 h with rfl | rfl
      · exact ⟨.bool true, rfl, rfl⟩
      · exact ⟨.bool false, rfl, rfl⟩
  | string => exact ⟨.string t, rfl, rfl⟩
  | var => exact ⟨.var t, rfl, rfl⟩

/-- A text that a kind admits is admitted by a kind that reads it. -/
theorem Kind.exists_admits_of_admits {kind : Kind} {t : Text} (h : kind.admits t = true) :
    ∃ reader : Kind, reader.admits t = true ∧ (reader = .var → ¬IsNegated t) := by
  by_cases negated : IsNegated t
  · exact ⟨.int, (admits_of_isNegated negated).2 (.inl rfl), by simp⟩
  · exact ⟨kind, h, fun _ => negated⟩

/-- In whatever order the kinds are tried, a text has no literal exactly if no kind admits it. -/
theorem classifyBy_eq_none_iff {order : List Kind} (all : ∀ kind, kind ∈ order) {t : Text} :
    classifyBy order t = none ↔ ∀ kind : Kind, kind.admits t = false := by
  constructor
  · intro unread kind
    cases h : kind.admits t with
    | false => rfl
    | true =>
        obtain ⟨first, found, admitted⟩ := exists_find?_admits all h
        obtain ⟨literal, -, read⟩ := Kind.exists_convert?_of_admits admitted
        rw [classifyBy, found, Option.bind_some, read] at unread
        cases unread
  · intro refused
    have missing : order.find? (·.admits t) = none := List.find?_eq_none.2 (by simp [refused])
    rw [classifyBy, missing, Option.bind_none]

/-- Only the place of the integers before the names matters. -/
theorem classifyBy_eq_classify {order : List Kind} (all : ∀ kind, kind ∈ order)
    (intFirst : order.idxOf .int < order.idxOf .var) (t : Text) :
    classifyBy order t = classify t := by
  by_cases h : ∃ kind : Kind, kind.admits t = true
  · obtain ⟨kind, h⟩ := h
    obtain ⟨reader, admitted, positive⟩ := Kind.exists_admits_of_admits h
    rw [classifyBy_eq_read all intFirst admitted positive, classify_eq_read admitted positive]
  · have refused : ∀ kind : Kind, kind.admits t = false := by simpa using h
    rw [classify, (classifyBy_eq_none_iff all).2 refused,
      (classifyBy_eq_none_iff Kind.mem_all).2 refused]

/-- The table of kinds has at most one row for each text, apart from a minus sign with digits behind
it, which has the pattern of an integer and that of a name. The conversion that belongs to a kind
refuses no text with the pattern of the kind, and makes of it what the kind reads. So an atom is
invalid exactly if it has no pattern, which is the only error and names the atom, and the rows may
be put in any order in which the integers stay before the names. -/
theorem classify_table :
    (∀ (t : Text) (kind other : Kind), kind.admits t = true → other.admits t = true →
      ¬IsNegated t → kind = other) ∧
    (∀ (t : Text) (kind : Kind), IsNegated t →
      (kind.admits t = true ↔ kind = .int ∨ kind = .var)) ∧
    (∀ (t : Text) (kind : Kind), kind.admits t = true →
      ∃ literal, kind.convert? t = some literal ∧ kind.read t = some literal) ∧
    (∀ t : Text, (∃ e, readAtom t = .error e) ↔ ∀ kind : Kind, kind.admits t = false) ∧
    (∀ (t : Text) (e : ReadError), readAtom t = .error e →
      e.message = "Invalid atomic symbol `".toList ++ t ++ ['`']) ∧
    ∀ order : List Kind, order.Perm [.int, .float, .bool, .string, .var] →
      order.idxOf .int < order.idxOf .var → ∀ t, classifyBy order t = classify t := by
  refine ⟨?_, ?_, ?_, ?_, ?_, ?_⟩
  · intro t kind other h admitted positive
    rw [← Kind.only_eq_of_admits h positive, Kind.only_eq_of_admits admitted positive]
  · intro t kind negated
    exact Kind.admits_of_isNegated negated
  · intro t kind h
    exact Kind.exists_convert?_of_admits h
  · intro t
    rw [← classifyBy_eq_none_iff Kind.mem_all]
    simp [readAtom_eq_error_iff, classify]
  · intro t e failed
    obtain ⟨-, rfl⟩ := readAtom_eq_error_iff.1 failed
    rfl
  · intro order rearranged intFirst t
    have all (kind : Kind) : kind ∈ order := rearranged.mem_iff.2 kind.mem_all
    exact classifyBy_eq_classify all intFirst t

example : classifyBy [.var, .int, .float, .bool, .string] "-1".toList = some (.var "-1".toList) :=
  rfl

end Literal

end Sexpr

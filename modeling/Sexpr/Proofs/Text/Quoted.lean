import Sexpr.Numeral
import Sexpr.Proofs.Text.Printable
import Sexpr.Text.Quoted

/-!
# Quoted texts can be told apart

A quoted text is read back character by character. The letter behind a backslash settles how many
hexadecimal digits follow, and the delimiter stands by itself at the end only; so where the quoted
text ends, and what it stands for, is settled by the text alone, whatever follows it.
-/

namespace Sexpr.Text

/-! ### Hexadecimal digits -/

/-- The value of a hexadecimal digit. -/
def hexDigitValue (c : Char) : Nat :=
  if c.isDigit then c.toNat - '0'.toNat else c.toNat - 'a'.toNat + 10

/-- The value of a text of hexadecimal digits. -/
def hexValue (digits : Text) : Nat := digits.foldl (fun n c => 16 * n + hexDigitValue c) 0

theorem hexDigitValue_digitChar : ∀ n < 16, hexDigitValue (Nat.digitChar n) = n := by decide

theorem isPrintable_digitChar : ∀ n < 16, isPrintable (Nat.digitChar n) = true := by decide

theorem length_hexDigits (width n : Nat) : (hexDigits width n).length = width := by
  induction width generalizing n with
  | zero => rfl
  | succ width ih => rw [hexDigits, List.length_append, ih, List.length_singleton]

theorem hexValue_hexDigits {width n : Nat} (h : n < 16 ^ width) :
    hexValue (hexDigits width n) = n := by
  induction width generalizing n with
  | zero =>
      rw [Nat.pow_zero] at h
      exact (Nat.lt_one_iff.1 h).symm
  | succ width ih =>
      have higher : n / 16 < 16 ^ width := by
        rw [Nat.pow_succ] at h
        exact Nat.div_lt_of_lt_mul (by omega)
      have front := ih higher
      unfold hexValue at front
      rw [hexValue, hexDigits, List.foldl_append, front, List.foldl_cons, List.foldl_nil,
        hexDigitValue_digitChar _ (Nat.mod_lt n (by decide))]
      omega

theorem isPrintable_of_mem_hexDigits {width n : Nat} :
    ∀ c ∈ hexDigits width n, isPrintable c = true := by
  induction width generalizing n with
  | zero => simp [hexDigits]
  | succ width ih =>
      intro c member
      rcases List.mem_append.1 member with front | last
      · exact ih c front
      · rw [List.mem_singleton.1 last]
        exact isPrintable_digitChar _ (Nat.mod_lt n (by decide))

/-! ### Escapes -/

/-- The character that the first hexadecimal digits of a text name, and the rest of the text. -/
def readCode (width : Nat) (t : Text) : Char × Text :=
  (Char.ofNat (hexValue (t.take width)), t.drop width)

/-- The first character of the inside of a quoted text, and the rest. -/
def unescape? : Text → Option (Char × Text)
  | [] => none
  | '\\' :: 'n' :: rest => some ('\n', rest)
  | '\\' :: 'r' :: rest => some ('\r', rest)
  | '\\' :: 't' :: rest => some ('\t', rest)
  | '\\' :: 'x' :: rest => some (readCode 2 rest)
  | '\\' :: 'u' :: rest => some (readCode 4 rest)
  | '\\' :: 'U' :: rest => some (readCode 8 rest)
  | '\\' :: c :: rest => some (c, rest)
  | c :: rest => some (c, rest)

theorem readCode_hexDigits {width : Nat} {c : Char} (h : c.toNat < 16 ^ width) (rest : Text) :
    readCode width (hexDigits width c.toNat ++ rest) = (c, rest) := by
  have cut := length_hexDigits width c.toNat
  rw [readCode, List.take_left' cut, List.drop_left' cut, hexValue_hexDigits h, Char.ofNat_toNat]

theorem unescape?_of_ne {c : Char} (plain : c ≠ '\\') (rest : Text) :
    unescape? (c :: rest) = some (c, rest) := by
  unfold unescape?
  split <;> simp_all

theorem unescape?_escapeByCode (c : Char) (rest : Text) :
    unescape? (escapeByCode c ++ rest) = some (c, rest) := by
  have scalar : c.toNat < 16 ^ 8 := by
    have bound : c.toNat < 2 ^ 32 := UInt32.toNat_lt c.val
    omega
  unfold escapeByCode
  split
  · exact congrArg some (readCode_hexDigits (by omega) rest)
  · split
    · exact congrArg some (readCode_hexDigits (by omega) rest)
    · exact congrArg some (readCode_hexDigits scalar rest)

theorem unescape?_escape {d : Char} (quote : d = '\'' ∨ d = '"') (c : Char) (rest : Text) :
    unescape? (escape d c ++ rest) = some (c, rest) := by
  unfold escape
  split
  · next own =>
      rcases own with rfl | rfl
      · rcases quote with rfl | rfl <;> rfl
      · rfl
  · next own =>
      rw [not_or] at own
      split
      · next same => rw [same]; rfl
      split
      · next same => rw [same]; rfl
      split
      · next same => rw [same]; rfl
      split
      · exact unescape?_of_ne own.2 rest
      · exact unescape?_escapeByCode c rest

/-- No escape starts with the delimiter, so the delimiter by itself ends the text. -/
theorem escape_ne_delimiter {d : Char} (quote : d = '\'' ∨ d = '"') (c : Char) (rest more : Text) :
    escape d c ++ rest ≠ d :: more := by
  have plain : '\\' ≠ d := by rcases quote with rfl | rfl <;> decide
  unfold escape escapeByCode
  grind

/-- The inside of a quoted text ends at its delimiter. -/
theorem flatMap_escape_append_inj {d : Char} (quote : d = '\'' ∨ d = '"') {t u rest more : Text}
    (h : t.flatMap (escape d) ++ d :: rest = u.flatMap (escape d) ++ d :: more) :
    t = u ∧ rest = more := by
  induction t generalizing u with
  | nil =>
      cases u with
      | nil => exact ⟨rfl, List.cons.inj h |>.2⟩
      | cons b u =>
          rw [List.flatMap_cons, List.append_assoc] at h
          exact absurd h.symm (escape_ne_delimiter quote b _ _)
  | cons a t ih =>
      rw [List.flatMap_cons, List.append_assoc] at h
      cases u with
      | nil => exact absurd h (escape_ne_delimiter quote a _ _)
      | cons b u =>
          rw [List.flatMap_cons, List.append_assoc] at h
          have first := unescape?_escape quote a (t.flatMap (escape d) ++ d :: rest)
          rw [h, unescape?_escape quote b] at first
          obtain ⟨rfl, later⟩ := Prod.mk.inj (Option.some.inj first)
          obtain ⟨rfl, same⟩ := ih later.symm
          exact ⟨rfl, same⟩

/-! ### Quoted texts -/

theorem delimiter_eq (t : Text) : delimiter t = '\'' ∨ delimiter t = '"' := by
  unfold delimiter
  split
  · exact .inr rfl
  · exact .inl rfl

/-- Where a quoted text ends, and which text it stands for, does not depend on what follows it. -/
theorem quoted_append_inj {t u rest more : Text} (h : quoted t ++ rest = quoted u ++ more) :
    t = u ∧ rest = more := by
  simp only [quoted, List.cons_append, List.append_assoc, List.cons.injEq] at h
  obtain ⟨same, inside⟩ := h
  rw [← same] at inside
  exact flatMap_escape_append_inj (delimiter_eq t) inside

theorem isPrintable_of_mem_escapeByCode {c x : Char} (member : x ∈ escapeByCode c) :
    isPrintable x = true := by
  have letters : ∀ y ∈ ['\\', 'x', 'u', 'U'], isPrintable y = true :=
    List.all_eq_true.1 (by decide)
  have part : x ∈ ['\\', 'x', 'u', 'U'] ∨ ∃ width, x ∈ hexDigits width c.toNat := by
    unfold escapeByCode at member
    grind
  rcases part with letter | ⟨width, digit⟩
  · exact letters x letter
  · exact isPrintable_of_mem_hexDigits x digit

theorem isPrintable_of_mem_escape {d c x : Char} (printable : isPrintable d = true)
    (member : x ∈ escape d c) : isPrintable x = true := by
  have letters : ∀ y ∈ ['\\', 'n', 'r', 't'], isPrintable y = true :=
    List.all_eq_true.1 (by decide)
  by_cases coded : x ∈ escapeByCode c
  · exact isPrintable_of_mem_escapeByCode coded
  · unfold escape at member
    grind

/-- A quoted text holds printable characters only. -/
theorem isPrintable_of_mem_quoted {t : Text} : ∀ x ∈ quoted t, isPrintable x = true := by
  have printable : isPrintable (delimiter t) = true := by
    rcases delimiter_eq t with quote | quote <;> rw [quote] <;> decide
  intro x member
  simp only [quoted, List.cons_append, List.mem_cons, List.mem_append, List.mem_flatMap,
    List.not_mem_nil, or_false] at member
  rcases member with rfl | ⟨c, -, inside⟩ | rfl
  · exact printable
  · exact isPrintable_of_mem_escape printable inside
  · exact printable

end Sexpr.Text

import Sexpr.Text.Printable

/-!
# Printable characters, and those that end a line

The visible characters of ASCII and its space are printable. A character at which some program or
other ends a line is not, so a text of printable characters is a single line.
-/

namespace Sexpr.Text

/-- The characters that end a line: line feed, vertical tab, form feed, carriage return, the file,
group and record separators, next line, and the Unicode line and paragraph separators. -/
def lineSeparators : Text :=
  ['\n', '\x0B', '\x0C', '\r', '\x1C', '\x1D', '\x1E', '\u0085', '\u2028', '\u2029']

theorem isPrintable_of_ascii {c : Char} (low : 0x20 ≤ c.toNat) (high : c.toNat < 0x7F) :
    isPrintable c = true := by
  have apart : ∀ range ∈ unprintableRanges, (range.2 < 0x20 || 0x7F ≤ range.1) = true :=
    List.all_eq_true.1 (by decide +kernel)
  rw [isPrintable_iff]
  rintro ⟨range, member, above, below⟩
  have outside := apart range member
  simp only [Bool.or_eq_true, decide_eq_true_eq] at outside
  omega

theorem isPrintable_of_isDigit {c : Char} (digit : c.isDigit = true) : isPrintable c = true := by
  have figure : 48 ≤ c.toNat ∧ c.toNat ≤ 57 := Char.isDigit_iff_toNat.1 digit
  exact isPrintable_of_ascii (by omega) (by omega)

theorem not_isPrintable_of_mem_lineSeparators :
    ∀ c ∈ lineSeparators, (!isPrintable c) = true := List.all_eq_true.1 (by decide +kernel)

/-- No printable character ends a line. -/
theorem not_mem_lineSeparators_of_isPrintable {c : Char} (printable : isPrintable c = true) :
    c ∉ lineSeparators := by
  intro member
  have other := not_isPrintable_of_mem_lineSeparators c member
  rw [printable] at other
  cases other

end Sexpr.Text

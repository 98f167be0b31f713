/-!
# Text

A text is the list of its characters, each a Unicode scalar value. Source text, tokens, messages
and printed output are all texts, so that reading and printing recurse on the list.
-/

namespace Sexpr

/-- Source text, token text and output, character by character. -/
abbrev Text := List Char

namespace Text

/-- Closed ranges of code points, in ascending order. -/
abbrev Ranges := List (Nat × Nat)

namespace Ranges

/-- Whether a code point lies in one of the ranges. The search stops at the first range above it. -/
def covers (n : Nat) : Ranges → Bool
  | [] => false
  | (low, high) :: rest => if n < low then false else n ≤ high || covers n rest

/-- Whether the ranges lie above a bound and each ends before the next one starts. -/
def areAbove (bound : Nat) : Ranges → Bool
  | [] => true
  | (low, high) :: rest => bound ≤ low && low ≤ high && areAbove (high + 1) rest

theorem le_of_areAbove {bound : Nat} {ranges : Ranges} (above : ranges.areAbove bound = true) :
    ∀ range ∈ ranges, bound ≤ range.1 := by
  induction ranges generalizing bound with
  | nil => simp
  | cons first rest ih =>
      simp only [areAbove, Bool.and_eq_true, decide_eq_true_eq] at above
      intro range member
      rcases List.mem_cons.1 member with rfl | later
      · exact above.1.1
      · have := ih above.2 range later
        omega

/-- The search finds every range, because the ranges are in ascending order. -/
theorem covers_iff {bound n : Nat} {ranges : Ranges} (above : ranges.areAbove bound = true) :
    ranges.covers n = true ↔ ∃ range ∈ ranges, range.1 ≤ n ∧ n ≤ range.2 := by
  induction ranges generalizing bound with
  | nil => simp [covers]
  | cons first rest ih =>
      obtain ⟨low, high⟩ := first
      simp only [areAbove, Bool.and_eq_true, decide_eq_true_eq] at above
      have later := le_of_areAbove above.2
      have found := ih above.2
      by_cases below : n < low
      · simp only [covers, below, if_true, Bool.false_eq_true, false_iff]
        rintro ⟨range, member, inside⟩
        rcases List.mem_cons.1 member with rfl | member
        · exact Nat.not_le_of_lt below inside.1
        · have := later range member
          omega
      · simp only [covers, below, if_false, Bool.or_eq_true, decide_eq_true_eq, found]
        constructor
        · rintro (inside | ⟨range, member, inside⟩)
          · exact ⟨_, List.mem_cons_self, Nat.le_of_not_lt below, inside⟩
          · exact ⟨range, List.mem_cons_of_mem _ member, inside⟩
        · rintro ⟨range, member, inside⟩
          rcases List.mem_cons.1 member with rfl | member
          · exact .inl inside.2
          · exact .inr ⟨range, member, inside⟩

end Ranges

/-- The text with a line feed after it. -/
def line (t : Text) : Text := t ++ ['\n']

/-- The text moved to the right end of a field of the given width; a longer text is left as it
is. -/
def alignRight (width : Nat) (t : Text) : Text := t.leftpad width ' '

end Text

end Sexpr

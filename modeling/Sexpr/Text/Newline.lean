import Sexpr.Text.Basic

/-!
# Line ends

A file may end its lines with a line feed, a carriage return, or both in that order. Inside the
program a line ends with a line feed.
-/

namespace Sexpr.Text

/-- Turns each carriage return, and the line feed that may follow it, into one line feed. -/
def normalizeNewlines : Text → Text
  | [] => []
  | '\r' :: '\n' :: rest => '\n' :: normalizeNewlines rest
  | '\r' :: rest => '\n' :: normalizeNewlines rest
  | c :: rest => c :: normalizeNewlines rest

/-- A normalised text has no carriage return. -/
theorem return_not_mem_normalizeNewlines (t : Text) : '\r' ∉ normalizeNewlines t := by
  fun_induction normalizeNewlines t with
  | case1 => simp
  | case2 rest ih => simp [ih]
  | case3 rest _ ih => simp [ih]
  | case4 c rest _ hc ih =>
      simp only [List.mem_cons, not_or]
      exact ⟨fun h => hc h.symm, ih⟩

end Sexpr.Text

import Mathlib.Data.List.TakeWhile
import Sexpr.Text.Basic

/-!
# The first run of a text

A text whose characters all have a property, in front of a text that does not start with such a
character, is the longest run that the two together start with.
-/

namespace Sexpr.Text

variable {p : Char → Bool} {run rest : Text}

theorem takeWhile_append_of_head (inside : ∀ c ∈ run, p c = true)
    (stop : ∀ c ∈ rest.head?, p c = false) : (run ++ rest).takeWhile p = run := by
  rw [List.takeWhile_append_of_pos inside]
  cases rest with
  | nil => simp
  | cons c more =>
      have stopped : p c = false := stop c rfl
      rw [List.takeWhile_cons_of_neg (by simp [stopped]), List.append_nil]

theorem dropWhile_append_of_head (inside : ∀ c ∈ run, p c = true)
    (stop : ∀ c ∈ rest.head?, p c = false) : (run ++ rest).dropWhile p = rest := by
  rw [List.dropWhile_append_of_pos inside]
  cases rest with
  | nil => rfl
  | cons c more =>
      have stopped : p c = false := stop c rfl
      rw [List.dropWhile_cons_of_neg (by simp [stopped])]

theorem bne_of_not_mem {body : Text} {end_ : Char} (absent : end_ ∉ body) :
    ∀ c ∈ body, (c != end_) = true := by
  intro c member
  rw [bne_iff_ne]
  intro same
  exact absent (same ▸ member)

end Sexpr.Text

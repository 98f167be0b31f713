import Sexpr.Text.Basic

/-!
# Escaped text

The inside of a string: a backslash takes along the character behind it, and a quote may stand only
behind such a backslash. So the first quote that no backslash takes along closes the string.
-/

namespace Sexpr.Text

/-- A text that can stand between the quotes of a string. -/
inductive IsEscaped : Text → Prop where
  | nil : IsEscaped []
  /-- A character that has no meaning of its own. -/
  | cons {c : Char} {rest : Text} (quote : c ≠ '"') (backslash : c ≠ '\\') :
      IsEscaped rest → IsEscaped (c :: rest)
  /-- A backslash and any character behind it. -/
  | escape {c : Char} {rest : Text} : IsEscaped rest → IsEscaped ('\\' :: c :: rest)

/-- Whether a text, read behind an opening quote, ends with the quote that closes the string. -/
def endsAtClosingQuote : Text → Bool
  | [] => false
  | ['\\'] => false
  | '\\' :: _ :: rest => endsAtClosingQuote rest
  | '"' :: rest => rest.isEmpty
  | _ :: rest => endsAtClosingQuote rest

theorem endsAtClosingQuote_cons {c : Char} {rest : Text} (quote : c ≠ '"') (backslash : c ≠ '\\') :
    endsAtClosingQuote (c :: rest) = endsAtClosingQuote rest := by
  rw [endsAtClosingQuote]
  · rintro rfl _
    exact backslash rfl
  · intro _ _ h _
    exact backslash h
  · exact quote

theorem IsEscaped.endsAtClosingQuote {body : Text} (h : IsEscaped body) :
    endsAtClosingQuote (body ++ ['"']) = true := by
  induction h with
  | nil => rfl
  | cons quote backslash _ ih =>
      rw [List.cons_append, endsAtClosingQuote_cons quote backslash, ih]
  | escape _ ih => simpa only [List.cons_append, Text.endsAtClosingQuote] using ih

/-- The texts that end with the closing quote are the insides of strings with a quote behind. -/
theorem endsAtClosingQuote_iff {t : Text} :
    endsAtClosingQuote t = true ↔ ∃ body, IsEscaped body ∧ t = body ++ ['"'] := by
  constructor
  · intro h
    fun_induction endsAtClosingQuote t with
    | case1 => cases h
    | case2 => cases h
    | case3 c rest ih =>
        obtain ⟨body, escaped, rfl⟩ := ih h
        exact ⟨'\\' :: c :: body, .escape escaped, rfl⟩
    | case4 rest =>
        obtain rfl := List.isEmpty_iff.1 h
        exact ⟨[], .nil, rfl⟩
    | case5 c rest last escape quote ih =>
        have backslash : c ≠ '\\' := by
          intro e
          cases rest with
          | nil => exact last e rfl
          | cons d more => exact escape d more e rfl
        obtain ⟨body, escaped, rfl⟩ := ih h
        exact ⟨c :: body, .cons quote backslash escaped, rfl⟩
  · rintro ⟨body, escaped, rfl⟩
    exact escaped.endsAtClosingQuote

end Sexpr.Text

import Sexpr.Text.Escaped

/-!
# The closing quote

Behind an opening quote, a text is either the inside of a string with the closing quote and whatever
follows, or it is the inside of a string that is never closed. Where the string ends, if it does, is
settled by the text.
-/

namespace Sexpr.Text

/-- The inside of a string that is not closed; it may end with a backslash that takes nothing
along. -/
def IsUnclosed (t : Text) : Prop := ∃ body, IsEscaped body ∧ (t = body ∨ t = body ++ ['\\'])

/-- Cuts a text, read behind an opening quote, at the quote that closes the string. -/
def cutAtQuote? : Text → Option (Text × Text)
  | [] => none
  | ['\\'] => none
  | '\\' :: c :: rest => (cutAtQuote? rest).map fun cut => ('\\' :: c :: cut.1, cut.2)
  | '"' :: rest => some ([], rest)
  | c :: rest => (cutAtQuote? rest).map fun cut => (c :: cut.1, cut.2)

theorem cutAtQuote?_cons {c : Char} {rest : Text} (quote : c ≠ '"') (backslash : c ≠ '\\') :
    cutAtQuote? (c :: rest) = (cutAtQuote? rest).map fun cut => (c :: cut.1, cut.2) := by
  rw [cutAtQuote?]
  · rintro rfl _
    exact backslash rfl
  · intro _ _ h _
    exact backslash h
  · exact quote

theorem IsUnclosed.cons {c : Char} {t : Text} (quote : c ≠ '"') (backslash : c ≠ '\\')
    (unclosed : IsUnclosed t) : IsUnclosed (c :: t) := by
  obtain ⟨body, escaped, rfl | rfl⟩ := unclosed
  · exact ⟨_, .cons quote backslash escaped, .inl rfl⟩
  · exact ⟨_, .cons quote backslash escaped, .inr rfl⟩

theorem IsUnclosed.escape {c : Char} {t : Text} (unclosed : IsUnclosed t) :
    IsUnclosed ('\\' :: c :: t) := by
  obtain ⟨body, escaped, rfl | rfl⟩ := unclosed
  · exact ⟨_, .escape escaped, .inl rfl⟩
  · exact ⟨_, .escape escaped, .inr rfl⟩

theorem cutAtQuote?_append {body : Text} (escaped : IsEscaped body) (rest : Text) :
    cutAtQuote? (body ++ '"' :: rest) = some (body, rest) := by
  induction escaped with
  | nil => rfl
  | cons quote backslash _ ih =>
      rw [List.cons_append, cutAtQuote?_cons quote backslash, ih]
      rfl
  | escape _ ih =>
      rw [List.cons_append, List.cons_append, cutAtQuote?, ih]
      rfl

theorem cutAtQuote?_of_isUnclosed {t : Text} (unclosed : IsUnclosed t) : cutAtQuote? t = none := by
  obtain ⟨body, escaped, ending⟩ := unclosed
  induction escaped generalizing t with
  | nil =>
      rcases ending with rfl | rfl
      · rfl
      · rfl
  | cons quote backslash _ ih =>
      rcases ending with rfl | rfl
      · rw [cutAtQuote?_cons quote backslash, ih (.inl rfl)]
        rfl
      · rw [List.cons_append, cutAtQuote?_cons quote backslash, ih (.inr rfl)]
        rfl
  | escape _ ih =>
      rcases ending with rfl | rfl
      · rw [cutAtQuote?, ih (.inl rfl)]
        rfl
      · rw [List.cons_append, List.cons_append, cutAtQuote?, ih (.inr rfl)]
        rfl

/-- A text behind an opening quote closes the string somewhere, or nowhere. -/
theorem exists_closing_or_isUnclosed (t : Text) :
    (∃ body rest, IsEscaped body ∧ t = body ++ '"' :: rest) ∨ IsUnclosed t := by
  match t with
  | [] => exact .inr ⟨[], .nil, .inl rfl⟩
  | c :: rest =>
      by_cases quote : c = '"'
      · exact .inl ⟨[], rest, .nil, by rw [quote]; rfl⟩
      by_cases backslash : c = '\\'
      · subst backslash
        match rest with
        | [] => exact .inr ⟨[], .nil, .inr rfl⟩
        | d :: more =>
            rcases exists_closing_or_isUnclosed more with ⟨body, behind, escaped, rfl⟩ | unclosed
            · exact .inl ⟨'\\' :: d :: body, behind, .escape escaped, rfl⟩
            · exact .inr unclosed.escape
      · rcases exists_closing_or_isUnclosed rest with ⟨body, behind, escaped, rfl⟩ | unclosed
        · exact .inl ⟨c :: body, behind, .cons quote backslash escaped, rfl⟩
        · exact .inr (unclosed.cons quote backslash)

end Sexpr.Text

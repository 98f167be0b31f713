import Sexpr.Expr.Event

/-!
# What the text of a token spells

A token is a text before it is anything else: a bracket by itself enters or leaves a list, and any
other text is the leaf that its literal makes. No text spells two events.
-/

namespace Sexpr

/-- The event that the text of a token spells. -/
inductive Event.IsSpelledBy : Event → Text → Prop where
  /-- An opening bracket enters a list. -/
  | enter : IsSpelledBy .enter ['(']
  /-- A closing bracket leaves a list. -/
  | leave : IsSpelledBy .leave [')']
  /-- Any other text with a literal is a leaf. -/
  | leaf {text : Text} {literal : Literal} (opening : text ≠ ['(']) (closing : text ≠ [')'])
      (classified : Literal.classify text = some literal) : IsSpelledBy (.leaf literal) text

namespace Token

/-- A text that is no bracket is an atom. -/
theorem ofText_of_ne {text : Text} (opening : text ≠ ['(']) (closing : text ≠ [')']) :
    ofText text = .atom text := by
  unfold ofText
  split
  · exact absurd rfl opening
  · exact absurd rfl closing
  · rfl

theorem ofText_eq_rparen_iff {text : Text} : ofText text = .rparen ↔ text = [')'] := by
  constructor
  · intro h
    rw [← text_ofText text, h]
    rfl
  · rintro rfl
    rfl

theorem event?_eq_leave_iff {token : Token} : token.event? = some .leave ↔ token = .rparen := by
  cases token <;> simp [event?]

theorem event?_ofText_eq_some_iff {text : Text} {event : Event} :
    (ofText text).event? = some event ↔ event.IsSpelledBy text := by
  constructor
  · intro h
    by_cases opening : text = ['(']
    · subst opening
      obtain rfl := Option.some.inj h
      exact .enter
    by_cases closing : text = [')']
    · subst closing
      obtain rfl := Option.some.inj h
      exact .leave
    rw [ofText_of_ne opening closing, event?, Option.map_eq_some_iff] at h
    obtain ⟨literal, classified, rfl⟩ := h
    exact .leaf opening closing classified
  · intro h
    cases h with
    | enter => rfl
    | leave => rfl
    | leaf opening closing classified => rw [ofText_of_ne opening closing, event?, classified]; rfl

/-- A token stands for no event exactly if it is no bracket and has no literal. -/
theorem event?_ofText_eq_none_iff {text : Text} :
    (ofText text).event? = none ↔
      text ≠ ['('] ∧ text ≠ [')'] ∧ Literal.classify text = none := by
  constructor
  · intro h
    have opening : text ≠ ['('] := by
      rintro rfl
      cases h
    have closing : text ≠ [')'] := by
      rintro rfl
      cases h
    rw [ofText_of_ne opening closing, event?, Option.map_eq_none_iff] at h
    exact ⟨opening, closing, h⟩
  · intro h
    obtain ⟨opening, closing, unclassified⟩ := h
    rw [ofText_of_ne opening closing, event?, unclassified]
    rfl

end Token

end Sexpr

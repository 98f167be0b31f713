import Sexpr.Text.Basic

/-!
# Tokens

A token is a bracket or the text of an atom. Which literal an atom stands for, if any, is settled
later.
-/

namespace Sexpr

/-- A token of source text. -/
inductive Token where
  /-- An opening bracket. -/
  | lparen
  /-- A closing bracket. -/
  | rparen
  /-- Any other token, as it was written. -/
  | atom (text : Text)
deriving DecidableEq

namespace Token

/-- The token with a given text. -/
def ofText : Text → Token
  | ['('] => .lparen
  | [')'] => .rparen
  | t => .atom t

/-- The text of a token. -/
def text : Token → Text
  | .lparen => ['(']
  | .rparen => [')']
  | .atom t => t

@[simp] theorem text_ofText (t : Text) : (ofText t).text = t := by
  fun_cases ofText t <;> rfl

theorem ofText_injective {t u : Text} (h : ofText t = ofText u) : t = u := by
  rw [← text_ofText t, h, text_ofText]

end Token

end Sexpr

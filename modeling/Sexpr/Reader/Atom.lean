import Sexpr.Literal.Classify
import Sexpr.Reader.Basic

/-!
# Reading one atom

A token by itself is read as a literal, whatever it looks like; a bracket is no literal either. The
only error is that the token is invalid, and it names the token.
-/

namespace Sexpr

/-- The literal of a token, or the error that the token is none. -/
def readAtom (token : Text) : Except ReadError Literal :=
  match Literal.classify token with
  | none => .error (.invalidAtom token)
  | some literal => .ok literal

theorem readAtom_eq_error_iff {token : Text} {e : ReadError} :
    readAtom token = .error e ↔ Literal.classify token = none ∧ e = .invalidAtom token := by
  unfold readAtom
  cases Literal.classify token <;> simp [eq_comm]

end Sexpr

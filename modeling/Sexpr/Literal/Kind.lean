import Sexpr.Literal.Basic
import Sexpr.Numeral
import Sexpr.Text.Escaped

/-!
# Kinds of literal

Each kind of literal has a pattern for the texts that spell it. The patterns look at ASCII letters,
digits and symbols only, apart from the inside of strings, which may hold any character.
-/

namespace Sexpr.Literal

/-- The kinds of literal. -/
inductive Kind where
  | int
  | float
  | bool
  | string
  | var
deriving DecidableEq

/-- The kind of a literal. -/
def kind : Literal → Kind
  | .int _ => .int
  | .float _ => .float
  | .bool _ => .bool
  | .string _ => .string
  | .var _ => .var

namespace Kind

/-- Digits, a point and digits. -/
def digitsPointDigits (t : Text) : Bool :=
  match t.dropWhile Char.isDigit with
  | '.' :: fraction => Numeral.IsDigits (t.takeWhile Char.isDigit) && Numeral.IsDigits fraction
  | _ => false

/-- The symbols that names may hold. -/
def symbols : Text := "!@$%&*_=+|<>/?-".toList

/-- Whether a name may start with the character. -/
def startsName (c : Char) : Bool := c.isAlpha || c ∈ symbols

/-- Whether a name may go on with the character. -/
def continuesName (c : Char) : Bool := startsName c || c.isDigit

/-- Whether a text is spelled as the kind demands. -/
def admits : Kind → Text → Bool
  | .int, t => Numeral.IsDigits (Numeral.splitSign t).2
  | .float, t => digitsPointDigits (Numeral.splitSign t).2
  | .bool, t => t == ['#', 't'] || t == ['#', 'f']
  | .string, '"' :: rest => Text.endsAtClosingQuote rest
  | .string, _ => false
  | .var, c :: rest => startsName c && rest.all continuesName
  | .var, [] => false

end Kind

end Sexpr.Literal

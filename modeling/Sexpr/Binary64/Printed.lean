import Sexpr.Binary64.Shortest

/-!
# The text of a double

The shortest digits are laid out with a point in their place if the exponent of the first digit is
at least `-4` and below `16`; there is at least one digit on either side of the point. Otherwise
the point stands behind the first digit, and the signed exponent follows with at least two digits.
-/

namespace Sexpr.Binary64.Significant

/-- The digits with a point between the whole part and the fraction. -/
def positional (s : Significant) : Text :=
  if s.exponent < 0 then
    '0' :: '.' :: List.replicate (-s.exponent - 1).toNat '0' ++ s.digits
  else
    let places := s.exponent.toNat + 1
    if s.digits.length ≤ places then
      s.digits.rightpad places '0' ++ ['.', '0']
    else s.digits.take places ++ '.' :: s.digits.drop places

/-- The digits with a point behind the first of them, if there are more. -/
def mantissa (s : Significant) : Text :=
  match s.digits with
  | first :: second :: rest => first :: '.' :: second :: rest
  | digits => digits

/-- The exponent with its sign and at least two digits. -/
def exponentText (s : Significant) : Text :=
  (if s.exponent < 0 then '-' else '+') :: (Nat.toDigits 10 s.exponent.natAbs).leftpad 2 '0'

/-- The mantissa and the exponent. -/
def scientific (s : Significant) : Text := s.mantissa ++ 'e' :: s.exponentText

/-- Whether the digits are laid out without an exponent. -/
def IsPositional (s : Significant) : Prop := -4 ≤ s.exponent ∧ s.exponent < 16

instance (s : Significant) : Decidable s.IsPositional :=
  inferInstanceAs (Decidable (-4 ≤ s.exponent ∧ s.exponent < 16))

/-- The digits laid out. -/
def text (s : Significant) : Text := if s.IsPositional then s.positional else s.scientific

end Sexpr.Binary64.Significant

namespace Sexpr.Binary64

/-- The printed text of a double. -/
def printed (x : Binary64) : Text :=
  if x.isNaN then "nan".toList
  else
    (if x.negative then ['-'] else []) ++
      (if x.isFinite then (significant x.magnitude).text else "inf".toList)

end Sexpr.Binary64

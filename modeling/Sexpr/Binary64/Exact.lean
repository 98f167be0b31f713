import Sexpr.Binary64.Shortest

/-!
# The exact decimal of a double

Every finite value has a decimal with at most 1074 places behind the point. The digits of the
infinities, read as such a decimal, are those of the first power of two beyond the finite values.
-/

namespace Sexpr.Binary64

/-- The exact decimal of a double, with a sign and all places behind the point. -/
def exactText (x : Binary64) : Text :=
  (if x.negative then ['-'] else []) ++
    Nat.toDigits 10 (exactDecimal x.magnitude / 10 ^ unitPlaces) ++
    '.' :: (Nat.toDigits 10 (exactDecimal x.magnitude % 10 ^ unitPlaces)).leftpad unitPlaces '0'

end Sexpr.Binary64

import Sexpr.Binary64.Basic

/-!
# Rounding to the nearest double

A rational number, given as a fraction of units, is rounded to the nearest magnitude, and to the
even one of two that are equally near. The rounded quotient is added to the exponent, so that a
carry out of the fraction moves into the next exponent by itself.
-/

namespace Sexpr.Binary64

/-- The quotient rounded to the nearest whole number, a half going to the even neighbour. -/
def roundQuotient (num den : Nat) : Nat :=
  let q := num / den
  match compare (2 * (num % den)) den with
  | .lt => q
  | .eq => q + q % 2
  | .gt => q + 1

/-- How often the spacing of doubles has doubled at a value of that many units. -/
def spacing (units : Nat) : Nat := units.log2 - 52

/-- The magnitude nearest to `num / den` units. At and above the midpoint between the largest finite
value and the next power of two it is that of infinity. -/
def nearest (num den : Nat) : Nat :=
  let s := spacing (num / den)
  min infinity (s * binade + roundQuotient num (den * 2 ^ s))

theorem nearest_lt (num den : Nat) : nearest num den < signBit :=
  Nat.lt_of_le_of_lt (Nat.min_le_left _ _) (by decide)

/-- The double nearest to the decimal with the given sign and digits before and after the point. -/
def ofDigits (negative : Bool) (whole fraction : Text) : Binary64 where
  negative := negative
  magnitude := nearest (Numeral.value (whole ++ fraction) * 2 ^ unitPlaces) (10 ^ fraction.length)
  magnitude_lt := nearest_lt _ _

/-- The double that a signed decimal with a point stands for; `none` for any other text. -/
def ofText? (t : Text) : Option Binary64 :=
  let (negative, digits) := Numeral.splitSign t
  match digits.span (· != '.') with
  | (whole, '.' :: fraction) =>
      if Numeral.IsDigits whole ∧ Numeral.IsDigits fraction then
        some (ofDigits negative whole fraction)
      else none
  | _ => none

end Sexpr.Binary64

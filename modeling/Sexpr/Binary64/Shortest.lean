import Sexpr.Binary64.Nearest

/-!
# The shortest decimal of a double

A finite magnitude is printed with the fewest significant digits that read back to it. Every finite
value is a whole number of units of `10 ^ -1074`, so decimals are compared as whole numbers of that
unit: for one significant digit, then two, and so on, the two neighbours of the value on the grid of
such decimals are tried, and the nearer of those that read back is taken.
-/

namespace Sexpr.Binary64

/-- The exact value of a magnitude, counted in units of `10 ^ -1074`. -/
def exactDecimal (magnitude : Nat) : Nat := units magnitude * 5 ^ unitPlaces

/-- Whether a decimal, counted in units of `10 ^ -1074`, is rounded to the magnitude. -/
def ReadsBack (magnitude decimal : Nat) : Prop := nearest decimal (5 ^ unitPlaces) = magnitude

instance (magnitude decimal : Nat) : Decidable (ReadsBack magnitude decimal) :=
  inferInstanceAs (Decidable (_ = _))

/-- A decimal, counted in units of `10 ^ -1074`. -/
structure Decimal where
  /-- The digits, as a number. -/
  coefficient : Nat
  /-- The number of zeros behind them. -/
  places : Nat
deriving DecidableEq

/-- The value of a decimal, counted in units of `10 ^ -1074`. -/
def Decimal.value (d : Decimal) : Nat := d.coefficient * 10 ^ d.places

/-- The one of two neighbouring decimals that is accepted. If both are, it is the one nearer to the
exact value, and of two that are equally near the one with the even last digit. -/
def Decimal.pick? (accepts : Decimal → Bool) (exact : Nat) (below above : Decimal) :
    Option Decimal :=
  match accepts below, accepts above with
  | false, false => none
  | true, false => some below
  | false, true => some above
  | true, true =>
      match compare (2 * exact) (below.value + above.value) with
      | .lt => some below
      | .gt => some above
      | .eq => some (if below.coefficient % 2 = 0 then below else above)

/-- The decimal with that many zeros at the end which is nearest to the value of the magnitude,
among the two around it that read back. -/
def onGrid? (magnitude places : Nat) : Option Decimal :=
  let exact := exactDecimal magnitude
  let below : Decimal := ⟨exact / 10 ^ places, places⟩
  Decimal.pick? (fun decimal => ReadsBack magnitude decimal.value) exact below
    ⟨below.coefficient + 1, places⟩

/-- The first decimal that reads back on the grids of `10 ^ places`, of `10 ^ (places - 1)` and so
on. The finest grid holds the exact value. -/
def coarsestFrom (magnitude : Nat) : Nat → Decimal
  | 0 => ⟨exactDecimal magnitude, 0⟩
  | places + 1 => (onGrid? magnitude (places + 1)).getD (coarsestFrom magnitude places)

/-- The shortest decimal that reads back to a magnitude. -/
def shortest (magnitude : Nat) : Decimal :=
  coarsestFrom magnitude ((Nat.toDigits 10 (exactDecimal magnitude)).length - 1)

/-- The significant digits of a double and the exponent of the first of them. -/
structure Significant where
  /-- The digits, without zeros at the end. -/
  digits : Text
  /-- The first digit counts powers of ten with this exponent. -/
  exponent : Int
deriving DecidableEq

/-- The digits without the zeros at their end. -/
def dropTrailingZeros (digits : Text) : Text := (digits.reverse.dropWhile (· == '0')).reverse

/-- The shortest digits of a magnitude. Zero has one digit, of exponent zero. -/
def significant (magnitude : Nat) : Significant :=
  if magnitude = 0 then ⟨['0'], 0⟩
  else
    let decimal := shortest magnitude
    let digits := Nat.toDigits 10 decimal.coefficient
    ⟨dropTrailingZeros digits, (digits.length + decimal.places : Int) - 1 - unitPlaces⟩

end Sexpr.Binary64

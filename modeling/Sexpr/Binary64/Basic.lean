import Sexpr.Numeral

/-!
# Double precision numbers

A double is a sign and a magnitude: the eleven exponent bits and the fifty-two fraction bits read
as one number. Magnitudes are ordered as the values they stand for, and every finite value is a
whole number of units, a unit being the least positive double, `2 ^ -1074`.
-/

namespace Sexpr

namespace Binary64

/-- The weight of the sign bit, `2 ^ 63`. -/
def signBit : Nat := 0x8000000000000000

/-- The number of fractions, `2 ^ 52`. The magnitudes from a power of two up to the next are so
many. -/
def binade : Nat := 0x10000000000000

/-- The magnitude of the infinities: all exponent bits set and no fraction. -/
def infinity : Nat := 2047 * binade

/-- The least positive double is two to the power of minus this number. -/
def unitPlaces : Nat := 1074

end Binary64

/-- A double precision number, bit for bit. -/
structure Binary64 where
  /-- The sign bit. -/
  negative : Bool
  /-- The exponent bits followed by the fraction bits. -/
  magnitude : Nat
  /-- The magnitude has sixty-three bits. -/
  magnitude_lt : magnitude < Binary64.signBit := by decide
deriving DecidableEq

namespace Binary64

/-- The value of a magnitude, counted in units. In the first binade the exponent bits are zero and
the fraction is the value; above, the fraction gets a leading one and each exponent doubles it. The
formula goes on beyond the largest finite magnitude. -/
def units (magnitude : Nat) : Nat :=
  if magnitude < binade then magnitude
  else (binade + magnitude % binade) * 2 ^ (magnitude / binade - 1)

/-- The double whose sixty-four bits are the last ones of the number. -/
def ofBits (bits : Nat) : Binary64 where
  negative := bits / signBit % 2 = 1
  magnitude := bits % signBit
  magnitude_lt := Nat.mod_lt _ (by decide)

/-- The sixty-four bits of a double, as a number. -/
def toBits (x : Binary64) : Nat := (if x.negative then signBit else 0) + x.magnitude

/-- Whether a double is no number. -/
def isNaN (x : Binary64) : Bool := infinity < x.magnitude

/-- Whether a double is a number of finite value. -/
def isFinite (x : Binary64) : Bool := x.magnitude < infinity

/-- Equality of values: the two zeros are equal, and what is no number is unequal even to itself. -/
def equal (x y : Binary64) : Bool :=
  !x.isNaN && !y.isNaN &&
    (x.magnitude == y.magnitude && (x.negative == y.negative || x.magnitude == 0))

@[simp] theorem toBits_ofBits {bits : Nat} (h : bits < 2 * signBit) :
    (ofBits bits).toBits = bits := by
  by_cases high : bits / signBit % 2 = 1 <;> simp only [toBits, ofBits, high, decide_true,
    decide_false, if_true, if_false, Bool.false_eq_true] <;> simp only [signBit] at h high ⊢ <;>
    omega

@[simp] theorem ofBits_toBits (x : Binary64) : ofBits x.toBits = x := by
  obtain ⟨negative, magnitude, h⟩ := x
  cases negative <;> simp only [toBits, ofBits, mk.injEq] <;> simp only [signBit] at h ⊢ <;>
    constructor <;> simp <;> omega

end Binary64

end Sexpr

import Sexpr.Text.Basic

/-!
# Numerals

Decimal numerals with an optional minus sign in front. The value of a numeral is read block by
block, so that long numerals cost few operations on large numbers; the size of the blocks does not
change the value. Blocks are short enough, besides, for a conversion that refuses more digits than a
limit; reading with that conversion is given step by step at the end.
-/

-- Powers of natural numbers mean one thing throughout, whatever other instances are in scope.
attribute [instance (2000)] instPowNat

namespace Sexpr.Numeral

/-- Splits an optional minus sign from the text behind it. -/
def splitSign : Text → Bool × Text
  | '-' :: rest => (true, rest)
  | t => (false, t)

/-- A non-empty text of ASCII digits. -/
def IsDigits (t : Text) : Prop := t ≠ [] ∧ ∀ c ∈ t, c.isDigit = true

-- The digits of the text are looked at one by one, whatever other instances are in scope.
instance (t : Text) : Decidable (IsDigits t) :=
  @instDecidableAnd (t ≠ []) (∀ c ∈ t, c.isDigit = true) _ (List.decidableBAll _ t)

/-- The value of a text of digits, read in blocks of `size` digits. -/
def valueInBlocks (size : Nat) (digits : Text) : Nat :=
  go 0 0 0 digits
where
  /-- Goes on behind blocks of value `whole` and an unfinished block of `length` digits. -/
  go (whole block length : Nat) : Text → Nat
    | [] => whole * 10 ^ length + block
    | c :: rest =>
        if length < size then go whole (10 * block + (c.toNat - '0'.toNat)) (length + 1) rest
        else go (whole * 10 ^ length + block) (c.toNat - '0'.toNat) 1 rest

/-- The block size in use. -/
def blockSize : Nat := 500

/-- The value of a text of digits. -/
def value (digits : Text) : Nat := valueInBlocks blockSize digits

private theorem valueInBlocks_go (size whole block length : Nat) (digits : Text) :
    valueInBlocks.go size whole block length digits =
      Nat.ofDigitChars 10 digits (whole * 10 ^ length + block) := by
  induction digits generalizing whole block length with
  | nil => rfl
  | cons c rest ih =>
      simp only [valueInBlocks.go, Nat.ofDigitChars_cons]
      split
      · rw [ih, Nat.pow_succ, Nat.mul_add, ← Nat.mul_assoc, Nat.mul_comm 10 (_ * _)]
        simp only [Nat.mul_assoc, Nat.add_assoc]
      · rw [ih, Nat.pow_one, Nat.mul_comm _ 10]

/-- The size of the blocks does not change the value. -/
theorem valueInBlocks_eq (size : Nat) (digits : Text) :
    valueInBlocks size digits = Nat.ofDigitChars 10 digits 0 := by
  rw [valueInBlocks, valueInBlocks_go, Nat.zero_mul, Nat.zero_add]

/-- A value with a sign. -/
def signedValue (negative : Bool) (n : Nat) : Int := if negative then -(n : Int) else n

/-- The integer that a signed numeral stands for; `none` for any other text. -/
def int? (t : Text) : Option Int :=
  let (negative, digits) := splitSign t
  if IsDigits digits then some (signedValue negative (value digits)) else none

/-- The canonical numeral of an integer: no leading zeros, and no sign on zero. -/
def ofInt : Int → Text
  | .ofNat n => Nat.toDigits 10 n
  | .negSucc n => '-' :: Nat.toDigits 10 (n + 1)

/-! ### Conversion with a limit -/

/-- Cuts a text into blocks of a size; the last block is what is left. -/
def blocks (size : Nat) (t : Text) : List Text :=
  if size = 0 ∨ t = [] then [] else t.take size :: blocks size (t.drop size)
termination_by t.length
decreasing_by
  rename_i more
  have nonempty : 0 < t.length := List.length_pos_iff.2 fun empty => more (.inr empty)
  rw [List.length_drop]
  omega

/-- The decimal value of a text of digits, for a reader that takes `limit` digits and no more. -/
def limitedValue? (limit : Nat) (digits : Text) : Option Nat :=
  if digits.length ≤ limit then some (Nat.ofDigitChars 10 digits 0) else none

/-- The value of a text of digits, put together from the values that the limited reader gives for
its blocks. -/
def valueOfBlocks? (limit size : Nat) (digits : Text) : Option Nat :=
  (blocks size digits).foldlM (fun whole block =>
    (limitedValue? limit block).map (whole * 10 ^ block.length + ·)) 0

/-- The value of a block for a conversion that refuses texts other than digits, and more digits than
the limit. -/
def convertBlock? (limit : Nat) (block : Text) : Option Nat :=
  if IsDigits block then limitedValue? limit block else none

/-- The integer that a text is converted to: the minus signs in front are taken off, the rest is
converted block by block, and a minus sign in front makes the value negative. `none` if a block is
refused. -/
def convert? (limit size : Nat) (t : Text) : Option Int :=
  ((blocks size (t.dropWhile (· == '-'))).foldlM (fun whole block =>
    (convertBlock? limit block).map (whole * 10 ^ block.length + ·)) 0).map
      (signedValue (t.head? == some '-'))

end Sexpr.Numeral

import Sexpr.Text.Printable

/-!
# Quoted text

A quoted text fits on one line and holds printable characters only. It stands between single
quotes, unless it has a single quote inside and no double quote; then it stands between double
quotes. The delimiter in use and the backslash are written behind a backslash, and a character that
is not printable is written by a letter or by its code point in hexadecimal.
-/

namespace Sexpr.Text

/-- The last `width` hexadecimal digits of a number, most significant first, in lower case. -/
def hexDigits : Nat → Nat → Text
  | 0, _ => []
  | width + 1, n => hexDigits width (n / 16) ++ [Nat.digitChar (n % 16)]

/-- The shortest of the three escapes that name a character by its code point. -/
def escapeByCode (c : Char) : Text :=
  if c.toNat < 0x100 then '\\' :: 'x' :: hexDigits 2 c.toNat
  else if c.toNat < 0x10000 then '\\' :: 'u' :: hexDigits 4 c.toNat
  else '\\' :: 'U' :: hexDigits 8 c.toNat

/-- How a character is written inside a text delimited by `delimiter`. -/
def escape (delimiter c : Char) : Text :=
  if c = delimiter ∨ c = '\\' then ['\\', c]
  else if c = '\n' then ['\\', 'n']
  else if c = '\r' then ['\\', 'r']
  else if c = '\t' then ['\\', 't']
  else if isPrintable c then [c]
  else escapeByCode c

/-- The delimiter of a quoted text: the single quote, unless the double quote saves escapes. -/
def delimiter (t : Text) : Char := if '\'' ∈ t ∧ '"' ∉ t then '"' else '\''

/-- The text in quotes, on one line. -/
def quoted (t : Text) : Text :=
  delimiter t :: t.flatMap (escape (delimiter t)) ++ [delimiter t]

end Sexpr.Text

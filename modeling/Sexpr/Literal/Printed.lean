import Sexpr.Binary64.Printed
import Sexpr.Literal.Basic
import Sexpr.Text.Quoted

/-!
# The text of a literal

A literal is printed as its kind with its payload in brackets, and texts are printed in quotes. An
integer with too many digits has no printed form.
-/

namespace Sexpr.Literal

/-- Whether the literal is no integer beyond the digit limit. -/
def isPrintable : Literal → Bool
  | .int n => n.natAbs < 10 ^ digitLimit
  | _ => true

/-- The printed text of a literal. -/
def printed : Literal → Text
  | .int n => "IntLiteral(value=".toList ++ Numeral.ofInt n ++ [')']
  | .float x => "FloatLiteral(value=".toList ++ x.printed ++ [')']
  | .bool true => "BoolLiteral(value=True)".toList
  | .bool false => "BoolLiteral(value=False)".toList
  | .string t => "StringLiteral(text=".toList ++ Text.quoted t ++ [')']
  | .var t => "Var(name=".toList ++ Text.quoted t ++ [')']

theorem printed_int (n : Int) :
    (int n).printed = "IntLiteral(value=".toList ++ Numeral.ofInt n ++ [')'] := rfl

theorem printed_float (x : Binary64) :
    (float x).printed = "FloatLiteral(value=".toList ++ x.printed ++ [')'] := rfl

theorem printed_string (t : Text) :
    (string t).printed = "StringLiteral(text=".toList ++ Text.quoted t ++ [')'] := rfl

theorem printed_var (t : Text) :
    (var t).printed = "Var(name=".toList ++ Text.quoted t ++ [')'] := rfl

end Sexpr.Literal

import Sexpr.Expr.Basic
import Sexpr.Literal.Printed
import Sexpr.Text.Sequence

/-!
# The text of an expression

An expression is printed on one line, with the name of each of its parts. It has no printed form if
an integer in it has none. The text is given for any nesting; that a run may have too few calls left
to nest for it is told apart, with the calls that printing takes.
-/

namespace Sexpr.Expr

mutual

/-- The text of an expression. -/
def printed : Expr → Text
  | .atom literal => "Atom(literal=".toList ++ literal.printed ++ [')']
  | .list items => "List(items=".toList ++ Text.tuple (printedAll items) ++ [')']

/-- The texts of the expressions of a forest. -/
def printedAll : List Expr → List Text
  | [] => []
  | e :: rest => printed e :: printedAll rest

end

/-- Whether every integer in the expression can be printed. -/
def isPrintable (e : Expr) : Bool := e.leaves.all Literal.isPrintable

/-- The text of an expression; `none` if it cannot be printed. -/
def print? (e : Expr) : Option Text := if e.isPrintable then some e.printed else none

theorem printed_atom (literal : Literal) :
    (atom literal).printed = "Atom(literal=".toList ++ literal.printed ++ [')'] := rfl

theorem printed_list (items : List Expr) :
    (list items).printed = "List(items=".toList ++ Text.tuple (printedAll items) ++ [')'] := rfl

end Sexpr.Expr

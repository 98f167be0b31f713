import Sexpr.Binary64.Exact
import Sexpr.Expr.Basic
import Sexpr.Literal.Kind

/-!
# Expressions as source text

Each literal that a token can stand for is written as such a token, and an expression is written
with its brackets and with spaces between the items of a list.
-/

namespace Sexpr

namespace Literal

/-- Whether some token stands for the literal: a double is a number, a string has its quotes, and a
name is no integer. -/
def IsWellFormed : Literal → Prop
  | .int _ => True
  | .float x => x.isNaN = false
  | .bool _ => True
  | .string t => ∃ body : Text, body.IsEscaped ∧ t = '"' :: body ++ ['"']
  | .var t => Kind.var.admits t = true ∧ ¬ ∃ digits, Numeral.IsDigits digits ∧ t = '-' :: digits

/-- A token that stands for the literal. -/
def source : Literal → Text
  | .int n => Numeral.ofInt n
  | .float x => x.exactText
  | .bool true => ['#', 't']
  | .bool false => ['#', 'f']
  | .string t => t
  | .var t => t

end Literal

namespace Expr

mutual

/-- Source text for an expression. -/
def source : Expr → Text
  | .atom literal => literal.source
  | .list items => '(' :: sourceAll items ++ [')']

/-- Source text for a forest, with a space behind each expression. -/
def sourceAll : List Expr → Text
  | [] => []
  | e :: rest => source e ++ ' ' :: sourceAll rest

end

/-- Whether every literal in a forest is one that a token can stand for. -/
def AreWellFormed (forest : List Expr) : Prop := ∀ l ∈ leavesAll forest, l.IsWellFormed

end Expr

end Sexpr

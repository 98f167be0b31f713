import Sexpr.Literal.Basic

/-!
# Expressions

An expression is an atom with its literal, or a list of expressions. A forest is a list of
expressions that stands at the top level of a source text. Expressions are compared at any nesting:
a limit on nested calls is left out here, as it could only take the answer away, not change it.
-/

namespace Sexpr

/-- A symbolic expression. -/
inductive Expr where
  /-- An atom. -/
  | atom (literal : Literal)
  /-- A list of expressions. -/
  | list (items : List Expr)

namespace Expr

/-- The number of items of a list; an atom has no items to count. -/
def length? : Expr → Option Nat
  | .atom _ => none
  | .list items => some items.length

mutual

/-- The literals of the atoms of an expression, from left to right. -/
def leaves : Expr → List Literal
  | .atom literal => [literal]
  | .list items => leavesAll items

/-- The literals of the atoms of a forest, from left to right. -/
def leavesAll : List Expr → List Literal
  | [] => []
  | e :: rest => leaves e ++ leavesAll rest

end

mutual

/-- Equality of expressions: the same nesting, and equal literals in the same places. -/
def equal : Expr → Expr → Bool
  | .atom l, .atom m => l.equal m
  | .list items, .list others => equalAll items others
  | _, _ => false

/-- Equality of forests, item by item. -/
def equalAll : List Expr → List Expr → Bool
  | [], [] => true
  | e :: rest, f :: others => equal e f && equalAll rest others
  | _, _ => false

end

theorem leavesAll_eq_flatMap (forest : List Expr) : leavesAll forest = forest.flatMap leaves := by
  induction forest with
  | nil => rfl
  | cons e rest ih => simp only [leavesAll, ih, List.flatMap_cons]

end Expr

end Sexpr

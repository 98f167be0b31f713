import Sexpr.Expr.Basic

/-!
# The shape of an expression

What is left of an expression if its literals are forgotten. Two expressions are alike, by whatever
is meant by that for literals, if they have the same shape and literals that are alike in the same
places.
-/

namespace Sexpr

/-- The nesting of an expression. -/
inductive Shape where
  /-- An atom. -/
  | leaf
  /-- A list. -/
  | node (children : List Shape)

namespace Shape

mutual

/-- The number of atoms of an expression of that shape. -/
def leafCount : Shape → Nat
  | .leaf => 1
  | .node children => leafCountAll children

/-- The number of atoms of a forest of those shapes. -/
def leafCountAll : List Shape → Nat
  | [] => 0
  | s :: rest => leafCount s + leafCountAll rest

end

end Shape

namespace Expr

mutual

/-- The shape of an expression. -/
def shape : Expr → Shape
  | .atom _ => .leaf
  | .list items => .node (shapeAll items)

/-- The shapes of the expressions of a forest. -/
def shapeAll : List Expr → List Shape
  | [] => []
  | e :: rest => shape e :: shapeAll rest

end

variable (r : Literal → Literal → Prop)

mutual

/-- Whether two expressions have the same nesting, with related literals in the same places. -/
def Related : Expr → Expr → Prop
  | .atom l, .atom m => r l m
  | .list items, .list others => RelatedAll items others
  | _, _ => False

/-- Whether two forests are related, expression by expression. -/
def RelatedAll : List Expr → List Expr → Prop
  | [], [] => True
  | e :: rest, f :: others => Related e f ∧ RelatedAll rest others
  | _, _ => False

end

end Expr

end Sexpr

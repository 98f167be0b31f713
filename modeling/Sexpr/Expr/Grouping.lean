import Sexpr.Expr.Basic

/-!
# Grouping equal expressions

The expressions of a forest are grouped by equality, each under the first that is equal to it.
-/

namespace Sexpr.Expr

/-- The index of the first expression of the forest that is equal to the given one. -/
def firstEqual (forest : List Expr) (e : Expr) : Nat := forest.findIdx (·.equal e)

/-- The index of the first equal expression, for each expression of a forest. -/
def firstIndices (forest : List Expr) : List Nat := forest.map (firstEqual forest)

/-- The expressions of a forest that are equal to none before them. -/
def distinct (forest : List Expr) : List Expr :=
  forest.foldl (fun seen e => if seen.any (·.equal e) then seen else seen ++ [e]) []

@[simp] theorem length_firstIndices (forest : List Expr) :
    (firstIndices forest).length = forest.length := by
  simp [firstIndices]

end Sexpr.Expr

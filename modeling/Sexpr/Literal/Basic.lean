import Sexpr.Binary64.Basic

/-!
# Literals

A literal is what an atom stands for. A string literal keeps its delimiting quotes and its escapes
as they were written, so two spellings of one string are two literals.
-/

namespace Sexpr

/-- What an atom stands for. -/
inductive Literal where
  /-- An integer of any size. -/
  | int (value : Int)
  /-- A double precision number. -/
  | float (value : Binary64)
  /-- A truth value. -/
  | bool (value : Bool)
  /-- A string as it was written, with its quotes and escapes. -/
  | string (text : Text)
  /-- A name. -/
  | var (name : Text)
deriving DecidableEq

namespace Literal

/-- Equality of literals: those of different kinds are never equal, and doubles are compared by
value. -/
def equal : Literal → Literal → Bool
  | .int m, .int n => m == n
  | .float x, .float y => x.equal y
  | .bool p, .bool q => p == q
  | .string t, .string u => t == u
  | .var t, .var u => t == u
  | _, _ => false

/-- Whether the literal is no number although it is a double. -/
def isNaN : Literal → Bool
  | .float x => x.isNaN
  | _ => false

/-- The greatest number of digits that are converted between a text and an integer at once. -/
def digitLimit : Nat := 4300

end Literal

end Sexpr

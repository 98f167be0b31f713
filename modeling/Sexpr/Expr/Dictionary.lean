import Sexpr.Expr.Basic

/-!
# Grouping with hashes

A dictionary finds a key by its hash first, and compares only keys whose hashes agree. A value is
hashed as the tuple of its fields, so the kind of a literal does not count: the integer 1, the
double 1.0 and a truth value may well have the same hash, and an atom the hash of another value. As
for equality, a limit on nested calls is left out: it would give no hash rather than another one.
-/

namespace Sexpr

/-- How the payloads of literals and tuples of hashes are hashed. Doubles that are equal have the
same hash, as keys of a dictionary must; the other payloads are equal only if they are the same. -/
structure Hashing where
  /-- The hash of an integer. -/
  int : Int → Int
  /-- The hash of a double. -/
  float : Binary64 → Int
  /-- The hash of a truth value. -/
  bool : Bool → Int
  /-- The hash of a text. -/
  text : Text → Int
  /-- The hash of a tuple of values with those hashes. -/
  tuple : List Int → Int
  /-- Equal doubles have the same hash. -/
  float_eq : ∀ {x y : Binary64}, x.equal y = true → float x = float y

/-- The hash of a literal. -/
def Literal.hash (h : Hashing) : Literal → Int
  | .int n => h.tuple [h.int n]
  | .float x => h.tuple [h.float x]
  | .bool b => h.tuple [h.bool b]
  | .string t => h.tuple [h.text t]
  | .var t => h.tuple [h.text t]

namespace Expr

mutual

/-- The hash of an expression. -/
def hash (h : Hashing) : Expr → Int
  | .atom literal => h.tuple [literal.hash h]
  | .list items => h.tuple [h.tuple (hashAll h items)]

/-- The hashes of the expressions of a forest. -/
def hashAll (h : Hashing) : List Expr → List Int
  | [] => []
  | e :: rest => hash h e :: hashAll h rest

end

end Expr

/-- A key of a dictionary, with its hash and the index that is stored for it. -/
structure Slot where
  /-- The hash of the key. -/
  hash : Int
  /-- The key. -/
  key : Expr
  /-- The index of the expression that was put in as the key. -/
  index : Nat

/-- A dictionary of expressions, and the indices that it has told of those put in so far. -/
structure Dictionary where
  /-- The slots, in the order in which they were filled. -/
  slots : List Slot := []
  /-- The index that was found or stored for each expression. -/
  firsts : List Nat := []

namespace Dictionary

/-- The slot whose key has the hash and is equal to the expression. -/
def slot? (d : Dictionary) (hash : Int) (e : Expr) : Option Slot :=
  d.slots.find? fun slot => slot.hash == hash && slot.key.equal e

/-- Puts the next expression in, unless a key is equal to it. -/
def add (h : Hashing) (d : Dictionary) (e : Expr) : Dictionary :=
  match d.slot? (e.hash h) e with
  | some slot => { d with firsts := d.firsts ++ [slot.index] }
  | none =>
      ⟨d.slots ++ [⟨e.hash h, e, d.firsts.length⟩], d.firsts ++ [d.firsts.length]⟩

/-- The dictionary of the expressions of a forest, put in one after the other. -/
def ofForest (h : Hashing) (forest : List Expr) : Dictionary := forest.foldl (add h) {}

end Dictionary

end Sexpr

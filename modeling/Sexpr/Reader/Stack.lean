import Sexpr.Reader.Atom
import Sexpr.Token.Basic

/-!
# Readings with a stack

The same reading with the open lists on a stack that has to be asked for its top. The outermost list
is at the bottom, and expressions stand in the order in which they were read. Asking an empty stack
for its top is a fault, which is no reading at all.
-/

namespace Sexpr

/-- The open lists, from the bottom to the top. -/
abbrev Stack := List (List Expr)

namespace Stack

/-- The lists below the top and the top; `none` if the stack is empty. -/
def pop? (stack : Stack) : Option (Stack × List Expr) :=
  stack.getLast?.map fun top => (stack.dropLast, top)

/-- Adds an item to the top; `none` if the stack is empty. -/
def append? (stack : Stack) (item : Expr) : Option Stack :=
  stack.pop?.map fun (below, top) => below ++ [top ++ [item]]

/-- Closes the top and adds it to the list below; `none` if one of the two is missing. -/
def squash? (stack : Stack) : Option Stack :=
  stack.pop?.bind fun (below, top) => below.append? (.list top)

end Stack

/-- A forest that has been read in part, with a stack. -/
structure StackProgress where
  /-- The complete expressions at the top level, in order. -/
  finished : List Expr := []
  /-- The open lists. -/
  stack : Stack := []
  /-- The number of tokens taken. -/
  taken : Nat := 0

namespace StackProgress

/-- Closes the top. If no other list is open, it is finished, and else it is added to the list
below; `none` if no list is open at all. -/
def close? (p : StackProgress) : Option StackProgress :=
  if p.stack.length = 1 then
    p.stack.pop?.map fun (below, top) =>
      { p with finished := p.finished ++ [.list top], stack := below }
  else p.stack.squash?.map fun stack => { p with stack }

/-- Adds an atom to the top, or to the finished expressions if no list is open. -/
def addAtom? (p : StackProgress) (literal : Literal) : Option StackProgress :=
  if p.stack.isEmpty then some { p with finished := p.finished ++ [.atom literal] }
  else (p.stack.append? (.atom literal)).map fun stack => { p with stack }

/-- Takes one token, or ends the reading there; `none` if an empty stack was asked for its top. -/
def feed? (p : StackProgress) (token : Token) : Option (Except Reading StackProgress) :=
  let counted := { p with taken := p.taken + 1 }
  match token with
  | .lparen => some (.ok { counted with stack := p.stack ++ [[]] })
  | .rparen =>
      if p.stack.isEmpty then
        some (.error ⟨.error .extraClose, some (.unmatchedClose counted.taken), counted.taken⟩)
      else counted.close?.map .ok
  | .atom text =>
      match readAtom text with
      | .error e => some (.error ⟨.error e, none, counted.taken⟩)
      | .ok literal => (counted.addAtom? literal).map .ok

/-- Takes tokens from the first to the last, or ends the reading at one of them; `none` if an empty
stack was asked for its top. -/
def feedAll? (p : StackProgress) : List Token → Option (Except Reading StackProgress)
  | [] => some (.ok p)
  | token :: rest =>
      match p.feed? token with
      | none => none
      | some (.error reading) => some (.error reading)
      | some (.ok next) => next.feedAll? rest

/-- What reading comes to at the end of the tokens. -/
def conclude (p : StackProgress) : Reading :=
  if p.stack.isEmpty then
    ⟨.ok p.finished, some (.parsed p.finished.length p.taken), p.taken⟩
  else ⟨.error .missingClose, some (.stillOpen p.stack.length), p.taken⟩

end StackProgress

/-- Reads a list of tokens with a stack; `none` if an empty stack was asked for its top. -/
def readWithStack? (tokens : List Token) : Option Reading :=
  (StackProgress.feedAll? {} tokens).map fun
    | .error reading => reading
    | .ok p => p.conclude

end Sexpr

import Sexpr.Expr.Event
import Sexpr.Expr.Printed

/-!
# The calls that printing nests

An expression is printed by calls for its parts, which go on until the innermost parts have their
texts, so an expression that is nested deep needs many calls at once. Where only so many calls may
be nested, the expression is given up at the first part that needs more. An integer with too many
digits ends it just the same. The parts are printed from left to right, so what is met first counts:
the events of the expression can be gone through for it one by one.
-/

namespace Sexpr

/-- Why an expression is not printed. -/
inductive PrintFault where
  /-- More calls would be nested than may be. -/
  | nestedTooDeep
  /-- An integer has more digits than are printed. -/
  | integerTooLong
deriving DecidableEq

namespace Expr

/-- The calls that are nested for a list around those for its items: one for the list, one that
looks out for a list inside itself, one for the text with the names, and one for the items. -/
def listCalls : Nat := 4

/-- The calls that are nested for an atom: three for the atom, as for a list, three for its literal
and one for the payload. -/
def atomCalls : Nat := 7

mutual

/-- How deep lists are nested in an expression. -/
def depth : Expr → Nat
  | .atom _ => 0
  | .list items => depthAll items + 1

/-- How deep lists are nested in the expressions of a forest. -/
def depthAll : List Expr → Nat
  | [] => 0
  | e :: rest => max (depth e) (depthAll rest)

end

mutual

/-- The greatest number of calls that are nested while an expression is printed. -/
def calls : Expr → Nat
  | .atom _ => atomCalls
  | .list items => listCalls + callsAll items

/-- The greatest number of calls that are nested for one of the expressions of a forest. -/
def callsAll : List Expr → Nat
  | [] => 0
  | e :: rest => max (calls e) (callsAll rest)

end

mutual

/-- Why an expression is not printed with `room` calls left to nest; `none` if it is. -/
def fault? (room : Nat) : Expr → Option PrintFault
  | .atom literal =>
      if room < atomCalls then some .nestedTooDeep
      else if literal.isPrintable then none else some .integerTooLong
  | .list items =>
      if room < listCalls then some .nestedTooDeep else faultAll? (room - listCalls) items

/-- Why the expressions of a forest are not all printed with `room` calls left to nest; `none` if
they are. -/
def faultAll? (room : Nat) : List Expr → Option PrintFault
  | [] => none
  | e :: rest =>
      match fault? room e with
      | some fault => some fault
      | none => faultAll? room rest

end

end Expr

namespace Event

/-- Why printing stops at an event with `room` calls left to nest; `none` if it goes on. -/
def fault? (room : Nat) : Event → Option PrintFault
  | .enter => if room < Expr.listCalls then some .nestedTooDeep else none
  | .leave => none
  | .leaf literal =>
      if room < Expr.atomCalls then some .nestedTooDeep
      else if literal.isPrintable then none else some .integerTooLong

/-- The calls left to nest behind an event: those for a list are taken until it is left. -/
def roomBehind (room : Nat) : Event → Nat
  | .enter => room - Expr.listCalls
  | .leave => room + Expr.listCalls
  | .leaf _ => room

/-- Why printing stops at the first of the events where it does; `none` if it gets to the end. -/
def firstFault? (room : Nat) : List Event → Option PrintFault
  | [] => none
  | event :: rest => (event.fault? room).or (firstFault? (event.roomBehind room) rest)

end Event

end Sexpr

import Sexpr.Expr.Basic
import Sexpr.Literal.Classify
import Sexpr.Token.Basic

/-!
# Events

An expression written down from left to right is a sequence of events: a list is entered and left,
and between the two come the events of its items; an atom is one event. A token stands for one
event, unless it is an atom that is no literal.
-/

namespace Sexpr

/-- One step of walking through an expression from left to right. -/
inductive Event where
  /-- A list starts. -/
  | enter
  /-- The list that started last ends. -/
  | leave
  /-- An atom. -/
  | leaf (literal : Literal)
deriving DecidableEq

/-- The event that a token stands for; `none` for an atom that is no literal. -/
def Token.event? : Token → Option Event
  | .lparen => some .enter
  | .rparen => some .leave
  | .atom text => (Literal.classify text).map .leaf

namespace Expr

mutual

/-- The events of an expression, with the given events behind them. -/
def eventsThen : Expr → List Event → List Event
  | .atom literal, after => .leaf literal :: after
  | .list items, after => .enter :: eventsAllThen items (.leave :: after)

/-- The events of a forest, with the given events behind them. -/
def eventsAllThen : List Expr → List Event → List Event
  | [], after => after
  | e :: rest, after => eventsThen e (eventsAllThen rest after)

end

/-- The events of an expression. -/
def events (e : Expr) : List Event := e.eventsThen []

/-- The events of a forest. -/
def eventsAll (forest : List Expr) : List Event := eventsAllThen forest []

mutual

theorem eventsThen_eq (e : Expr) (after : List Event) :
    e.eventsThen after = e.events ++ after := by
  cases e with
  | atom literal => rfl
  | list items =>
      simp only [events, eventsThen]
      rw [eventsAllThen_eq items (.leave :: after), eventsAllThen_eq items [.leave]]
      simp

theorem eventsAllThen_eq (forest : List Expr) (after : List Event) :
    eventsAllThen forest after = eventsAll forest ++ after := by
  cases forest with
  | nil => rfl
  | cons e rest =>
      simp only [eventsAll, eventsAllThen]
      rw [eventsThen_eq e, eventsThen_eq e (eventsAllThen rest []), eventsAllThen_eq rest after]
      simp [eventsAll]

end

@[simp] theorem events_atom (literal : Literal) : (atom literal).events = [.leaf literal] := rfl

@[simp] theorem events_list (items : List Expr) :
    (list items).events = .enter :: eventsAll items ++ [.leave] := by
  simp only [events, eventsThen, eventsAllThen_eq, List.cons_append]

@[simp] theorem eventsAll_nil : eventsAll [] = [] := rfl

@[simp] theorem eventsAll_cons (e : Expr) (rest : List Expr) :
    eventsAll (e :: rest) = e.events ++ eventsAll rest := by
  simp only [eventsAll, eventsAllThen, eventsThen_eq]

theorem eventsAll_append (forest more : List Expr) :
    eventsAll (forest ++ more) = eventsAll forest ++ eventsAll more := by
  induction forest with
  | nil => rfl
  | cons e rest ih => simp only [List.cons_append, eventsAll_cons, ih, List.append_assoc]

end Expr

end Sexpr

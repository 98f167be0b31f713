import Sexpr.Reader.Run

/-!
# Replaying events

The events of a forest, taken one after the other, put back the forest they were written for; and a
reading that has taken events can write them down again. So reading and writing events undo each
other.
-/

namespace Sexpr

namespace Progress

/-- Puts the expressions of a forest, one after the other, where each of them belongs. -/
def addAll (p : Progress) (forest : List Expr) : Progress := forest.foldl add p

/-- The same progress with more events taken. -/
def advance (p : Progress) (count : Nat) : Progress := { p with taken := p.taken + count }

/-- Takes events from the first to the last; `none` if a list is left that was not entered. -/
def run? (p : Progress) (events : List Event) : Option Progress := events.foldlM step? p

@[simp] theorem run?_nil (p : Progress) : p.run? [] = some p := rfl

@[simp] theorem run?_cons (p : Progress) (event : Event) (events : List Event) :
    p.run? (event :: events) = (p.step? event).bind (·.run? events) := rfl

@[simp] theorem addAll_nil (p : Progress) : p.addAll [] = p := rfl

@[simp] theorem addAll_cons (p : Progress) (e : Expr) (rest : List Expr) :
    p.addAll (e :: rest) = (p.add e).addAll rest := rfl

theorem advance_add (p : Progress) (e : Expr) (count : Nat) :
    (p.add e).advance count = (p.advance count).add e := by
  obtain ⟨finished, frames, taken⟩ := p
  cases frames <;> rfl

theorem advance_advance (p : Progress) (m n : Nat) :
    (p.advance m).advance n = p.advance (m + n) := by
  simp only [advance, Nat.add_assoc]

/-- Inside a list, a forest is added to the items of that list. -/
theorem addAll_inside (finished items : List Expr) (outer : List (List Expr)) (taken : Nat)
    (forest : List Expr) : (mk finished (items :: outer) taken).addAll forest =
      mk finished ((forest.reverse ++ items) :: outer) taken := by
  induction forest generalizing items with
  | nil => rfl
  | cons e rest ih => simp only [addAll_cons, add, ih, List.reverse_cons, List.append_assoc,
      List.singleton_append]

/-- At the top level, a forest is added to the finished expressions. -/
theorem addAll_outside (finished : List Expr) (taken : Nat) (forest : List Expr) :
    (mk finished [] taken).addAll forest = mk (forest.reverse ++ finished) [] taken := by
  induction forest generalizing finished with
  | nil => rfl
  | cons e rest ih => simp only [addAll_cons, add, ih, List.reverse_cons, List.append_assoc,
      List.singleton_append]

mutual

/-- The events of an expression put the expression back, whatever was read before. -/
theorem run?_events (p : Progress) (e : Expr) (after : List Event) :
    p.run? (e.events ++ after) = ((p.advance e.events.length).add e).run? after := by
  cases e with
  | atom literal =>
      obtain ⟨finished, frames, taken⟩ := p
      cases frames <;> rfl
  | list items =>
      obtain ⟨finished, frames, taken⟩ := p
      have inside := run?_eventsAll (mk finished ([] :: frames) (taken + 1)) items
        (.leave :: after)
      have entered : (mk finished frames taken).run? ((Expr.list items).events ++ after) =
          (mk finished ([] :: frames) (taken + 1)).run?
            (Expr.eventsAll items ++ .leave :: after) := by
        rw [Expr.events_list]
        simp only [List.cons_append, List.append_assoc]
        rfl
      rw [entered, inside]
      simp only [advance, addAll_inside, run?_cons, step?, Option.bind_some, List.append_nil,
        List.reverse_reverse, Expr.events_list, List.length_append, List.length_cons,
        List.length_nil]
      congr 2
      simp only [mk.injEq, true_and]
      omega

/-- The events of a forest put the forest back, whatever was read before. -/
theorem run?_eventsAll (p : Progress) (forest : List Expr) (after : List Event) :
    p.run? (Expr.eventsAll forest ++ after) =
      ((p.advance (Expr.eventsAll forest).length).addAll forest).run? after := by
  cases forest with
  | nil => rfl
  | cons e rest =>
      rw [Expr.eventsAll_cons, List.append_assoc, run?_events p e, run?_eventsAll _ rest,
        advance_add, advance_advance, List.length_append, addAll_cons]

end

/-- What was read can be written down again: the events so far, and then the events taken. -/
theorem events_of_run? {p q : Progress} {events : List Event} (h : p.run? events = some q) :
    q.events = p.events ++ events := by
  induction events generalizing p with
  | nil =>
      obtain rfl := Option.some.inj h
      rw [List.append_nil]
  | cons event events ih =>
      rw [run?_cons, Option.bind_eq_some_iff] at h
      obtain ⟨next, stepped, ran⟩ := h
      rw [ih ran, events_of_step? stepped, List.append_assoc, List.singleton_append]

end Progress

end Sexpr

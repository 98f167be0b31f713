import Sexpr.Expr.Event

/-!
# Progress of a reading

While a forest is read, the expressions that are complete are kept at the top level, and each list
that is still open keeps the items it has so far. What has been read so far can be written down as
events again, and each event extends this by itself.
-/

namespace Sexpr

/-- A forest that has been read in part. -/
structure Progress where
  /-- The complete expressions at the top level, latest first. -/
  finished : List Expr := []
  /-- The items of the open lists, innermost list first, latest item first. -/
  frames : List (List Expr) := []
  /-- The number of events taken. -/
  taken : Nat := 0

namespace Progress

/-- Puts a complete expression into the innermost open list, or at the top level if none is open. -/
def add (p : Progress) (e : Expr) : Progress :=
  match p.frames with
  | [] => { p with finished := e :: p.finished }
  | items :: outer => { p with frames := (e :: items) :: outer }

/-- Takes one event; `none` if a list is left that was not entered. -/
def step? (p : Progress) (event : Event) : Option Progress :=
  match event, p.frames with
  | .enter, frames => some { p with frames := [] :: frames, taken := p.taken + 1 }
  | .leave, [] => none
  | .leave, items :: outer =>
      some ({ p with frames := outer, taken := p.taken + 1 }.add (.list items.reverse))
  | .leaf literal, _ => some ({ p with taken := p.taken + 1 }.add (.atom literal))

/-- The number of open lists. -/
def depth (p : Progress) : Nat := p.frames.length

/-- What has been read, written down as events: the complete expressions, and the open lists from
the outermost to the innermost. -/
def events (p : Progress) : List Event :=
  Expr.eventsAll p.finished.reverse ++
    p.frames.reverse.flatMap fun items => .enter :: Expr.eventsAll items.reverse

@[simp] theorem events_add (p : Progress) (e : Expr) : (p.add e).events = p.events ++ e.events := by
  obtain ⟨finished, frames, taken⟩ := p
  cases frames <;> simp [add, events, Expr.eventsAll_append]

@[simp] theorem depth_add (p : Progress) (e : Expr) : (p.add e).depth = p.depth := by
  obtain ⟨finished, frames, taken⟩ := p
  cases frames <;> rfl

@[simp] theorem taken_add (p : Progress) (e : Expr) : (p.add e).taken = p.taken := by
  obtain ⟨finished, frames, taken⟩ := p
  cases frames <;> rfl

theorem step?_eq_none_iff {p : Progress} {event : Event} :
    p.step? event = none ↔ event = .leave ∧ p.depth = 0 := by
  obtain ⟨finished, frames, taken⟩ := p
  cases event <;> cases frames <;> simp [step?, depth]

theorem taken_of_step? {p q : Progress} {event : Event} (h : p.step? event = some q) :
    q.taken = p.taken + 1 := by
  obtain ⟨finished, frames, taken⟩ := p
  cases event <;> cases frames <;> simp [step?] at h <;> subst h <;> simp

/-- Each event is written behind those taken before. -/
theorem events_of_step? {p q : Progress} {event : Event} (h : p.step? event = some q) :
    q.events = p.events ++ [event] := by
  obtain ⟨finished, frames, taken⟩ := p
  cases event with
  | enter =>
      obtain rfl := Option.some.inj h
      simp [events]
  | leave =>
      cases frames with
      | nil => cases h
      | cons items outer =>
          obtain rfl := Option.some.inj h
          rw [events_add]
          simp [events]
  | leaf literal =>
      obtain rfl := Option.some.inj h
      rw [events_add]
      rfl

end Progress

end Sexpr

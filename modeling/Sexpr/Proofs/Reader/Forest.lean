import Sexpr.Proofs.Reader.Run

/-!
# The forest that tokens spell

Reading undoes the writing of a forest as events. A list of tokens is read as a forest exactly if
the tokens spell the events of the forest, each token the event in its place; and since no two
forests have the same events, the nesting, the order and the literals of a forest can be told from
its tokens alone.
-/

namespace Sexpr

namespace Progress

/-- Nothing read yet, no list is open after the events of a forest, and the forest is finished. -/
theorem run?_eventsAll_start (forest : List Expr) :
    run? {} (Expr.eventsAll forest) =
      some (mk forest.reverse [] (Expr.eventsAll forest).length) := by
  have replayed := run?_eventsAll {} forest []
  rw [List.append_nil, run?_nil] at replayed
  rw [replayed, advance, addAll_outside, List.append_nil, Nat.zero_add]

/-- The events that finish a forest and leave no list open are those of the forest. -/
theorem run?_start_eq_some_iff {events : List Event} {forest : List Expr} :
    (∃ p, run? {} events = some p ∧ p.frames = [] ∧ p.finished.reverse = forest) ↔
      events = Expr.eventsAll forest := by
  constructor
  · intro h
    obtain ⟨⟨finished, frames, taken⟩, ran, rfl, rfl⟩ := h
    have written := events_of_run? ran
    simpa [Progress.events] using written.symm
  · rintro rfl
    exact ⟨_, run?_eventsAll_start forest, rfl, List.reverse_reverse forest⟩

end Progress

/-- What a reading says is a forest was finished by its run, with no list left open. -/
theorem read_outcome_eq_ok_iff {tokens : List Token} {forest : List Expr} :
    (read tokens).outcome = .ok forest ↔
      ∃ p, Progress.feedAll {} tokens = .ok p ∧ p.frames = [] ∧ p.finished.reverse = forest := by
  cases ran : Progress.feedAll {} tokens with
  | error reading =>
      rw [read_of_feedAll_eq_error ran]
      obtain ⟨before, token, after, q, -, -, failed⟩ := Progress.exists_of_feedAll_eq_error ran
      rcases Progress.feed_eq_error_iff.1 failed with ⟨-, rfl⟩ | ⟨-, -, rfl⟩ <;> simp
  | ok p =>
      rw [read_of_feedAll_eq_ok ran]
      obtain ⟨finished, frames, taken⟩ := p
      cases frames <;> simp [Progress.conclude]

/-- Tokens are read as a forest exactly if they stand for its events. -/
theorem read_outcome_eq_ok_iff_event? {tokens : List Token} {forest : List Expr} :
    (read tokens).outcome = .ok forest ↔
      List.Forall₂ (fun event token => token.event? = some event)
        (Expr.eventsAll forest) tokens := by
  rw [read_outcome_eq_ok_iff]
  constructor
  · intro h
    obtain ⟨p, ran, closed, finished⟩ := h
    obtain ⟨events, spelled, ran⟩ := Progress.feedAll_eq_ok_iff.1 ran
    rw [← Progress.run?_start_eq_some_iff.1 ⟨p, ran, closed, finished⟩]
    exact spelled
  · intro spelled
    obtain ⟨p, ran, closed, finished⟩ := Progress.run?_start_eq_some_iff.2
      (rfl : Expr.eventsAll forest = Expr.eventsAll forest)
    exact ⟨p, Progress.feedAll_eq_ok_iff.2 ⟨_, spelled, ran⟩, closed, finished⟩

/-- No two forests have the same events. -/
theorem Expr.eq_of_eventsAll_eq {forest other : List Expr}
    (h : Expr.eventsAll forest = Expr.eventsAll other) : forest = other := by
  have ran := Progress.run?_eventsAll_start forest
  rw [h, Progress.run?_eventsAll_start other] at ran
  simpa using ran.symm

/-- Reading is the inverse of writing a forest as events: texts are read as a forest exactly if
they spell its events one by one, and the events of a forest are those of no other. -/
theorem read_eq_ok_iff_spelled :
    (∀ (texts : List Text) (forest : List Expr),
      (read (texts.map Token.ofText)).outcome = .ok forest ↔
        List.Forall₂ Event.IsSpelledBy (Expr.eventsAll forest) texts) ∧
    ∀ forest other : List Expr, Expr.eventsAll forest = Expr.eventsAll other → forest = other := by
  refine ⟨fun texts forest => ?_, fun _ _ => Expr.eq_of_eventsAll_eq⟩
  rw [read_outcome_eq_ok_iff_event?, List.forall₂_map_right_iff]
  have spelled : (fun event text => (Token.ofText text).event? = some event) =
      Event.IsSpelledBy := by
    funext event text
    exact propext Token.event?_ofText_eq_some_iff
  rw [spelled]

end Sexpr

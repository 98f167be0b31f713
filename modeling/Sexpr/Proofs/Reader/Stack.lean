import Sexpr.Proofs.Reader.Fault
import Sexpr.Reader.Stack

/-!
# The stack of a reading

As long as no token ends the reading, the open lists are those that were opened and not closed, and
what has been read can be written down as the tokens taken: the finished expressions, and then each
open list from the bottom to the top. A reading with a stack goes through the same states, so it
never asks an empty stack for its top, and it closes a list into another one only if there are two.
-/

namespace Sexpr

namespace Stack

theorem pop?_concat (below : Stack) (top : List Expr) :
    pop? (below ++ [top]) = some (below, top) := by
  simp [pop?]

theorem append?_concat (below : Stack) (top : List Expr) (item : Expr) :
    append? (below ++ [top]) item = some (below ++ [top ++ [item]]) := by
  rw [append?, pop?_concat, Option.map_some]

theorem squash?_concat (below : Stack) (top : List Expr) :
    squash? (below ++ [top]) = below.append? (.list top) := by
  rw [squash?, pop?_concat, Option.bind_some]

theorem pop?_eq_none_iff {stack : Stack} : stack.pop? = none ↔ stack = [] := by
  simp [pop?]

theorem append?_eq_none_iff {stack : Stack} {item : Expr} :
    stack.append? item = none ↔ stack = [] := by
  rw [append?, Option.map_eq_none_iff, pop?_eq_none_iff]

/-- Closing the top into the list below it needs two lists. -/
theorem squash?_eq_none_iff {stack : Stack} : stack.squash? = none ↔ stack.length < 2 := by
  rcases List.eq_nil_or_concat stack with rfl | ⟨below, top, rfl⟩
  · simp [squash?, pop?]
  · rw [List.concat_eq_append, squash?_concat, append?_eq_none_iff, ← List.length_eq_zero_iff,
      List.length_append, List.length_singleton]
    omega

end Stack

namespace Progress

/-- An atom is added with its literal, or ends the reading with the error that it is none. -/
theorem feed_atom (p : Progress) (text : Text) :
    p.feed (.atom text) =
      match readAtom text with
      | .error e => .error ⟨.error e, none, p.taken + 1⟩
      | .ok literal => .ok ({ p with taken := p.taken + 1 }.add (.atom literal)) := by
  unfold feed readAtom
  cases classified : Literal.classify text with
  | none => simp [Token.event?, Token.text, classified]
  | some literal => simp [Token.event?, classified, step?]

/-- After a run from the start, what was read is written down as the texts that were taken. -/
theorem events_isSpelledBy_of_feedAll {p : Progress} {texts : List Text}
    (fed : feedAll {} (texts.map Token.ofText) = .ok p) :
    List.Forall₂ Event.IsSpelledBy p.events texts := by
  obtain ⟨events, spelled, ran⟩ := feedAll_eq_ok_iff.1 fed
  have written : p.events = events := events_of_run? ran
  rw [written]
  apply (List.forall₂_map_right_iff.1 spelled).imp
  intro event text h
  exact Token.event?_ofText_eq_some_iff.1 h

end Progress

namespace StackProgress

/-- The same progress with its open lists on a stack. -/
def ofProgress (p : Progress) : StackProgress where
  finished := p.finished.reverse
  stack := (p.frames.map List.reverse).reverse
  taken := p.taken

variable {finished items : List Expr} {outer : List (List Expr)} {taken : Nat}

theorem ofProgress_outside :
    ofProgress ⟨finished, [], taken⟩ = ⟨finished.reverse, [], taken⟩ := rfl

theorem ofProgress_inside :
    ofProgress ⟨finished, items :: outer, taken⟩ =
      ⟨finished.reverse, (outer.map List.reverse).reverse ++ [items.reverse], taken⟩ := by
  simp [ofProgress]

/-- An atom is added where it belongs. -/
theorem addAtom?_ofProgress (p : Progress) (literal : Literal) :
    (ofProgress p).addAtom? literal = some (ofProgress (p.add (.atom literal))) := by
  obtain ⟨finished, frames, taken⟩ := p
  cases frames with
  | nil => simp [addAtom?, ofProgress_outside, Progress.add]
  | cons items outer =>
      simp [addAtom?, ofProgress_inside, Progress.add, Stack.append?_concat]

/-- The top is closed into the list below it, or into the finished expressions. -/
theorem close?_ofProgress (finished items : List Expr) (outer : List (List Expr)) (taken : Nat) :
    (ofProgress ⟨finished, items :: outer, taken⟩).close? =
      some (ofProgress ((Progress.mk finished outer taken).add (.list items.reverse))) := by
  cases outer with
  | nil => simp [close?, ofProgress, Progress.add, Stack.pop?]
  | cons others outer =>
      simp [close?, ofProgress, Progress.add, Stack.squash?, Stack.append?, Stack.pop?]

/-- With a stack, a token does what it does without one. -/
theorem feed?_ofProgress (p : Progress) (token : Token) :
    (ofProgress p).feed? token = some ((p.feed token).map ofProgress) := by
  obtain ⟨finished, frames, taken⟩ := p
  cases token with
  | lparen =>
      have entered : Progress.feed ⟨finished, frames, taken⟩ .lparen =
          .ok ⟨finished, [] :: frames, taken + 1⟩ := rfl
      rw [entered, Except.map, ofProgress_inside]
      rfl
  | rparen =>
      cases frames with
      | nil => rfl
      | cons items outer =>
          have left : Progress.feed ⟨finished, items :: outer, taken⟩ .rparen =
              .ok ((Progress.mk finished outer (taken + 1)).add (.list items.reverse)) := rfl
          have closed := close?_ofProgress finished items outer (taken + 1)
          rw [ofProgress_inside] at closed ⊢
          rw [left, Except.map, feed?, if_neg (by simp)]
          simp only [closed, Option.map_some]
  | atom text =>
      rw [Progress.feed_atom, feed?]
      cases readAtom text with
      | error e => rfl
      | ok literal =>
          have added := addAtom?_ofProgress ⟨finished, frames, taken + 1⟩ literal
          exact congrArg (Option.map Except.ok) added

/-- With a stack, tokens do what they do without one. -/
theorem feedAll?_ofProgress (p : Progress) (tokens : List Token) :
    (ofProgress p).feedAll? tokens = some ((p.feedAll tokens).map ofProgress) := by
  induction tokens generalizing p with
  | nil => rfl
  | cons token rest ih =>
      rw [feedAll?, feed?_ofProgress]
      cases fed : p.feed token with
      | error reading =>
          rw [Progress.feedAll_cons_of_error fed]
          rfl
      | ok next =>
          rw [Progress.feedAll_cons_of_ok fed]
          exact ih next

theorem feedAll?_start (tokens : List Token) :
    feedAll? {} tokens = some ((Progress.feedAll {} tokens).map ofProgress) :=
  feedAll?_ofProgress {} tokens

theorem conclude_ofProgress (p : Progress) : (ofProgress p).conclude = p.conclude := by
  obtain ⟨finished, frames, taken⟩ := p
  cases frames with
  | nil => simp [conclude, ofProgress_outside, Progress.conclude]
  | cons items outer => simp [conclude, ofProgress_inside, Progress.conclude]

end StackProgress

/-- Reading with a stack is reading: no empty stack is asked for its top, whatever the tokens. -/
theorem readWithStack?_eq (tokens : List Token) : readWithStack? tokens = some (read tokens) := by
  rw [readWithStack?, StackProgress.feedAll?_start]
  cases fed : Progress.feedAll {} tokens with
  | error reading =>
      rw [read_of_feedAll_eq_error fed]
      rfl
  | ok p =>
      rw [read_of_feedAll_eq_ok fed, ← StackProgress.conclude_ofProgress]
      rfl

/-- The open lists while texts are read. After the first texts, if none of them ended the reading,
as many lists are open as were opened and not closed, the texts are counted, and they spell what has
been read: the finished expressions, and then from the outermost list to the innermost a bracket
that opens the list and the items of the list. A reading with a stack has the same lists on its
stack then, and comes to the same, although the stack must not be empty where its top is asked for,
and must hold two lists where one is closed into the other: no text ever leads to such a fault. -/
theorem feedAll_stack_invariant (texts : List Text) :
    (∀ count ≤ texts.length, ∀ p : Progress,
      Progress.feedAll {} ((texts.take count).map Token.ofText) = .ok p →
        (p.frames.length : Int) =
          (texts.take count).count ['('] - (texts.take count).count [')'] ∧
        p.taken = count ∧
        List.Forall₂ Event.IsSpelledBy
          (Expr.eventsAll p.finished.reverse ++
            p.frames.reverse.flatMap fun items => .enter :: Expr.eventsAll items.reverse)
          (texts.take count) ∧
        StackProgress.feedAll? {} ((texts.take count).map Token.ofText) =
          some (.ok (StackProgress.ofProgress p))) ∧
    (∀ stack : Stack, stack.pop? = none ↔ stack = []) ∧
    (∀ (stack : Stack) (item : Expr), stack.append? item = none ↔ stack = []) ∧
    (∀ stack : Stack, stack.squash? = none ↔ stack.length < 2) ∧
    readWithStack? (texts.map Token.ofText) = some (read (texts.map Token.ofText)) := by
  refine ⟨?_, fun _ => Stack.pop?_eq_none_iff, fun _ _ => Stack.append?_eq_none_iff,
    fun _ => Stack.squash?_eq_none_iff, readWithStack?_eq _⟩
  intro count le p fed
  refine ⟨Progress.depth_eq_nesting fed, ?_, Progress.events_isSpelledBy_of_feedAll fed, ?_⟩
  · rw [Progress.taken_of_feedAll_start fed, List.length_map, List.length_take, Nat.min_eq_left le]
  · rw [StackProgress.feedAll?_start, fed]
    rfl

end Sexpr

import Mathlib.Data.List.Infix
import Mathlib.Data.List.Induction
import Sexpr.Proofs.Reader.Append

/-!
# Growing lists of tokens

The readings of the first tokens of a list, for more and more of them. Each reading takes all it is
given, until one ends at a token; from there on all readings are that one. An expression that is
finished stays as it is, and each reading without an error finishes exactly one more than the
reading without an error before it.
-/

namespace Sexpr

/-- What reading comes to on the first tokens of a list. -/
def readFirst (tokens : List Token) (count : Nat) : Reading := read (tokens.take count)

/-- The forests that the non-empty beginnings of a list of tokens are read as, shortest beginning
first; those with an error leave none. -/
def forestsOfBeginnings (tokens : List Token) : List (List Expr) :=
  tokens.inits.tail.filterMap fun beginning => (read beginning).outcome.toOption

open Progress

/-- A token that leaves no list open finishes an expression, and any other one finishes none. -/
theorem Progress.finished_of_feed {p q : Progress} {token : Token} (fed : p.feed token = .ok q) :
    (q.frames = [] ∧ ∃ e, q.finished = e :: p.finished) ∨
      (q.frames ≠ [] ∧ q.finished = p.finished) := by
  obtain ⟨event, -, stepped⟩ := feed_eq_ok_iff.1 fed
  obtain ⟨finished, frames, taken⟩ := p
  cases event with
  | enter =>
      obtain rfl := Option.some.inj stepped
      exact .inr ⟨List.cons_ne_nil _ _, rfl⟩
  | leave =>
      cases frames with
      | nil => cases stepped
      | cons items outer =>
          obtain rfl := Option.some.inj stepped
          cases outer with
          | nil => exact .inl ⟨rfl, _, rfl⟩
          | cons others outer => exact .inr ⟨List.cons_ne_nil _ _, rfl⟩
  | leaf literal =>
      obtain rfl := Option.some.inj stepped
      cases frames with
      | nil => exact .inl ⟨rfl, _, rfl⟩
      | cons items outer => exact .inr ⟨List.cons_ne_nil _ _, rfl⟩

theorem tail_inits_concat {α : Type} (l : List α) (x : α) :
    (l ++ [x]).inits.tail = l.inits.tail ++ [l ++ [x]] := by
  cases l <;> simp

/-- The beginnings of a run without an error leave the beginnings of the finished expressions. -/
theorem forestsOfBeginnings_of_feedAll {tokens : List Token} {p : Progress}
    (fed : feedAll {} tokens = .ok p) :
    forestsOfBeginnings tokens = p.finished.reverse.inits.tail := by
  -- The last token adds the last beginning, so the tokens grow at their end.
  induction tokens using List.reverseRecOn generalizing p with
  | nil =>
      obtain rfl := Except.ok.inj fed
      rfl
  | append_singleton before token ih =>
      have whole := read_of_feedAll_eq_ok fed
      obtain ⟨q, fedBefore, fedLast⟩ := feedAll_concat_eq_ok_iff.1 fed
      have grown : forestsOfBeginnings (before ++ [token]) =
          q.finished.reverse.inits.tail ++ p.conclude.outcome.toOption.toList := by
        rw [← ih fedBefore, forestsOfBeginnings, tail_inits_concat, List.filterMap_append, ← whole]
        cases found : (read (before ++ [token])).outcome.toOption <;>
          simp [forestsOfBeginnings, found]
      rw [grown]
      obtain ⟨finished, frames, taken⟩ := p
      rcases finished_of_feed fedLast with ⟨rfl, e, rfl⟩ | ⟨opened, rfl⟩
      · rw [List.reverse_cons, tail_inits_concat]
        simp [conclude, Except.toOption]
      · cases frames with
        | nil => exact absurd rfl opened
        | cons items outer => simp [conclude, Except.toOption]

/-- A reading that ended at a token stays what it is when more tokens are given. -/
theorem readFirst_of_le {tokens : List Token} {i j : Nat}
    (ends : (readFirst tokens i).EndsAtToken) (le : i ≤ j) :
    readFirst tokens j = readFirst tokens i := by
  obtain ⟨more, longer⟩ := List.take_prefix_take_left (l := tokens) le
  rw [readFirst, ← longer]
  exact read_append_of_endsAtToken ends more

/-- A reading that did not end at a token took all it was given, and has no error but open lists. -/
theorem readFirst_of_not_endsAtToken {tokens : List Token} {count : Nat}
    (le : count ≤ tokens.length) (open_ : ¬(readFirst tokens count).EndsAtToken) :
    ((∃ forest, (readFirst tokens count).outcome = .ok forest) ∨
        (readFirst tokens count).outcome = .error .missingClose) ∧
      (readFirst tokens count).taken = count := by
  cases fed : feedAll {} (tokens.take count) with
  | error reading =>
      obtain ⟨rfl, ends⟩ := feedAll_eq_error_iff.1 fed
      exact absurd ends open_
  | ok p =>
      have taken : p.taken = count := by
        rw [taken_of_feedAll_start fed, List.length_take, Nat.min_eq_left le]
      rw [readFirst, read_of_feedAll_eq_ok fed, taken_conclude]
      exact ⟨p.conclude_outcome, taken⟩

/-- A reading that ended at a token took the tokens up to that one, and no shorter reading ended at
a token. -/
theorem readFirst_taken {tokens : List Token} {count : Nat}
    (ends : (readFirst tokens count).EndsAtToken) :
    (readFirst tokens (readFirst tokens count).taken).EndsAtToken ∧
      ∀ fewer < (readFirst tokens count).taken, ¬(readFirst tokens fewer).EndsAtToken := by
  have failed : feedAll {} (tokens.take count) = .error (readFirst tokens count) :=
    feedAll_eq_error_iff.2 ⟨rfl, ends⟩
  obtain ⟨before, token, after, p, split, fed, last⟩ := exists_of_feedAll_eq_error failed
  have taken : (readFirst tokens count).taken = before.length + 1 := by
    rw [taken_of_feed_eq_error last, taken_of_feedAll_start fed]
  have inside : before.length + 1 ≤ count := by
    have lengths := congrArg List.length split
    rw [List.length_take, List.length_append, List.length_cons] at lengths
    omega
  have beginning {m : Nat} (le : m ≤ count) :
      tokens.take m = (before ++ token :: after).take m := by
    rw [← split, List.take_take, Nat.min_eq_left le]
  rw [taken]
  constructor
  · have upToToken : tokens.take (before.length + 1) = before ++ [token] := by
      rw [beginning inside, List.take_append]
      simp
    have ended : feedAll {} (before ++ [token]) = .error (readFirst tokens count) := by
      rw [feedAll_append_of_ok fed, feedAll_cons_of_error last]
    rw [readFirst, upToToken, read_of_feedAll_eq_error ended]
    exact ends
  · intro fewer less endsFewer
    have upToBefore : readFirst tokens before.length = p.conclude := by
      rw [readFirst, beginning (Nat.le_of_succ_le inside), List.take_left,
        read_of_feedAll_eq_ok fed]
    have same := readFirst_of_le endsFewer (Nat.le_of_lt_succ less)
    rw [upToBefore] at same
    rw [← same] at endsFewer
    exact p.not_endsAtToken_conclude endsFewer

/-- Reading more and more tokens of a list. An error at a token is final: it is the answer for all
longer beginnings, and the number of tokens taken is the length of the shortest beginning with that
answer. All beginnings without it are taken whole, and have no error but open lists. Of two forests
that are read, one is a beginning of the other; and if the whole list is read as a forest, as many
non-empty beginnings of the list are as the forest has expressions, one for each of its non-empty
beginnings. -/
theorem readFirst_growing (tokens : List Token) :
    (∀ count ≤ tokens.length, ¬(readFirst tokens count).EndsAtToken →
      ((∃ forest, (readFirst tokens count).outcome = .ok forest) ∨
          (readFirst tokens count).outcome = .error .missingClose) ∧
        (readFirst tokens count).taken = count) ∧
    (∀ count, (readFirst tokens count).EndsAtToken →
      (∀ more, count ≤ more → readFirst tokens more = readFirst tokens count) ∧
        (readFirst tokens (readFirst tokens count).taken).EndsAtToken ∧
        ∀ fewer < (readFirst tokens count).taken, ¬(readFirst tokens fewer).EndsAtToken) ∧
    (∀ count more forest longer, count ≤ more → (readFirst tokens count).outcome = .ok forest →
      (readFirst tokens more).outcome = .ok longer → forest <+: longer) ∧
    ∀ forest, (read tokens).outcome = .ok forest →
      (forestsOfBeginnings tokens).length = forest.length ∧
        ∀ place < forest.length,
          (forestsOfBeginnings tokens)[place]? = some (forest.take (place + 1)) := by
  refine ⟨?_, ?_, ?_, ?_⟩
  · intro count le open_
    exact readFirst_of_not_endsAtToken le open_
  · intro count ends
    exact ⟨fun more le => readFirst_of_le ends le, readFirst_taken ends⟩
  · intro count more forest longer le short long
    obtain ⟨others, split⟩ := List.take_prefix_take_left (l := tokens) le
    rw [readFirst, ← split, read_append_of_ok short, Reading.behind] at long
    cases rest : (read others).outcome with
    | error e =>
        rw [rest] at long
        cases long
    | ok found =>
        rw [rest] at long
        obtain rfl := Except.ok.inj long
        exact List.prefix_append forest found
  · intro forest h
    obtain ⟨p, fed, -, rfl⟩ := read_outcome_eq_ok_iff.1 h
    rw [forestsOfBeginnings_of_feedAll fed]
    refine ⟨by simp, ?_⟩
    intro place inside
    have within : place + 1 < p.finished.reverse.inits.length := by
      rw [List.length_inits]
      exact Nat.succ_lt_succ inside
    rw [List.getElem?_tail, List.getElem?_eq_getElem within, List.getElem_inits]

example : forestsOfBeginnings [.lparen, .lparen, .rparen, .rparen, .atom ['1']] =
    [[.list [.list []]], [.list [.list []], .atom (.int 1)]] := rfl

end Sexpr

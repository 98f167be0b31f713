import Mathlib.Data.List.Forall2
import Sexpr.Proofs.Reader.Replay
import Sexpr.Proofs.Token.Spelling

/-!
# Runs over tokens

What one token does to a reading, in both ways it can go, and from that what a row of tokens does:
either each token stands for an event and all the events can be taken, or the run ends at the first
token that leads nowhere.
-/

namespace Sexpr

namespace Progress

/-- Takes tokens from the first to the last, or ends the reading at one of them. -/
def feedAll (p : Progress) (tokens : List Token) : Except Reading Progress := tokens.foldlM feed p

@[simp] theorem feedAll_nil (p : Progress) : p.feedAll [] = .ok p := rfl

theorem feedAll_cons_of_ok {p next : Progress} {token : Token} (fed : p.feed token = .ok next)
    (rest : List Token) : p.feedAll (token :: rest) = next.feedAll rest := by
  rw [feedAll, List.foldlM_cons, fed]
  rfl

theorem feedAll_cons_of_error {p : Progress} {token : Token} {reading : Reading}
    (fed : p.feed token = .error reading) (rest : List Token) :
    p.feedAll (token :: rest) = .error reading := by
  rw [feedAll, List.foldlM_cons, fed]
  rfl

theorem feedAll_append_of_ok {p q : Progress} {tokens : List Token}
    (fed : p.feedAll tokens = .ok q) (more : List Token) :
    p.feedAll (tokens ++ more) = q.feedAll more := by
  unfold feedAll at fed ⊢
  rw [List.foldlM_append, fed]
  rfl

theorem feedAll_append_of_error {p : Progress} {tokens : List Token} {reading : Reading}
    (fed : p.feedAll tokens = .error reading) (more : List Token) :
    p.feedAll (tokens ++ more) = .error reading := by
  unfold feedAll at fed ⊢
  rw [List.foldlM_append, fed]
  rfl

/-- A run without an error up to the last token, and that token, make up a run without an error. -/
theorem feedAll_concat_eq_ok_iff {p q : Progress} {before : List Token} {token : Token} :
    p.feedAll (before ++ [token]) = .ok q ↔
      ∃ middle, p.feedAll before = .ok middle ∧ middle.feed token = .ok q := by
  cases first : p.feedAll before with
  | error reading => simp [feedAll_append_of_error first]
  | ok middle =>
      rw [feedAll_append_of_ok first]
      cases last : middle.feed token with
      | error reading => simp [feedAll_cons_of_error last, last]
      | ok r => simp [feedAll_cons_of_ok last, last]

/-- A token leads on exactly if it stands for an event that does. -/
theorem feed_eq_ok_iff {p next : Progress} {token : Token} :
    p.feed token = .ok next ↔
      ∃ event, token.event? = some event ∧ p.step? event = some next := by
  unfold feed
  cases spelled : token.event? with
  | none => simp
  | some event =>
      cases stepped : p.step? event with
      | none => simp [stepped]
      | some q => simp [stepped]

/-- A token ends the reading if it is no literal, or if it leaves a list and none is open. -/
theorem feed_eq_error_iff {p : Progress} {token : Token} {reading : Reading} :
    p.feed token = .error reading ↔
      (token.event? = none ∧
        reading = ⟨.error (.invalidAtom token.text), none, p.taken + 1⟩) ∨
      (token = .rparen ∧ p.depth = 0 ∧
        reading = ⟨.error .extraClose, some (.unmatchedClose (p.taken + 1)), p.taken + 1⟩) := by
  unfold feed
  cases spelled : token.event? with
  | none =>
      have atom : token ≠ .rparen := by
        rintro rfl
        cases spelled
      simp [atom, eq_comm]
  | some event =>
      rw [← Token.event?_eq_leave_iff, spelled]
      cases stepped : p.step? event with
      | none =>
          obtain ⟨rfl, closed⟩ := step?_eq_none_iff.1 stepped
          simp [stepped, closed, eq_comm]
      | some q =>
          have leads : ¬(event = .leave ∧ p.depth = 0) := by
            rw [← step?_eq_none_iff, stepped]
            simp
          simp only [stepped, reduceCtorEq, false_and, Option.some.injEq, false_or, false_iff]
          intro h
          obtain ⟨leaves, closed, -⟩ := h
          exact leads ⟨leaves, closed⟩

theorem taken_of_feed_eq_error {p : Progress} {token : Token} {reading : Reading}
    (failed : p.feed token = .error reading) : reading.taken = p.taken + 1 := by
  rcases feed_eq_error_iff.1 failed with ⟨-, rfl⟩ | ⟨-, -, rfl⟩ <;> rfl

/-- Tokens lead on exactly if they stand for events that do. -/
theorem feedAll_eq_ok_iff {p q : Progress} {tokens : List Token} :
    p.feedAll tokens = .ok q ↔
      ∃ events, List.Forall₂ (fun event token => token.event? = some event) events tokens ∧
        p.run? events = some q := by
  induction tokens generalizing p with
  | nil => simp
  | cons token rest ih =>
      constructor
      · intro h
        cases fed : p.feed token with
        | error reading =>
            rw [feedAll_cons_of_error fed] at h
            cases h
        | ok next =>
            rw [feedAll_cons_of_ok fed] at h
            obtain ⟨event, spelled, stepped⟩ := feed_eq_ok_iff.1 fed
            obtain ⟨events, spelledAll, ran⟩ := ih.1 h
            refine ⟨event :: events, .cons spelled spelledAll, ?_⟩
            rw [run?_cons, stepped]
            exact ran
      · intro h
        obtain ⟨_, spelledAll, ran⟩ := h
        cases spelledAll with
        | cons spelled spelledRest =>
            rw [run?_cons, Option.bind_eq_some_iff] at ran
            obtain ⟨next, stepped, ran⟩ := ran
            rw [feedAll_cons_of_ok (feed_eq_ok_iff.2 ⟨_, spelled, stepped⟩)]
            exact ih.2 ⟨_, spelledRest, ran⟩

/-- A run that ends does so at a first token that leads nowhere. -/
theorem exists_of_feedAll_eq_error {p : Progress} {tokens : List Token} {reading : Reading}
    (h : p.feedAll tokens = .error reading) :
    ∃ before token after q, tokens = before ++ token :: after ∧
      p.feedAll before = .ok q ∧ q.feed token = .error reading := by
  induction tokens generalizing p with
  | nil => cases h
  | cons token rest ih =>
      cases fed : p.feed token with
      | error ending =>
          rw [feedAll_cons_of_error fed] at h
          cases h
          exact ⟨[], token, rest, p, rfl, rfl, fed⟩
      | ok next =>
          rw [feedAll_cons_of_ok fed] at h
          obtain ⟨before, last, after, q, rfl, fedBefore, failed⟩ := ih h
          refine ⟨token :: before, last, after, q, rfl, ?_, failed⟩
          rw [feedAll_cons_of_ok fed, fedBefore]

/-- Each token of a run is counted. -/
theorem taken_of_feedAll {p q : Progress} {tokens : List Token} (h : p.feedAll tokens = .ok q) :
    q.taken = p.taken + tokens.length := by
  induction tokens generalizing p with
  | nil =>
      cases h
      rfl
  | cons token rest ih =>
      cases fed : p.feed token with
      | error reading =>
          rw [feedAll_cons_of_error fed] at h
          cases h
      | ok next =>
          rw [feedAll_cons_of_ok fed] at h
          obtain ⟨event, -, stepped⟩ := feed_eq_ok_iff.1 fed
          rw [ih h, taken_of_step? stepped, List.length_cons]
          omega

/-- A run from the start takes as many tokens as it is given. -/
theorem taken_of_feedAll_start {p : Progress} {tokens : List Token}
    (h : feedAll {} tokens = .ok p) : p.taken = tokens.length :=
  (taken_of_feedAll h).trans (Nat.zero_add _)

/-- An event opens a list, closes one, or leaves the open lists as they are. -/
theorem depth_of_feed {p q : Progress} {token : Token} (h : p.feed token = .ok q) :
    q.depth + [token].count .rparen = p.depth + [token].count .lparen := by
  obtain ⟨event, spelled, stepped⟩ := feed_eq_ok_iff.1 h
  obtain ⟨finished, frames, taken⟩ := p
  cases token with
  | lparen =>
      obtain rfl := Option.some.inj spelled
      obtain rfl := Option.some.inj stepped
      simp [depth]
  | rparen =>
      obtain rfl := Option.some.inj spelled
      cases frames with
      | nil => cases stepped
      | cons items outer =>
          obtain rfl := Option.some.inj stepped
          rw [depth_add]
          simp [depth]
  | atom text =>
      rw [Token.event?, Option.map_eq_some_iff] at spelled
      obtain ⟨literal, -, rfl⟩ := spelled
      obtain rfl := Option.some.inj stepped
      rw [depth_add]
      simp [depth]

/-- The open lists are those that were opened and not closed. -/
theorem depth_of_feedAll {p q : Progress} {tokens : List Token} (h : p.feedAll tokens = .ok q) :
    q.depth + tokens.count .rparen = p.depth + tokens.count .lparen := by
  induction tokens generalizing p with
  | nil =>
      cases h
      rfl
  | cons token rest ih =>
      cases fed : p.feed token with
      | error reading =>
          rw [feedAll_cons_of_error fed] at h
          cases h
      | ok next =>
          rw [feedAll_cons_of_ok fed] at h
          have first := depth_of_feed fed
          have later := ih h
          have split (bracket : Token) : (token :: rest).count bracket =
              [token].count bracket + rest.count bracket := by
            rw [← List.count_append, List.singleton_append]
          rw [split, split]
          omega

end Progress

theorem read_of_feedAll_eq_ok {tokens : List Token} {p : Progress}
    (h : Progress.feedAll {} tokens = .ok p) : read tokens = p.conclude := by
  unfold Progress.feedAll at h
  rw [read, h]

theorem read_of_feedAll_eq_error {tokens : List Token} {reading : Reading}
    (h : Progress.feedAll {} tokens = .error reading) : read tokens = reading := by
  unfold Progress.feedAll at h
  rw [read, h]

/-- Source text that ends inside a string is not read; any other is read as its tokens are. -/
theorem readSource_cases (source : Text) :
    (tokens? source = none ∧ readSource source = ⟨.error .unterminatedString, none, 0⟩) ∨
      ∃ tokens, tokens? source = some tokens ∧ readSource source = read tokens := by
  unfold readSource
  cases tokens? source with
  | none => exact .inl ⟨rfl, rfl⟩
  | some tokens => exact .inr ⟨tokens, rfl, rfl⟩

/-- A forest that source text is read as is one that its tokens are read as. -/
theorem exists_tokens?_of_readSource {source : Text} {forest : List Expr}
    (h : (readSource source).outcome = .ok forest) :
    ∃ tokens, tokens? source = some tokens ∧ (read tokens).outcome = .ok forest := by
  rcases readSource_cases source with ⟨-, same⟩ | ⟨tokens, found, same⟩
  · rw [same] at h
    cases h
  · exact ⟨tokens, found, same ▸ h⟩

end Sexpr

import Sexpr.Proofs.Reader.Forest
import Sexpr.Proofs.Token.Append

/-!
# Reading on

A reading that ended at a token is not changed by the tokens behind it. Behind tokens that were read
as a forest, further tokens are read as they are by themselves, and what was read before only comes
in front of it and is counted. So source texts with a line feed between them are read one after the
other.
-/

namespace Sexpr

/-- Whether the reading was ended by a token that cannot stand where it does. -/
def Reading.EndsAtToken (reading : Reading) : Prop :=
  reading.outcome = .error .extraClose ∨ ∃ text, reading.outcome = .error (.invalidAtom text)

/-- The log entry of a reading that starts behind that many expressions and tokens. -/
def LogEntry.behind (expressions tokens : Nat) : LogEntry → LogEntry
  | .parsed more taken => .parsed (expressions + more) (tokens + taken)
  | .stillOpen lists => .stillOpen lists
  | .unmatchedClose place => .unmatchedClose (tokens + place)

/-- The reading behind a forest that was read from that many tokens. -/
def Reading.behind (forest : List Expr) (tokens : Nat) (reading : Reading) : Reading where
  outcome := reading.outcome.map (forest ++ ·)
  log := reading.log.map (LogEntry.behind forest.length tokens)
  taken := tokens + reading.taken

namespace Progress

/-- What reading comes to if it goes on with the tokens given. -/
def readOn (p : Progress) (tokens : List Token) : Reading :=
  match p.feedAll tokens with
  | .error reading => reading
  | .ok q => q.conclude

theorem readOn_cons (p : Progress) (token : Token) (rest : List Token) :
    p.readOn (token :: rest) =
      match p.feed token with
      | .error reading => reading
      | .ok q => q.readOn rest := by
  unfold readOn
  cases fed : p.feed token with
  | error reading => rw [feedAll_cons_of_error fed]
  | ok q => rw [feedAll_cons_of_ok fed]

/-- The same progress behind a forest that was read from that many tokens. -/
def behind (p : Progress) (forest : List Expr) (tokens : Nat) : Progress where
  finished := p.finished ++ forest.reverse
  frames := p.frames
  taken := tokens + p.taken

theorem add_behind (p : Progress) (forest : List Expr) (tokens : Nat) (e : Expr) :
    (p.behind forest tokens).add e = (p.add e).behind forest tokens := by
  obtain ⟨finished, frames, taken⟩ := p
  cases frames <;> rfl

theorem step?_behind (p : Progress) (forest : List Expr) (tokens : Nat) (event : Event) :
    (p.behind forest tokens).step? event =
      (p.step? event).map (·.behind forest tokens) := by
  obtain ⟨finished, frames, taken⟩ := p
  cases event with
  | enter => rfl
  | leave =>
      cases frames with
      | nil => rfl
      | cons items outer => exact congrArg some (add_behind ⟨finished, outer, taken + 1⟩ ..)
  | leaf literal => exact congrArg some (add_behind ⟨finished, frames, taken + 1⟩ ..)

theorem feed_behind (p : Progress) (forest : List Expr) (tokens : Nat) (token : Token) :
    (p.behind forest tokens).feed token =
      match p.feed token with
      | .error reading => .error (reading.behind forest tokens)
      | .ok q => .ok (q.behind forest tokens) := by
  unfold feed
  cases token.event? with
  | none => rfl
  | some event =>
      simp only [step?_behind]
      cases p.step? event with
      | none => rfl
      | some q => rfl

theorem conclude_behind (p : Progress) (forest : List Expr) (tokens : Nat) :
    (p.behind forest tokens).conclude = p.conclude.behind forest tokens := by
  obtain ⟨finished, frames, taken⟩ := p
  cases frames with
  | nil => simp [conclude, behind, Reading.behind, Except.map, LogEntry.behind, Nat.add_comm]
  | cons items outer => rfl

/-- Reading on does not look at the expressions that are finished. -/
theorem readOn_behind (p : Progress) (forest : List Expr) (count : Nat) (tokens : List Token) :
    (p.behind forest count).readOn tokens = (p.readOn tokens).behind forest count := by
  induction tokens generalizing p with
  | nil => exact conclude_behind p forest count
  | cons token rest ih =>
      rw [readOn_cons, readOn_cons, feed_behind]
      cases p.feed token with
      | error reading => rfl
      | ok q => exact ih q

theorem readOn_append_of_ok {p q : Progress} {tokens : List Token}
    (fed : p.feedAll tokens = .ok q) (more : List Token) :
    p.readOn (tokens ++ more) = q.readOn more := by
  rw [readOn, feedAll_append_of_ok fed, readOn]

/-- At the end of the tokens, the reading comes to a forest or lacks a closing bracket. -/
theorem conclude_outcome (p : Progress) :
    (∃ forest, p.conclude.outcome = .ok forest) ∨ p.conclude.outcome = .error .missingClose := by
  obtain ⟨finished, frames, taken⟩ := p
  cases frames with
  | nil => exact .inl ⟨_, rfl⟩
  | cons items outer => exact .inr rfl

theorem taken_conclude (p : Progress) : p.conclude.taken = p.taken := by
  obtain ⟨finished, frames, taken⟩ := p
  cases frames <;> rfl

theorem not_endsAtToken_conclude (p : Progress) : ¬p.conclude.EndsAtToken := by
  rcases p.conclude_outcome with ⟨forest, outcome⟩ | outcome <;>
    simp [Reading.EndsAtToken, outcome]

theorem endsAtToken_of_feed {p : Progress} {token : Token} {reading : Reading}
    (failed : p.feed token = .error reading) : reading.EndsAtToken := by
  rcases feed_eq_error_iff.1 failed with ⟨-, rfl⟩ | ⟨-, -, rfl⟩
  · exact .inr ⟨_, rfl⟩
  · exact .inl rfl

end Progress

open Progress

theorem read_eq_readOn (tokens : List Token) : read tokens = ({} : Progress).readOn tokens := rfl

/-- A reading that ended at a token is an error of the run over the tokens, and the other way
round. -/
theorem feedAll_eq_error_iff {tokens : List Token} {reading : Reading} :
    feedAll {} tokens = .error reading ↔ read tokens = reading ∧ reading.EndsAtToken := by
  constructor
  · intro failed
    obtain ⟨_, _, _, _, -, -, last⟩ := exists_of_feedAll_eq_error failed
    exact ⟨read_of_feedAll_eq_error failed, endsAtToken_of_feed last⟩
  · rintro ⟨rfl, ends⟩
    cases fed : feedAll {} tokens with
    | error reading => rw [read_of_feedAll_eq_error fed]
    | ok p =>
        rw [read_of_feedAll_eq_ok fed] at ends
        exact absurd ends p.not_endsAtToken_conclude

/-- A reading that ended at a token takes no further tokens. -/
theorem read_append_of_endsAtToken {tokens : List Token} (ends : (read tokens).EndsAtToken)
    (more : List Token) : read (tokens ++ more) = read tokens :=
  read_of_feedAll_eq_error
    (feedAll_append_of_error (feedAll_eq_error_iff.2 ⟨rfl, ends⟩) more)

/-- Behind tokens that were read as a forest, further tokens are read as by themselves. -/
theorem read_append_of_ok {tokens : List Token} {forest : List Expr}
    (h : (read tokens).outcome = .ok forest) (more : List Token) :
    read (tokens ++ more) = (read more).behind forest tokens.length := by
  obtain ⟨p, fed, closed, rfl⟩ := read_outcome_eq_ok_iff.1 h
  have taken := taken_of_feedAll_start fed
  have start : p = ({} : Progress).behind p.finished.reverse tokens.length := by
    obtain ⟨finished, frames, count⟩ := p
    obtain rfl : frames = [] := closed
    obtain rfl : count = tokens.length := taken
    simp [Progress.behind]
  rw [read_eq_readOn, readOn_append_of_ok fed, start, readOn_behind, ← start]
  rfl

theorem readSource_of_tokens? {source : Text} {tokens : List Token}
    (found : tokens? source = some tokens) : readSource source = read tokens := by
  rw [readSource, found]

theorem readSource_of_unterminated {source : Text} (unterminated : tokens? source = none) :
    readSource source = ⟨.error .unterminatedString, none, 0⟩ := by
  rw [readSource, unterminated]

/-- Two source texts with a line feed between them are read one after the other. The tokens are
those of one text and then of the other, and the second text may end inside a string as it may by
itself. If the first text is a forest, the second is read behind it; if the first has an error at
one of its tokens, that is what reading comes to. -/
theorem readSource_lineFeed {source : Text} {tokens : List Token}
    (found : tokens? source = some tokens) (more : Text) :
    tokens? (source ++ '\n' :: more) = (tokens? more).map (tokens ++ ·) ∧
      (tokens? more = none →
        (readSource (source ++ '\n' :: more)).outcome.mapError ReadError.message =
          .error "Unterminated string".toList) ∧
      ((tokens? more).isSome →
        (∀ forest, (read tokens).outcome = .ok forest →
          readSource (source ++ '\n' :: more) =
            (readSource more).behind forest tokens.length) ∧
        ((read tokens).EndsAtToken → readSource (source ++ '\n' :: more) = read tokens)) := by
  have joined := tokens?_append_lineFeed found more
  refine ⟨joined, ?_, ?_⟩
  · intro unterminated
    rw [unterminated] at joined
    rw [readSource_of_unterminated joined]
    rfl
  · intro terminated
    obtain ⟨others, foundMore⟩ := Option.isSome_iff_exists.1 terminated
    rw [foundMore] at joined
    rw [readSource_of_tokens? joined, readSource_of_tokens? foundMore]
    constructor
    · intro forest h
      exact read_append_of_ok h others
    · intro ends
      exact read_append_of_endsAtToken ends others

/-- Behind a list and a comment a bracket is found too many, counted from the start of the list; and
a bracket too many in the first text is found whatever the second one is. -/
theorem readSource_lineFeed_extraClose :
    tokens? "(f \"(\") ; (".toList =
        some [.lparen, .atom "f".toList, .atom "\"(\"".toList, .rparen] ∧
      readSource ("(f \"(\") ; (".toList ++ '\n' :: "x ) y".toList) =
        ⟨.error .extraClose, some (.unmatchedClose 6), 6⟩ ∧
      tokens? "a ) b".toList = some [.atom "a".toList, .rparen, .atom "b".toList] ∧
      readSource ("a ) b".toList ++ '\n' :: "x ) y".toList) =
        ⟨.error .extraClose, some (.unmatchedClose 2), 2⟩ := by
  have list : tokens? "(f \"(\") ; (".toList =
      some [.lparen, .atom "f".toList, .atom "\"(\"".toList, .rparen] := by decide
  have early : tokens? "a ) b".toList = some [.atom "a".toList, .rparen, .atom "b".toList] := by
    decide
  have forest : (read [.lparen, .atom "f".toList, .atom "\"(\"".toList, .rparen]).outcome =
      .ok [.list [.atom (.var "f".toList), .atom (.string "\"(\"".toList)]] := rfl
  have second : readSource "x ) y".toList = ⟨.error .extraClose, some (.unmatchedClose 2), 2⟩ :=
    rfl
  have ended : read [.atom "a".toList, .rparen, .atom "b".toList] =
      ⟨.error .extraClose, some (.unmatchedClose 2), 2⟩ := rfl
  have behindList := (readSource_lineFeed list "x ) y".toList).2.2 (by decide)
  have behindEarly := (readSource_lineFeed early "x ) y".toList).2.2 (by decide)
  refine ⟨list, ?_, early, ?_⟩
  · rw [behindList.1 _ forest, second]
    rfl
  · rw [behindEarly.2 (.inl (by rw [ended])), ended]

end Sexpr

import Mathlib.Data.List.Count
import Mathlib.Data.List.Induction
import Mathlib.Data.Nat.Find
import Sexpr.Proofs.Reader.Run

/-!
# The leftmost fault

Which of several errors a reading reports can be said without running it. A text is at fault where
it stands if it is no bracket and has no literal, or if it closes a list although as many lists were
closed as opened before it. The first text at fault ends the reading and is the last one taken; if
none is, all are taken, and lists that are still open are the only error left.
-/

namespace Sexpr

/-- How many more lists the texts open than they close. -/
def nesting (texts : List Text) : Int := texts.count ['('] - texts.count [')']

/-- Whether a text is at fault behind the given ones. -/
def IsFault (before : List Text) (text : Text) : Prop :=
  (text ≠ ['('] ∧ text ≠ [')'] ∧ Literal.classify text = none) ∨
    (text = [')'] ∧ nesting before = 0)

/-- Whether the text at an index, counted from zero, is at fault. -/
def IsFaultAt (texts : List Text) (index : Nat) : Prop :=
  ∃ text, texts[index]? = some text ∧ IsFault (texts.take index) text

/-- The reading ends with an error of the given wording after that many tokens. -/
def Reading.Fails (reading : Reading) (message : Text) (log : List Text) (taken : Nat) : Prop :=
  reading.outcome.mapError ReadError.message = .error message ∧
    reading.log.toList.map LogEntry.message = log ∧ reading.taken = taken

/-- The reading ends with a forest of the given size after that many tokens. -/
def Reading.Succeeds (reading : Reading) (size : Nat) (log : List Text) (taken : Nat) : Prop :=
  (∃ forest, reading.outcome = .ok forest ∧ forest.length = size) ∧
    reading.log.toList.map LogEntry.message = log ∧ reading.taken = taken

theorem count_map_ofText (texts : List Text) (text : Text) :
    (texts.map Token.ofText).count (Token.ofText text) = texts.count text :=
  List.count_map_of_injective texts Token.ofText (fun _ _ => Token.ofText_injective) text

theorem isFaultAt_of_append {before : List Text} {text : Text} {index : Nat}
    (h : IsFaultAt before index) : IsFaultAt (before ++ [text]) index := by
  obtain ⟨wrong, found, fault⟩ := h
  have inside : index < before.length := (List.getElem?_eq_some_iff.1 found).1
  refine ⟨wrong, ?_, ?_⟩
  · rw [List.getElem?_append_left inside, found]
  · rw [List.take_append_of_le_length (Nat.le_of_lt inside)]
    exact fault

namespace Progress

/-- After a run from the start, the open lists are the excess of opening brackets. -/
theorem depth_eq_nesting {p : Progress} {texts : List Text}
    (fed : feedAll {} (texts.map Token.ofText) = .ok p) : (p.depth : Int) = nesting texts := by
  have counted := depth_of_feedAll fed
  have opened := count_map_ofText texts ['(']
  have closed := count_map_ofText texts [')']
  simp only [Token.ofText] at opened closed
  have start : ({} : Progress).depth = 0 := rfl
  rw [opened, closed, start] at counted
  unfold nesting
  omega

/-- Behind a run from the start, a text ends the reading exactly if it is at fault there. -/
theorem feed_eq_error_iff_isFault {p : Progress} {before : List Text} {text : Text}
    (fed : feedAll {} (before.map Token.ofText) = .ok p) :
    (∃ reading, p.feed (Token.ofText text) = .error reading) ↔ IsFault before text := by
  have depth := depth_eq_nesting fed
  have closed : p.depth = 0 ↔ nesting before = 0 := by omega
  unfold IsFault
  rw [← Token.event?_ofText_eq_none_iff, ← Token.ofText_eq_rparen_iff, ← closed]
  constructor
  · intro h
    obtain ⟨reading, failed⟩ := h
    rcases feed_eq_error_iff.1 failed with ⟨unspelled, -⟩ | ⟨closing, bottom, -⟩
    · exact .inl unspelled
    · exact .inr ⟨closing, bottom⟩
  · rintro (unspelled | ⟨closing, bottom⟩)
    · exact ⟨_, feed_eq_error_iff.2 (.inl ⟨unspelled, rfl⟩)⟩
    · exact ⟨_, feed_eq_error_iff.2 (.inr ⟨closing, bottom, rfl⟩)⟩

/-- A run from the start goes through as long as no text is at fault. -/
theorem exists_feedAll_eq_ok {texts : List Text} (sound : ∀ index, ¬IsFaultAt texts index) :
    ∃ p, feedAll {} (texts.map Token.ofText) = .ok p := by
  -- A fault depends on the texts before it, so the texts grow at their end.
  induction texts using List.reverseRecOn with
  | nil => exact ⟨{}, rfl⟩
  | append_singleton before text ih =>
      have soundBefore : ∀ index, ¬IsFaultAt before index :=
        fun index fault => sound index (isFaultAt_of_append fault)
      obtain ⟨p, fed⟩ := ih soundBefore
      rw [List.map_append, feedAll_append_of_ok fed]
      cases last : p.feed (Token.ofText text) with
      | ok q =>
          refine ⟨q, ?_⟩
          rw [List.map_singleton, feedAll_cons_of_ok last, feedAll_nil]
      | error reading =>
          have fault := (feed_eq_error_iff_isFault fed).1 ⟨reading, last⟩
          have atEnd : IsFaultAt (before ++ [text]) before.length := by
            refine ⟨text, List.getElem?_concat_length, ?_⟩
            rw [List.take_left]
            exact fault
          exact absurd atEnd (sound _)

end Progress

theorem not_isFaultAt_take {texts : List Text} {index : Nat}
    (least : ∀ earlier < index, ¬IsFaultAt texts earlier) (earlier : Nat) :
    ¬IsFaultAt (texts.take index) earlier := by
  intro h
  obtain ⟨text, found, fault⟩ := h
  have below : earlier < index := by
    have inside := (List.getElem?_eq_some_iff.1 found).1
    rw [List.length_take] at inside
    omega
  rw [List.getElem?_take_of_lt below] at found
  rw [List.take_take, Nat.min_eq_left (Nat.le_of_lt below)] at fault
  exact least earlier below ⟨text, found, fault⟩

/-- The reading ends at the first text at fault, and says what is wrong with it. -/
theorem read_eq_of_first_fault {texts : List Text} {index : Nat} {text : Text}
    (found : texts[index]? = some text) (fault : IsFault (texts.take index) text)
    (least : ∀ earlier < index, ¬IsFaultAt texts earlier) :
    read (texts.map Token.ofText) =
      if text = [')'] then ⟨.error .extraClose, some (.unmatchedClose (index + 1)), index + 1⟩
      else ⟨.error (.invalidAtom text), none, index + 1⟩ := by
  obtain ⟨inside, same⟩ := List.getElem?_eq_some_iff.1 found
  obtain ⟨p, fed⟩ := Progress.exists_feedAll_eq_ok (not_isFaultAt_take least)
  obtain ⟨reading, failed⟩ := (Progress.feed_eq_error_iff_isFault fed).2 fault
  have taken : p.taken = index := by
    rw [Progress.taken_of_feedAll_start fed, List.length_map, List.length_take,
      Nat.min_eq_left (Nat.le_of_lt inside)]
  have ended : Progress.feedAll {} (texts.map Token.ofText) = .error reading := by
    rw [← List.take_append_drop index texts, List.drop_eq_getElem_cons inside, same,
      List.map_append, List.map_cons, Progress.feedAll_append_of_ok fed]
    exact Progress.feedAll_cons_of_error failed _
  rw [read_of_feedAll_eq_error ended]
  rcases Progress.feed_eq_error_iff.1 failed with ⟨unspelled, rfl⟩ | ⟨closing, -, rfl⟩
  · have atom : text ≠ [')'] := (Token.event?_ofText_eq_none_iff.1 unspelled).2.1
    rw [if_neg atom, Token.text_ofText, taken]
  · rw [if_pos (Token.ofText_eq_rparen_iff.1 closing), taken]

/-- Without a fault all texts are taken, and only lists that are still open are an error. -/
theorem read_eq_of_no_fault {texts : List Text} (sound : ∀ index, ¬IsFaultAt texts index) :
    (0 < nesting texts ∧ read (texts.map Token.ofText) =
      ⟨.error .missingClose, some (.stillOpen (nesting texts).toNat), texts.length⟩) ∨
    (nesting texts = 0 ∧ ∃ forest, read (texts.map Token.ofText) =
      ⟨.ok forest, some (.parsed forest.length texts.length), texts.length⟩) := by
  obtain ⟨p, fed⟩ := Progress.exists_feedAll_eq_ok sound
  have depth := Progress.depth_eq_nesting fed
  have taken := Progress.taken_of_feedAll_start fed
  rw [List.length_map] at taken
  rw [read_of_feedAll_eq_ok fed]
  obtain ⟨finished, frames, count⟩ := p
  subst taken
  cases frames with
  | nil =>
      refine .inr ⟨depth.symm, finished.reverse, ?_⟩
      simp only [Progress.conclude, List.length_reverse]
  | cons items outer =>
      refine .inl ⟨?_, ?_⟩
      · rw [← depth, Progress.depth, List.length_cons]
        omega
      · rw [← depth, Int.toNat_natCast]
        rfl

/-- Reading reports the leftmost fault, whatever follows it: the message, the log and the number of
tokens taken are those of the first text at fault. If no text is at fault, all of them are taken,
and the reading fails exactly if lists are still open. -/
theorem read_leftmost_fault (texts : List Text) :
    (∃ index text, texts[index]? = some text ∧ IsFaultAt texts index ∧
      (∀ earlier < index, ¬IsFaultAt texts earlier) ∧
      if text = [')'] then
        (read (texts.map Token.ofText)).Fails "Extra )".toList
          ["unmatched ) at token ".toList ++ Nat.toDigits 10 (index + 1)] (index + 1)
      else
        (read (texts.map Token.ofText)).Fails ("Invalid atomic symbol `".toList ++ text ++ ['`'])
          [] (index + 1)) ∨
    ((∀ index, ¬IsFaultAt texts index) ∧
      if 0 < nesting texts then
        (read (texts.map Token.ofText)).Fails "Missing )".toList
          [Nat.toDigits 10 (nesting texts).toNat ++ " list(s) still open at end of input".toList]
          texts.length
      else
        ∃ size, (read (texts.map Token.ofText)).Succeeds size
          ["parsed ".toList ++ Nat.toDigits 10 size ++ " expression(s) from ".toList ++
            Nat.toDigits 10 texts.length ++ " token(s)".toList] texts.length) := by
  classical
  by_cases faulty : ∃ index, IsFaultAt texts index
  · left
    obtain ⟨text, found, fault⟩ := Nat.find_spec faulty
    have least : ∀ earlier < Nat.find faulty, ¬IsFaultAt texts earlier :=
      fun _ below => Nat.find_min faulty below
    refine ⟨Nat.find faulty, text, found, Nat.find_spec faulty, least, ?_⟩
    have ended := read_eq_of_first_fault found fault least
    by_cases closing : text = [')']
    · rw [if_pos closing] at ended ⊢
      rw [ended]
      exact ⟨rfl, rfl, rfl⟩
    · rw [if_neg closing] at ended ⊢
      rw [ended]
      exact ⟨rfl, rfl, rfl⟩
  · right
    have sound : ∀ index, ¬IsFaultAt texts index := fun index fault => faulty ⟨index, fault⟩
    refine ⟨sound, ?_⟩
    rcases read_eq_of_no_fault sound with ⟨open_, ended⟩ | ⟨closed, forest, ended⟩
    · rw [if_pos open_, ended]
      exact ⟨rfl, rfl, rfl⟩
    · rw [if_neg (by omega), ended]
      exact ⟨forest.length, ⟨forest, rfl, rfl⟩, rfl, rfl⟩

end Sexpr

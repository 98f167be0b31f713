import Sexpr.Expr.Printed
import Sexpr.Proofs.Expr.Shape
import Sexpr.Proofs.Literal.Printed

/-!
# The text of an expression tells the expression

The texts of expressions can be told apart, and told from whatever follows them: an atom ends where
its literal ends, and behind each item of a list a comma or a bracket says whether more items
follow. So two expressions are printed alike only if they have the same nesting and, place by place,
literals that are printed alike; and what is printed is a single line of printable characters.
-/

namespace Sexpr

namespace Expr

/-- The items of a list that follow others, and the closing bracket of the items. -/
def printedTail : List Expr → Text
  | [] => [')']
  | e :: rest => ',' :: ' ' :: e.printed ++ printedTail rest

/-- What is printed of a list behind its first item. An only item has a comma behind it. -/
def printedAfterFirst : List Expr → Text
  | [] => [',', ')', ')']
  | e :: rest => printedTail (e :: rest) ++ [')']

theorem printed_list_nil : (list []).printed = "List(items=(".toList ++ [')', ')'] := by decide

theorem commaSeparated_append_bracket (e : Expr) (rest : List Expr) :
    Text.commaSeparated (printedAll (e :: rest)) ++ [')'] = e.printed ++ printedTail rest := by
  induction rest generalizing e with
  | nil => simp [Text.commaSeparated, printedAll, printedTail]
  | cons f rest ih =>
      have next := ih f
      rw [Text.commaSeparated, printedAll] at next
      rw [Text.commaSeparated, printedAll, printedAll, List.intercalate_cons_cons,
        List.append_assoc, next, printedTail]
      simp

theorem printed_list_cons (e : Expr) (rest : List Expr) :
    (list (e :: rest)).printed =
      "List(items=(".toList ++ (e.printed ++ printedAfterFirst rest) := by
  have opened : "List(items=(".toList = "List(items=".toList ++ ['('] := by decide
  rw [opened]
  cases rest with
  | nil =>
      have tuple : Text.tuple (printedAll [e]) = '(' :: e.printed ++ [',', ')'] := rfl
      rw [printed_list, tuple]
      simp only [printedAfterFirst, List.append_assoc, List.cons_append, List.nil_append]
  | cons f rest =>
      have tuple : Text.tuple (printedAll (e :: f :: rest)) =
          '(' :: (Text.commaSeparated (printedAll (e :: f :: rest)) ++ [')']) := rfl
      rw [printed_list, tuple, commaSeparated_append_bracket]
      simp only [printedAfterFirst, List.append_assoc, List.cons_append, List.nil_append]

/-- An expression is printed with the name of what it is in front. -/
theorem head?_printed (e : Expr) (rest : Text) :
    (e.printed ++ rest).head? = match e with
      | .atom _ => some 'A'
      | .list _ => some 'L' := by
  cases e with
  | atom l => rfl
  | list items => rfl

theorem printed_append_ne_bracket (e : Expr) (rest more : Text) :
    e.printed ++ rest ≠ ')' :: more := by
  intro h
  have head := head?_printed e rest
  rw [h] at head
  cases e with
  | atom l => cases head
  | list items => cases head

theorem printed_atom_append_ne_list {l : Literal} {items : List Expr} {rest more : Text} :
    (atom l).printed ++ rest ≠ (list items).printed ++ more := by
  intro h
  have head := head?_printed (atom l) rest
  rw [h, head?_printed] at head
  cases head

open Literal (PrintsAlike)

mutual

/-- The text of an expression tells the expression, and where it ends. -/
theorem related_of_printed_append (a b : Expr) {rest more : Text}
    (h : a.printed ++ rest = b.printed ++ more) : Related PrintsAlike a b ∧ rest = more := by
  cases a with
  | atom l =>
      cases b with
      | atom m =>
          simp only [printed_atom, List.append_assoc, List.append_cancel_left_eq] at h
          obtain ⟨alike, behind⟩ := Literal.printsAlike_of_printed_append h
          exact ⟨alike, List.append_cancel_left behind⟩
      | list others => exact absurd h printed_atom_append_ne_list
  | list items =>
      cases b with
      | atom m => exact absurd h.symm printed_atom_append_ne_list
      | list others =>
          cases items with
          | nil =>
              cases others with
              | nil => exact ⟨trivial, List.append_cancel_left h⟩
              | cons f others =>
                  simp only [printed_list_nil, printed_list_cons, List.append_assoc,
                    List.append_cancel_left_eq] at h
                  exact absurd h.symm (printed_append_ne_bracket f _ _)
          | cons e items =>
              cases others with
              | nil =>
                  simp only [printed_list_nil, printed_list_cons, List.append_assoc,
                    List.append_cancel_left_eq] at h
                  exact absurd h (printed_append_ne_bracket e _ _)
              | cons f others =>
                  simp only [printed_list_cons, List.append_assoc, List.append_cancel_left_eq] at h
                  obtain ⟨first, behind⟩ := related_of_printed_append e f h
                  obtain ⟨later, same⟩ := relatedAll_of_printedAfterFirst_append items others behind
                  exact ⟨⟨first, later⟩, same⟩

/-- The text behind the first item of a list tells the other items, and where the list ends. -/
theorem relatedAll_of_printedAfterFirst_append (forest others : List Expr) {rest more : Text}
    (h : printedAfterFirst forest ++ rest = printedAfterFirst others ++ more) :
    RelatedAll PrintsAlike forest others ∧ rest = more := by
  cases forest with
  | nil =>
      cases others with
      | nil => exact ⟨trivial, List.append_cancel_left h⟩
      | cons f others => cases (List.cons.inj (List.cons.inj h).2).1
  | cons e forest =>
      cases others with
      | nil => cases (List.cons.inj (List.cons.inj h).2).1
      | cons f others =>
          simp only [printedAfterFirst, printedTail, List.cons_append, List.append_assoc,
            List.cons.injEq, true_and] at h
          obtain ⟨first, behind⟩ := related_of_printed_append e f h
          obtain ⟨later, same⟩ := relatedAll_of_printedTail_append forest others behind
          exact ⟨⟨first, later⟩, (List.cons.inj same).2⟩

/-- The text of the items that follow others tells these items, and where the list ends. -/
theorem relatedAll_of_printedTail_append (forest others : List Expr) {rest more : Text}
    (h : printedTail forest ++ rest = printedTail others ++ more) :
    RelatedAll PrintsAlike forest others ∧ rest = more := by
  cases forest with
  | nil =>
      cases others with
      | nil => exact ⟨trivial, (List.cons.inj h).2⟩
      | cons f others => cases (List.cons.inj h).1
  | cons e forest =>
      cases others with
      | nil => cases (List.cons.inj h).1
      | cons f others =>
          simp only [printedTail, List.cons_append, List.append_assoc, List.cons.injEq, true_and]
            at h
          obtain ⟨first, behind⟩ := related_of_printed_append e f h
          obtain ⟨later, same⟩ := relatedAll_of_printedTail_append forest others behind
          exact ⟨⟨first, later⟩, same⟩

end

mutual

/-- Expressions with literals that are printed alike are printed alike. -/
theorem printed_eq_of_related (a b : Expr) (h : Related PrintsAlike a b) :
    a.printed = b.printed := by
  cases a with
  | atom l =>
      cases b with
      | atom m => rw [printed_atom, printed_atom, Literal.printed_eq_of_printsAlike h]
      | list others => exact h.elim
  | list items =>
      cases b with
      | atom m => exact h.elim
      | list others => rw [printed_list, printed_list, printedAll_eq_of_relatedAll items others h]

theorem printedAll_eq_of_relatedAll (forest others : List Expr)
    (h : RelatedAll PrintsAlike forest others) : printedAll forest = printedAll others := by
  cases forest with
  | nil =>
      cases others with
      | nil => rfl
      | cons f others => exact h.elim
  | cons e rest =>
      cases others with
      | nil => exact h.elim
      | cons f others =>
          rw [printedAll, printedAll, printed_eq_of_related e f h.1,
            printedAll_eq_of_relatedAll rest others h.2]

end

theorem printed_eq_iff {a b : Expr} :
    a.printed = b.printed ↔
      a.shape = b.shape ∧ List.Forall₂ PrintsAlike a.leaves b.leaves := by
  rw [← related_iff]
  constructor
  · intro h
    have same : a.printed ++ [] = b.printed ++ [] := by rw [h]
    exact (related_of_printed_append a b same).1
  · exact printed_eq_of_related a b

/-! ### The characters of the text -/

/-- The characters that are printed between the texts of a tuple and around them. -/
def tupleMarks : Text := ['(', ')', ',', ' ']

theorem mem_commaSeparated {texts : List Text} {c : Char}
    (member : c ∈ Text.commaSeparated texts) : c ∈ tupleMarks ∨ ∃ t ∈ texts, c ∈ t := by
  induction texts with
  | nil => cases member
  | cons t rest ih =>
      cases rest with
      | nil =>
          rw [Text.commaSeparated, List.intercalate_singleton] at member
          exact .inr ⟨t, List.mem_cons_self, member⟩
      | cons u rest =>
          rw [Text.commaSeparated, List.intercalate_cons_cons, List.append_assoc,
            List.mem_append, List.mem_append] at member
          rcases member with own | comma | later
          · exact .inr ⟨t, List.mem_cons_self, own⟩
          · exact .inl (List.mem_cons_of_mem _ (List.mem_cons_of_mem _ comma))
          · rcases ih later with mark | ⟨v, other, inside⟩
            · exact .inl mark
            · exact .inr ⟨v, List.mem_cons_of_mem t other, inside⟩

theorem mem_tuple {texts : List Text} {c : Char} (member : c ∈ Text.tuple texts) :
    c ∈ tupleMarks ∨ ∃ t ∈ texts, c ∈ t := by
  unfold Text.tuple at member
  split at member
  · next t =>
      by_cases own : c ∈ t
      · exact .inr ⟨t, List.mem_singleton_self t, own⟩
      · grind [tupleMarks]
  · by_cases inside : c ∈ Text.commaSeparated texts
    · exact mem_commaSeparated inside
    · grind [tupleMarks]

mutual

/-- The text of an expression holds printable characters only. -/
theorem isPrintable_of_mem_printed (e : Expr) :
    ∀ c ∈ e.printed, Text.isPrintable c = true := by
  cases e with
  | atom l =>
      exact Literal.isPrintable_of_mem_named (List.all_eq_true.1 (by decide))
        l.isPrintable_of_mem_printed
  | list items =>
      have marks : ∀ c ∈ tupleMarks, Text.isPrintable c = true := List.all_eq_true.1 (by decide)
      have inside : ∀ c ∈ Text.tuple (printedAll items), Text.isPrintable c = true := by
        intro c member
        rcases mem_tuple member with mark | ⟨t, item, own⟩
        · exact marks c mark
        · exact isPrintable_of_mem_printedAll items t item c own
      exact Literal.isPrintable_of_mem_named (List.all_eq_true.1 (by decide)) inside

theorem isPrintable_of_mem_printedAll (forest : List Expr) :
    ∀ t ∈ printedAll forest, ∀ c ∈ t, Text.isPrintable c = true := by
  cases forest with
  | nil => simp [printedAll]
  | cons e rest =>
      have first := isPrintable_of_mem_printed e
      have later := isPrintable_of_mem_printedAll rest
      simpa [printedAll] using ⟨first, later⟩

end

/-! ### Expressions that can be printed -/

/-- Whether each integer of an expression has at most as many digits as are printed. -/
def HasShortIntegers (e : Expr) : Prop :=
  ∀ n, .int n ∈ e.leaves → (Nat.toDigits 10 n.natAbs).length ≤ Literal.digitLimit

theorem isPrintable_iff {e : Expr} : e.isPrintable = true ↔ e.HasShortIntegers := by
  have short {n : Int} : (Literal.int n).isPrintable = true ↔
      (Nat.toDigits 10 n.natAbs).length ≤ Literal.digitLimit := by
    rw [Nat.length_toDigits_le_iff (by decide) (by decide), Literal.isPrintable,
      decide_eq_true_iff]
  rw [isPrintable, List.all_eq_true]
  constructor
  · intro h n member
    exact short.1 (h _ member)
  · intro h l member
    cases l with
    | int n => exact short.2 (h n member)
    | _ => rfl

theorem print?_of_hasShortIntegers {e : Expr} (h : e.HasShortIntegers) :
    e.print? = some e.printed := by
  rw [print?, if_pos (isPrintable_iff.2 h)]

/-- Printing is faithful and fits on one line: expressions whose integers are not too long are
printed alike exactly if they have the same shape and the same literals in the same places, any two
doubles that are no number counting as the same; and what is printed is made of printable
characters, none of which ends a line. -/
theorem print?_faithful :
    (∀ a b : Expr, a.HasShortIntegers → b.HasShortIntegers →
      (a.print? = b.print? ↔
        a.shape = b.shape ∧ List.Forall₂ Literal.PrintsAlike a.leaves b.leaves)) ∧
    ∀ e : Expr, e.HasShortIntegers → ∃ t, e.print? = some t ∧
      ∀ c ∈ t, Text.isPrintable c = true ∧ c ∉ Text.lineSeparators := by
  constructor
  · intro a b shortA shortB
    rw [print?_of_hasShortIntegers shortA, print?_of_hasShortIntegers shortB, Option.some.injEq]
    exact printed_eq_iff
  · intro e short
    refine ⟨e.printed, print?_of_hasShortIntegers short, ?_⟩
    intro c member
    have printable := isPrintable_of_mem_printed e c member
    exact ⟨printable, Text.not_mem_lineSeparators_of_isPrintable printable⟩

/-- A list with a name that looks like the end of one, an integer and a double. -/
def deceptive (x : Binary64) : Expr :=
  list [atom (.var "',)".toList), atom (.int (-7)), atom (.float x)]

/-- Two doubles that are no number are printed alike, and the two zeros are not. -/
theorem print?_faithful_doubles :
    (∀ n, .int n ∈ (deceptive ⟨true, 0x7FF8000000000000, by decide⟩).leaves →
        (Nat.toDigits 10 n.natAbs).length ≤ 4300) ∧
      (deceptive ⟨true, 0x7FF8000000000000, by decide⟩).print? =
        (deceptive ⟨false, 0x7FF0000000000001, by decide⟩).print? ∧
      (deceptive ⟨true, 0, by decide⟩).print? ≠ (deceptive ⟨false, 0, by decide⟩).print? ∧
      ∃ t, (deceptive ⟨true, 0, by decide⟩).print? = some t ∧
        ∀ c ∈ t, Text.isPrintable c = true ∧ c ∉ Text.lineSeparators := by
  have short (x : Binary64) : (deceptive x).HasShortIntegers := by
    intro n member
    obtain rfl : n = -7 := by simpa [deceptive, leaves, leavesAll] using member
    decide
  refine ⟨short _, ?_, ?_, print?_faithful.2 _ (short _)⟩
  · refine (print?_faithful.1 _ _ (short _) (short _)).2 ⟨rfl, ?_⟩
    exact .cons (.inl rfl) (.cons (.inl rfl) (.cons (.inr ⟨rfl, rfl⟩) .nil))
  · intro same
    obtain ⟨-, alike⟩ := (print?_faithful.1 _ _ (short _) (short _)).1 same
    rcases alike with _ | ⟨-, _ | ⟨-, _ | ⟨sign | ⟨nan, -⟩, -⟩⟩⟩
    · cases sign
    · cases nan

end Expr

end Sexpr

import Sexpr.Literal.Kind
import Sexpr.Literal.Printed
import Sexpr.Proofs.Binary64.Printed
import Sexpr.Proofs.Text.Quoted

/-!
# The text of a literal tells the literal

The name in front tells the kind. A number ends before the first bracket, a text at its delimiter;
so the text of a literal tells the literal, up to the difference between doubles that are no number,
and where it ends, whatever follows it.
-/

namespace Sexpr.Literal

/-- Whether two literals are the same, or both are doubles that are no number. -/
def PrintsAlike (l m : Literal) : Prop := l = m ∨ (l.isNaN = true ∧ m.isNaN = true)

/-- The first letter of the name of a kind. -/
def Kind.initial : Kind → Char
  | .int => 'I'
  | .float => 'F'
  | .bool => 'B'
  | .string => 'S'
  | .var => 'V'

theorem Kind.initial_injective : ∀ {k l : Kind}, k.initial = l.initial → k = l := by
  intro k l h
  cases k <;> cases l <;> first | rfl | cases h

theorem head?_printed (l : Literal) (rest : Text) :
    (l.printed ++ rest).head? = some l.kind.initial := by
  cases l with
  | bool b => cases b <;> rfl
  | _ => rfl

theorem kind_eq_of_printed_append {l m : Literal} {rest more : Text}
    (h : l.printed ++ rest = m.printed ++ more) : l.kind = m.kind := by
  have heads := congrArg List.head? h
  rw [head?_printed, head?_printed] at heads
  exact Kind.initial_injective (Option.some.inj heads)

theorem bracket_not_mem_ofInt (n : Int) : ')' ∉ Numeral.ofInt n := by
  have digits := (Numeral.isDigits_toDigits n.natAbs).2
  have absent : ')' ∉ Nat.toDigits 10 n.natAbs := by
    intro member
    exact absurd (digits ')' member) (by decide)
  rw [Numeral.ofInt_eq_signed, Numeral.signed]
  split
  · simpa using absent
  · exact absent

theorem bracket_not_mem_printed (x : Binary64) : ')' ∉ x.printed := by
  intro member
  rcases Binary64.mem_printed ')' member with digit | symbol
  · exact absurd digit (by decide)
  · exact absurd symbol (by decide)

theorem ofInt_injective {m n : Int} (h : Numeral.ofInt m = Numeral.ofInt n) : m = n := by
  have read := Numeral.int?_ofInt m
  rw [h, Numeral.int?_ofInt] at read
  exact (Option.some.inj read).symm

/-- A text without a closing bracket ends before the first one. -/
theorem append_bracket_inj {t u rest more : Text} (ht : ')' ∉ t) (hu : ')' ∉ u)
    (h : t ++ ')' :: rest = u ++ ')' :: more) : t = u ∧ rest = more := by
  have stop (behind : Text) : ∀ c ∈ (')' :: behind).head?, (c != ')') = false := by simp
  have front := congrArg (List.takeWhile (· != ')')) h
  have back := congrArg (List.dropWhile (· != ')')) h
  rw [Text.takeWhile_append_of_head (Text.bne_of_not_mem ht) (stop rest),
    Text.takeWhile_append_of_head (Text.bne_of_not_mem hu) (stop more)] at front
  rw [Text.dropWhile_append_of_head (Text.bne_of_not_mem ht) (stop rest),
    Text.dropWhile_append_of_head (Text.bne_of_not_mem hu) (stop more)] at back
  exact ⟨front, (List.cons.inj back).2⟩

theorem eq_of_printed_bool_append {p q : Bool} {rest more : Text}
    (h : (bool p).printed ++ rest = (bool q).printed ++ more) : p = q ∧ rest = more := by
  have yes : (bool true).printed = "BoolLiteral(value=".toList ++ "True)".toList := by decide
  have no : (bool false).printed = "BoolLiteral(value=".toList ++ "False)".toList := by decide
  have other (r s : Text) : (bool true).printed ++ r ≠ (bool false).printed ++ s := by
    intro same
    rw [yes, no, List.append_assoc, List.append_assoc] at same
    cases (congrArg List.head? (List.append_cancel_left same) : some 'T' = some 'F')
  cases p with
  | true =>
      cases q with
      | true => exact ⟨rfl, List.append_cancel_left h⟩
      | false => exact absurd h (other rest more)
  | false =>
      cases q with
      | true => exact absurd h.symm (other more rest)
      | false => exact ⟨rfl, List.append_cancel_left h⟩

/-- The text of a literal tells the literal, and where it ends. -/
theorem printsAlike_of_printed_append {l m : Literal} {rest more : Text}
    (h : l.printed ++ rest = m.printed ++ more) : l.PrintsAlike m ∧ rest = more := by
  have kinds := kind_eq_of_printed_append h
  cases l with
  | int n =>
      cases m with
      | int k =>
          simp only [printed_int, List.append_assoc, List.append_cancel_left_eq] at h
          obtain ⟨same, behind⟩ :=
            append_bracket_inj (bracket_not_mem_ofInt n) (bracket_not_mem_ofInt k) h
          exact ⟨.inl (congrArg int (ofInt_injective same)), behind⟩
      | _ => cases kinds
  | float x =>
      cases m with
      | float y =>
          simp only [printed_float, List.append_assoc, List.append_cancel_left_eq] at h
          obtain ⟨same, behind⟩ :=
            append_bracket_inj (bracket_not_mem_printed x) (bracket_not_mem_printed y) h
          rcases Binary64.printed_eq_iff.1 same with rfl | nan
          · exact ⟨.inl rfl, behind⟩
          · exact ⟨.inr nan, behind⟩
      | _ => cases kinds
  | bool p =>
      cases m with
      | bool q =>
          obtain ⟨rfl, behind⟩ := eq_of_printed_bool_append h
          exact ⟨.inl rfl, behind⟩
      | _ => cases kinds
  | string t =>
      cases m with
      | string u =>
          simp only [printed_string, List.append_assoc, List.append_cancel_left_eq] at h
          obtain ⟨rfl, behind⟩ := Text.quoted_append_inj h
          exact ⟨.inl rfl, List.append_cancel_left behind⟩
      | _ => cases kinds
  | var t =>
      cases m with
      | var u =>
          simp only [printed_var, List.append_assoc, List.append_cancel_left_eq] at h
          obtain ⟨rfl, behind⟩ := Text.quoted_append_inj h
          exact ⟨.inl rfl, List.append_cancel_left behind⟩
      | _ => cases kinds

/-- Literals that are alike are printed in the same way. -/
theorem printed_eq_of_printsAlike {l m : Literal} (h : l.PrintsAlike m) :
    l.printed = m.printed := by
  rcases h with rfl | ⟨nanL, nanM⟩
  · rfl
  · cases l with
    | float x =>
        cases m with
        | float y => rw [printed_float, printed_float, Binary64.printed_eq_iff.2 (.inr ⟨nanL, nanM⟩)]
        | _ => cases nanM
    | _ => cases nanL

/-! ### The characters of the text -/

theorem isPrintable_of_mem_ofInt {n : Int} : ∀ c ∈ Numeral.ofInt n, Text.isPrintable c = true := by
  have digits := (Numeral.isDigits_toDigits n.natAbs).2
  intro c member
  rw [Numeral.ofInt_eq_signed, Numeral.signed] at member
  split at member
  · rcases List.mem_cons.1 member with rfl | digit
    · decide
    · exact Text.isPrintable_of_isDigit (digits c digit)
  · exact Text.isPrintable_of_isDigit (digits c member)

theorem isPrintable_of_mem_double {x : Binary64} :
    ∀ c ∈ x.printed, Text.isPrintable c = true := by
  have symbols : ∀ c ∈ Binary64.printedSymbols, Text.isPrintable c = true :=
    List.all_eq_true.1 (by decide)
  intro c member
  rcases Binary64.mem_printed c member with digit | symbol
  · exact Text.isPrintable_of_isDigit digit
  · exact symbols c symbol

/-- A text between a name and a bracket is printable if it is printable by itself. -/
theorem isPrintable_of_mem_named {name inside : Text}
    (named : ∀ c ∈ name, Text.isPrintable c = true)
    (printable : ∀ c ∈ inside, Text.isPrintable c = true) :
    ∀ c ∈ name ++ inside ++ [')'], Text.isPrintable c = true := by
  intro c member
  rcases List.mem_append.1 member with member | last
  · exact (List.mem_append.1 member).elim (named c) (printable c)
  · rw [List.mem_singleton.1 last]
    decide

/-- The text of a literal holds printable characters only. -/
theorem isPrintable_of_mem_printed (l : Literal) :
    ∀ c ∈ l.printed, Text.isPrintable c = true := by
  cases l with
  | int n =>
      exact isPrintable_of_mem_named (List.all_eq_true.1 (by decide)) isPrintable_of_mem_ofInt
  | float x =>
      exact isPrintable_of_mem_named (List.all_eq_true.1 (by decide)) isPrintable_of_mem_double
  | bool b => cases b <;> exact List.all_eq_true.1 (by decide)
  | string t =>
      exact isPrintable_of_mem_named (List.all_eq_true.1 (by decide)) Text.isPrintable_of_mem_quoted
  | var t =>
      exact isPrintable_of_mem_named (List.all_eq_true.1 (by decide)) Text.isPrintable_of_mem_quoted

end Sexpr.Literal

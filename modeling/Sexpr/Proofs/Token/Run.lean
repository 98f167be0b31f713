import Sexpr.Text.Escaped
import Sexpr.Token.Lexer

/-!
# Runs of the lexer

What the lexer does over a whole word, over the inside of a string and over a comment. Each of these
runs stays in its mode and completes no token; the characters that start and end them are single
steps.
-/

namespace Sexpr.Token

theorem isPlain_eq_false_iff {c : Char} :
    isPlain c = false ↔ Text.isBlank c = true ∨ c = '(' ∨ c = ')' ∨ c = '"' ∨ c = ';' := by
  cases blank : Text.isBlank c with
  | true => simp [isPlain, blank]
  | false => grind [isPlain]

theorem isPlain_of_isBlank {c : Char} (blank : Text.isBlank c = true) : isPlain c = false :=
  isPlain_eq_false_iff.2 (.inl blank)

namespace Lexer

theorem step_word_of_isPlain {c : Char} (plain : isPlain c = true) (recent : Text)
    (tokens : List Token) : step ⟨.word recent, tokens⟩ c = ⟨.word (c :: recent), tokens⟩ := by
  simp [step, plain]

theorem step_word_of_not_isPlain {c : Char} (delimiter : isPlain c = false) (recent : Text)
    (tokens : List Token) : step ⟨.word recent, tokens⟩ c = delimit recent tokens c := by
  simp [step, delimiter]

theorem step_word_of_isBlank {c : Char} (blank : Text.isBlank c = true) (recent : Text)
    (tokens : List Token) :
    step ⟨.word recent, tokens⟩ c = ⟨.word [], tokensWith recent tokens⟩ := by
  rw [step_word_of_not_isPlain (isPlain_of_isBlank blank)]
  unfold delimit
  split
  -- The brackets, the quote and the semicolon are not blank.
  all_goals first | rfl | exact absurd blank (by decide)

theorem step_quoted_of_ne {c : Char} (quote : c ≠ '"') (recent : Text) (tokens : List Token) :
    step ⟨.quoted recent false, tokens⟩ c = ⟨.quoted (c :: recent) (c == '\\'), tokens⟩ := by
  simp [step, quote]

theorem step_quoted_quote (recent : Text) (tokens : List Token) :
    step ⟨.quoted recent false, tokens⟩ '"' =
      ⟨.word [], .atom ('"' :: recent).reverse :: tokens⟩ := rfl

theorem step_comment_of_ne {c : Char} (inside : c ≠ '\n') (tokens : List Token) :
    step ⟨.comment, tokens⟩ c = ⟨.comment, tokens⟩ := by
  simp [step, inside]

theorem run_word {word : Text} (plain : ∀ c ∈ word, isPlain c = true) (recent : Text)
    (tokens : List Token) :
    run ⟨.word recent, tokens⟩ word = ⟨.word (word.reverse ++ recent), tokens⟩ := by
  induction word generalizing recent with
  | nil => rfl
  | cons c rest ih =>
      have first : isPlain c = true := plain c List.mem_cons_self
      have later : ∀ d ∈ rest, isPlain d = true := fun d member =>
        plain d (List.mem_cons_of_mem c member)
      rw [run_cons, step_word_of_isPlain first, ih later, List.reverse_cons, List.append_assoc]
      rfl

theorem run_quoted {body : Text} (escaped : body.IsEscaped) (recent : Text)
    (tokens : List Token) :
    run ⟨.quoted recent false, tokens⟩ body = ⟨.quoted (body.reverse ++ recent) false, tokens⟩ := by
  induction escaped generalizing recent with
  | nil => rfl
  | @cons c rest quote backslash _ ih =>
      have plain : (c == '\\') = false := by simp [backslash]
      rw [run_cons, step_quoted_of_ne quote, plain, ih, List.reverse_cons, List.append_assoc]
      rfl
  | @escape c rest _ ih =>
      have taken : step (step ⟨.quoted recent false, tokens⟩ '\\') c =
          ⟨.quoted (c :: '\\' :: recent) false, tokens⟩ := rfl
      rw [run_cons, run_cons, taken, ih, List.reverse_cons, List.reverse_cons, List.append_assoc,
        List.append_assoc]
      rfl

theorem run_comment {body : Text} (inside : '\n' ∉ body) (tokens : List Token) :
    run ⟨.comment, tokens⟩ body = ⟨.comment, tokens⟩ := by
  induction body with
  | nil => rfl
  | cons c rest ih =>
      rw [List.mem_cons, not_or] at inside
      obtain ⟨first, later⟩ := inside
      rw [run_cons, step_comment_of_ne (Ne.symm first), ih later]

/-- A string, from quote to quote, ends the word before it and is a token. -/
theorem run_string {body : Text} (escaped : body.IsEscaped) (recent : Text)
    (tokens : List Token) :
    run ⟨.word recent, tokens⟩ ('"' :: body ++ ['"']) =
      ⟨.word [], .atom ('"' :: body ++ ['"']) :: tokensWith recent tokens⟩ := by
  have opened : step ⟨.word recent, tokens⟩ '"' =
      ⟨.quoted ['"'] false, tokensWith recent tokens⟩ := rfl
  rw [List.cons_append, run_cons, opened, run_append, run_quoted escaped, run_cons,
    step_quoted_quote, run_nil]
  simp

end Lexer

end Sexpr.Token

import Sexpr.Proofs.Reader.Run
import Sexpr.Proofs.Token.Parts

/-!
# The tokens of a source text

The lexer finds the tokens that the parts of a source text stand for, and it fails exactly on the
texts that end in a string that is not closed. A word is complete only when the next item or the end
of the text is reached, so what has been read includes the word read last.
-/

namespace Sexpr

namespace Token

namespace Item

/-- Whether the item ends by itself: a word ends where another item starts, and a comment may end
with the text. -/
def IsClosed : Item → Prop
  | .word _ | .openComment _ => False
  | _ => True

theorem text_of_token?_eq_some {item : Item} {token : Token} (h : item.token? = some token) :
    token.text = item.text := by
  cases item <;> simp only [token?, Option.some.injEq, reduceCtorEq] at h
  all_goals
    subst h
    rfl

end Item

namespace Parts

/-- The tokens among the parts, unless the source text ends in a string that is not closed. -/
def tokens? (parts : Parts) : Option (List Token) :=
  match parts.unclosed with
  | none => some parts.tokens
  | some _ => none

theorem tokens?_cons (item : Item) (items : List Item) (unclosed : Option Text) :
    tokens? ⟨item :: items, unclosed⟩ =
      (tokens? ⟨items, unclosed⟩).map (item.token?.toList ++ ·) := by
  cases unclosed with
  | some body => rfl
  | none => cases found : item.token? <;> simp [tokens?, tokens, found]

theorem text_tokens (parts : Parts) : parts.tokens.map Token.text =
    (parts.items.filter fun item => item.token?.isSome).map Item.text := by
  obtain ⟨items, unclosed⟩ := parts
  induction items with
  | nil => rfl
  | cons item items ih =>
      unfold tokens at ih ⊢
      cases found : item.token? with
      | none => simpa [found] using ih
      | some token => simpa [found, Item.text_of_token?_eq_some found] using ih

end Parts

namespace Lexer

/-- An item that ends by itself ends the word before it, and leaves its token. -/
theorem run_item {item : Item} (valid : item.IsValid) (closed : item.IsClosed) (recent : Text)
    (tokens : List Token) : run ⟨.word recent, tokens⟩ item.text =
      ⟨.word [], item.token?.toList ++ tokensWith recent tokens⟩ := by
  cases item with
  | blank c => exact step_word_of_isBlank valid recent tokens
  | lparen => rfl
  | rparen => rfl
  | quoted body => exact run_string valid recent tokens
  | comment body =>
      have opened : step ⟨.word recent, tokens⟩ ';' =
          ⟨.comment, tokensWith recent tokens⟩ := rfl
      rw [Item.text, List.cons_append, run_cons, opened, run_append, run_comment valid]
      rfl
  | word t => exact absurd closed id
  | openComment body => exact absurd closed id

theorem finish?_run_openComment {body : Text} (inside : '\n' ∉ body) (recent : Text)
    (tokens : List Token) : (run ⟨.word recent, tokens⟩ (';' :: body)).finish? =
      some (tokensWith recent tokens).reverse := by
  have opened : step ⟨.word recent, tokens⟩ ';' = ⟨.comment, tokensWith recent tokens⟩ := rfl
  rw [run_cons, opened, run_comment inside]
  rfl

theorem finish?_run_unclosed {body : Text} (unclosed : Text.IsUnclosed body) (recent : Text)
    (tokens : List Token) : (run ⟨.word recent, tokens⟩ ('"' :: body)).finish? = none := by
  have opened : step ⟨.word recent, tokens⟩ '"' =
      ⟨.quoted ['"'] false, tokensWith recent tokens⟩ := rfl
  rw [run_cons, opened]
  obtain ⟨inside, escaped, rfl | rfl⟩ := unclosed
  · rw [run_quoted escaped]
    rfl
  · rw [run_append, run_quoted escaped]
    rfl

/-- What the lexer makes of the parts of a text, behind a word that does not go on into them. -/
theorem finish?_run_text {items : List Item} {unclosed : Option Text}
    (valid : Parts.IsValid ⟨items, unclosed⟩) (recent : Text) (tokens : List Token)
    (ends : recent ≠ [] → (Item.word recent).EndsBefore (Parts.text ⟨items, unclosed⟩)) :
    (run ⟨.word recent, tokens⟩ (Parts.text ⟨items, unclosed⟩)).finish? =
      (Parts.tokens? ⟨items, unclosed⟩).map ((tokensWith recent tokens).reverse ++ ·) := by
  induction items generalizing recent tokens with
  | nil =>
      cases unclosed with
      | none => simp [Parts.text, Parts.tokens?, Parts.tokens, finish?]
      | some body =>
          exact finish?_run_unclosed (Parts.isValid_nil_iff.1 valid body rfl) recent tokens
  | cons item items ih =>
      obtain ⟨contents, endsItem, validRest⟩ := Parts.isValid_cons_iff.1 valid
      have closedCase (closed : item.IsClosed) :
          (run ⟨.word recent, tokens⟩ (Parts.text ⟨item :: items, unclosed⟩)).finish? =
            (Parts.tokens? ⟨item :: items, unclosed⟩).map
              ((tokensWith recent tokens).reverse ++ ·) := by
        rw [Parts.text_cons, run_append, run_item contents closed,
          ih validRest [] _ (fun absent => absurd rfl absent), Parts.tokens?_cons,
          Option.map_map]
        cases item.token? <;> simp [tokensWith, Function.comp_def]
      cases item with
      | word t =>
          rw [Parts.text_cons] at ends
          obtain rfl : recent = [] := Classical.byContradiction fun present =>
            Item.not_endsBefore_word contents (ends present)
          obtain ⟨nonempty, plain⟩ := contents
          have word : t.isEmpty = false := by simpa using nonempty
          rw [Parts.text_cons, run_append, Item.text, run_word plain, List.append_nil,
            ih validRest t.reverse tokens (fun _ => endsItem), Parts.tokens?_cons, Option.map_map]
          simp [tokensWith, Item.token?, word, Function.comp_def]
      | openComment body =>
          have last : Parts.mk items unclosed = ⟨[], none⟩ :=
            Parts.eq_of_text_eq validRest (Parts.isValid_nil_iff.2 (by simp)) endsItem
          rw [Parts.text_cons, Parts.tokens?_cons, last]
          simpa [Parts.text, Parts.tokens?, Parts.tokens, Item.text, Item.token?] using
            finish?_run_openComment contents recent tokens
      | _ => exact closedCase trivial

end Lexer

end Token

open Token

/-- The tokens of a source text are those of its parts. -/
theorem tokens?_text {parts : Parts} (valid : parts.IsValid) :
    tokens? parts.text = parts.tokens? := by
  have found := Lexer.finish?_run_text valid [] [] (fun absent => absurd rfl absent)
  simpa [tokens?, Lexer.tokensWith] using found

/-- Each source text has exactly one decomposition into blanks, brackets, words, strings and
comments, with or without a string at its end that is not closed. With such a string the text has no
tokens, and reading it fails with that error; otherwise its tokens are the brackets, words and
strings of the decomposition, as they are written there and in their order. -/
theorem existsUnique_parts (source : Text) :
    ∃ parts : Parts, parts.IsValid ∧ parts.text = source ∧
      (∀ other : Parts, other.IsValid → other.text = source → other = parts) ∧
      match parts.unclosed with
      | some _ => tokens? source = none ∧
          (readSource source).outcome.mapError ReadError.message =
            .error "Unterminated string".toList
      | none => tokens? source = some parts.tokens ∧
          parts.tokens.map Token.text =
            (parts.items.filter fun item => item.token?.isSome).map Item.text := by
  obtain ⟨⟨items, unclosed⟩, valid, rfl⟩ := Parts.exists_isValid source
  refine ⟨_, valid, rfl, fun other validOther => Parts.eq_of_text_eq validOther valid, ?_⟩
  have found := tokens?_text valid
  cases unclosed with
  | some body =>
      refine ⟨found, ?_⟩
      rw [readSource, found]
      rfl
  | none => exact ⟨found, Parts.text_tokens _⟩

end Sexpr

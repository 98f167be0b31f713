import Sexpr.Proofs.Token.Tokens

/-!
# The tokens of a longer text

More text leaves the complete tokens as they are, and its own tokens come behind them. Only a word
at the very end of a text goes on into the text behind it; a line feed ends such a word, and a
comment as well.
-/

namespace Sexpr

namespace Token

namespace Lexer

/-- The same state with tokens that were complete before, latest first. -/
def behind (s : Lexer) (done : List Token) : Lexer := { s with tokens := s.tokens ++ done }

theorem tokensWith_append (word : Text) (tokens done : List Token) :
    tokensWith word (tokens ++ done) = tokensWith word tokens ++ done := by
  unfold tokensWith
  split <;> rfl

theorem delimit_append (word : Text) (tokens done : List Token) (c : Char) :
    delimit word (tokens ++ done) c = (delimit word tokens c).behind done := by
  unfold delimit behind
  rw [tokensWith_append]
  split <;> rfl

/-- A step does not look at the tokens that are complete. -/
theorem step_behind (s : Lexer) (done : List Token) (c : Char) :
    (s.behind done).step c = (s.step c).behind done := by
  obtain ⟨mode, tokens⟩ := s
  cases mode with
  | word recent =>
      cases plain : isPlain c with
      | true =>
          rw [behind, step_word_of_isPlain plain, step_word_of_isPlain plain]
          rfl
      | false =>
          rw [behind, step_word_of_not_isPlain plain, step_word_of_not_isPlain plain]
          exact delimit_append recent tokens done c
  | quoted recent escaped =>
      cases escaped with
      | true => rfl
      | false =>
          by_cases quote : c = '"'
          · subst quote
            rfl
          · rw [behind, step_quoted_of_ne quote, step_quoted_of_ne quote]
            rfl
  | comment =>
      by_cases ending : c = '\n'
      · subst ending
        rfl
      · rw [behind, step_comment_of_ne ending, step_comment_of_ne ending]
        rfl

theorem run_behind (s : Lexer) (done : List Token) (source : Text) :
    (s.behind done).run source = (s.run source).behind done := by
  induction source generalizing s with
  | nil => rfl
  | cons c rest ih => rw [run_cons, run_cons, step_behind, ih]

theorem finish?_behind (s : Lexer) (done : List Token) :
    (s.behind done).finish? = s.finish?.map (done.reverse ++ ·) := by
  obtain ⟨mode, tokens⟩ := s
  cases mode with
  | word recent => simp only [behind, finish?, tokensWith_append, List.reverse_append,
      Option.map_some]
  | quoted recent escaped => rfl
  | comment => simp only [behind, finish?, List.reverse_append, Option.map_some]

/-- The tokens of a text that is read behind complete tokens come behind those. -/
theorem finish?_run_eq_map (mode : Mode) (done : List Token) (source : Text) :
    (run ⟨mode, done⟩ source).finish? =
      (run ⟨mode, []⟩ source).finish?.map (done.reverse ++ ·) := by
  have separated : (⟨mode, done⟩ : Lexer) = behind ⟨mode, []⟩ done := rfl
  rw [separated, run_behind, finish?_behind]

/-- No complete token is lost, whatever text is read behind it. -/
theorem isPrefix_of_finish?_run {mode : Mode} {done found : List Token} {source : Text}
    (h : (run ⟨mode, done⟩ source).finish? = some found) : done.reverse <+: found := by
  rw [finish?_run_eq_map, Option.map_eq_some_iff] at h
  obtain ⟨more, -, rfl⟩ := h
  exact List.prefix_append _ _

theorem tokensWith_of_ne_nil {word : Text} (present : word ≠ []) (tokens : List Token) :
    tokensWith word tokens = .atom word.reverse :: tokens := by
  rw [tokensWith, if_neg (by simpa using present)]

theorem delimit_tokens (word : Text) (tokens : List Token) (c : Char) :
    ∃ mode brackets, delimit word tokens c = ⟨mode, brackets ++ tokensWith word tokens⟩ := by
  unfold delimit
  split
  · exact ⟨_, [.lparen], rfl⟩
  · exact ⟨_, [.rparen], rfl⟩
  · exact ⟨_, [], rfl⟩
  · exact ⟨_, [], rfl⟩
  · exact ⟨_, [], rfl⟩

/-- A word goes on as far as the text behind it has plain characters, and is a token then. -/
theorem isPrefix_of_finish?_run_word {word : Text} (present : word ≠ []) {done found : List Token}
    {source : Text} (h : (run ⟨.word word, done⟩ source).finish? = some found) :
    done.reverse ++ [.atom (word.reverse ++ source.takeWhile isPlain)] <+: found := by
  induction source generalizing word with
  | nil =>
      obtain rfl := Option.some.inj h
      simp [tokensWith_of_ne_nil present]
  | cons c rest ih =>
      cases plain : isPlain c with
      | true =>
          rw [run_cons, step_word_of_isPlain plain] at h
          simpa [plain] using ih (List.cons_ne_nil c word) h
      | false =>
          obtain ⟨mode, brackets, delimited⟩ := delimit_tokens word done c
          rw [run_cons, step_word_of_not_isPlain plain, delimited] at h
          have kept := isPrefix_of_finish?_run h
          rw [List.reverse_append, tokensWith_of_ne_nil present, List.reverse_cons] at kept
          rw [List.takeWhile_cons_of_neg (by simp [plain]), List.append_nil]
          exact (List.prefix_append _ _).trans kept

/-- A line feed ends a word and a comment. -/
theorem step_lineFeed {s : Lexer} {tokens : List Token} (found : s.finish? = some tokens) :
    s.step '\n' = ⟨.word [], tokens.reverse⟩ := by
  obtain ⟨mode, done⟩ := s
  cases mode with
  | word recent =>
      obtain rfl := Option.some.inj found
      rw [step_word_of_isBlank (by decide), List.reverse_reverse]
  | quoted recent escaped => cases found
  | comment =>
      obtain rfl := Option.some.inj found
      rw [List.reverse_reverse]
      rfl

/-- A word that the lexer is in at the end of a text is the last item of the text. -/
theorem getLast?_of_run_text {items : List Item} (valid : Parts.IsValid ⟨items, none⟩)
    {recent word : Text} {tokens done : List Token}
    (ends : recent ≠ [] → (Item.word recent).EndsBefore (Parts.text ⟨items, none⟩))
    (ran : run ⟨.word recent, tokens⟩ (Parts.text ⟨items, none⟩) = ⟨.word word, done⟩) :
    word = [] ∨ (items = [] ∧ word = recent) ∨ items.getLast? = some (.word word.reverse) := by
  induction items generalizing recent tokens with
  | nil =>
      have same : Mode.word recent = .word word := congrArg Lexer.mode ran
      exact .inr (.inl ⟨rfl, (Mode.word.inj same).symm⟩)
  | cons item items ih =>
      obtain ⟨contents, endsItem, validRest⟩ := Parts.isValid_cons_iff.1 valid
      rw [Parts.text_cons, run_append] at ran
      -- A last item of the others is the last item of all.
      have later (last : items.getLast? = some (.word word.reverse)) :
          (item :: items).getLast? = some (.word word.reverse) := by
        simp [List.getLast?_cons, last]
      have closedCase (closed : item.IsClosed) : word = [] ∨
          (item :: items).getLast? = some (.word word.reverse) := by
        rw [run_item contents closed] at ran
        rcases ih validRest (fun absent => absurd rfl absent) ran with empty | ⟨-, empty⟩ | last
        · exact .inl empty
        · exact .inl empty
        · exact .inr (later last)
      cases item with
      | word t =>
          rw [Parts.text_cons] at ends
          obtain rfl : recent = [] := Classical.byContradiction fun present =>
            Item.not_endsBefore_word contents (ends present)
          rw [Item.text, run_word contents.2, List.append_nil] at ran
          have endsWord : (Item.word t.reverse).EndsBefore (Parts.text ⟨items, none⟩) := endsItem
          rcases ih validRest (fun _ => endsWord) ran with empty | ⟨rfl, rfl⟩ | last
          · exact .inl empty
          · refine .inr (.inr ?_)
            rw [List.reverse_reverse]
            rfl
          · exact .inr (.inr (later last))
      | openComment body =>
          -- Nothing follows, so the lexer would still be in the comment.
          have rest : Parts.text ⟨items, none⟩ = [] := endsItem
          have opened : step ⟨.word recent, tokens⟩ ';' = ⟨.comment, tokensWith recent tokens⟩ := rfl
          rw [rest, Item.text, run_cons, opened, run_comment contents, run_nil] at ran
          cases congrArg Lexer.mode ran
      | _ => exact (closedCase trivial).imp_right .inr

end Lexer

/-- Whether the last item of a text is a word, so that the text ends with the word, outside of
strings and comments. -/
def EndsInWord (source word : Text) : Prop :=
  ∃ items, Parts.IsValid ⟨items ++ [.word word], none⟩ ∧
    Parts.text ⟨items ++ [.word word], none⟩ = source

theorem EndsInWord.isValid {source word : Text} (h : EndsInWord source word) :
    (Item.word word).IsValid := by
  obtain ⟨items, valid, -⟩ := h
  exact valid.items _ (by simp)

theorem Item.IsValid.append_word {word extra : Text} (valid : (Item.word word).IsValid)
    (plain : ∀ c ∈ extra, isPlain c = true) : (Item.word (word ++ extra)).IsValid := by
  refine ⟨List.append_ne_nil_of_left_ne_nil valid.1 extra, ?_⟩
  intro c member
  exact (List.mem_append.1 member).elim (valid.2 c) (plain c)

/-- The lexer is in a word at the end of a text only if the text ends in that word. -/
theorem endsInWord_of_run {source word : Text} {done : List Token} (present : word ≠ [])
    (ran : Lexer.run {} source = ⟨.word word, done⟩) : EndsInWord source word.reverse := by
  obtain ⟨⟨items, unclosed⟩, valid, rfl⟩ := Parts.exists_isValid source
  cases unclosed with
  | some body =>
      have found := tokens?_text valid
      rw [Sexpr.tokens?, ran] at found
      cases found
  | none =>
      have last := Lexer.getLast?_of_run_text valid (fun absent => absurd rfl absent) ran
      rcases last with empty | ⟨-, empty⟩ | last
      · exact absurd empty present
      · exact absurd empty present
      · obtain ⟨front, rfl⟩ := List.getLast?_eq_some_iff.1 last
        exact ⟨front, valid, rfl⟩

end Token

open Token

/-- A line feed between two texts keeps their tokens apart. -/
theorem tokens?_append_lineFeed {source : Text} {tokens : List Token}
    (found : tokens? source = some tokens) (more : Text) :
    tokens? (source ++ '\n' :: more) = (tokens? more).map (tokens ++ ·) := by
  rw [tokens?, Lexer.run_append, Lexer.run_cons, Lexer.step_lineFeed found,
    Lexer.finish?_run_eq_map, List.reverse_reverse]
  rfl

/-- A comment behind a text has no tokens, and takes none away. -/
theorem tokens?_append_comment {source comment : Text} {tokens : List Token}
    (found : tokens? source = some tokens) (single : '\n' ∉ comment) :
    tokens? (source ++ ';' :: comment) = some tokens := by
  rw [tokens?, Lexer.run_append]
  cases state : Lexer.run {} source with
  | mk mode done =>
      rw [tokens?, state] at found
      cases mode with
      | word recent => exact (Lexer.finish?_run_openComment single recent done).trans found
      | quoted recent escaped => cases found
      | comment =>
          rw [Lexer.run_cons, Lexer.step_comment_of_ne (by decide), Lexer.run_comment single]
          exact found

/-- A longer text has at least the tokens of a shorter one it starts with, in the same places. Only
the last of them may be another: if the shorter text ends in a word, plain characters behind the
text make the word longer. -/
theorem tokens?_append_keeps {source more : Text} {tokens found : List Token}
    (before : tokens? source = some tokens) (after : tokens? (source ++ more) = some found) :
    tokens.length ≤ found.length ∧
      (tokens <+: found ∨
        ∃ earlier word extra, tokens = earlier ++ [.atom word] ∧ EndsInWord source word ∧
          (Item.word word).IsValid ∧ extra ≠ [] ∧ (Item.word (word ++ extra)).IsValid ∧
          earlier ++ [.atom (word ++ extra)] <+: found) := by
  -- What the shorter text leaves to the rest is its tokens and, if it ends in a word, that word.
  cases state : Lexer.run {} source with
  | mk mode done =>
      rw [tokens?, state] at before
      rw [tokens?, Lexer.run_append, state] at after
      cases mode with
      | quoted recent escaped => cases before
      | comment =>
          obtain rfl := Option.some.inj before
          have kept := Lexer.isPrefix_of_finish?_run after
          exact ⟨kept.length_le, .inl kept⟩
      | word recent =>
          obtain rfl := Option.some.inj before
          by_cases present : recent = []
          · subst present
            have kept := Lexer.isPrefix_of_finish?_run after
            exact ⟨kept.length_le, .inl kept⟩
          rw [Lexer.tokensWith_of_ne_nil present, List.reverse_cons]
          have kept := Lexer.isPrefix_of_finish?_run_word present after
          refine ⟨by simpa using kept.length_le, ?_⟩
          by_cases extra : more.takeWhile isPlain = []
          · rw [extra, List.append_nil] at kept
            exact .inl kept
          · have ends := endsInWord_of_run present state
            have word := ends.isValid
            have longer : (Item.word (recent.reverse ++ more.takeWhile isPlain)).IsValid :=
              word.append_word fun _ => List.mem_takeWhile_imp
            exact .inr ⟨_, _, _, rfl, ends, word, extra, longer, kept⟩

/-- A word at the end of a text becomes longer, behind a comment with a quote in it. -/
theorem tokens?_append_keeps_word :
    tokens? "; \"\n(ab".toList = some [.lparen, .atom "ab".toList] ∧
      tokens? ("; \"\n(ab".toList ++ "c\"(\" d".toList) =
        some [.lparen, .atom "abc".toList, .atom "\"(\"".toList, .atom "d".toList] ∧
      ∃ earlier word extra,
        [.lparen, .atom "ab".toList] = earlier ++ [Token.atom word] ∧
          EndsInWord "; \"\n(ab".toList word ∧ (Item.word word).IsValid ∧ extra ≠ [] ∧
          (Item.word (word ++ extra)).IsValid ∧
          earlier ++ [.atom (word ++ extra)] <+:
            [.lparen, .atom "abc".toList, .atom "\"(\"".toList, .atom "d".toList] := by
  have before : tokens? "; \"\n(ab".toList = some [.lparen, .atom "ab".toList] := by decide
  have after : tokens? ("; \"\n(ab".toList ++ "c\"(\" d".toList) =
      some [.lparen, .atom "abc".toList, .atom "\"(\"".toList, .atom "d".toList] := by decide
  refine ⟨before, after, ?_⟩
  exact (tokens?_append_keeps before after).2.resolve_left (by decide)

end Sexpr

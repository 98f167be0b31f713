import Sexpr.Proofs.Expr.Source
import Sexpr.Proofs.Reader.Append

/-!
# Atoms and their literals

The lexer and the kinds of literal agree on what an atom is. A text with a literal is a single token
by itself, and a text that starts with a quote has a literal exactly if it is one. So no literal can
be taken apart by the lexer, each string token becomes a string literal, and only words can be atoms
without a literal.
-/

namespace Sexpr

open Token

/-- Whether a text starts with a quote. -/
def Text.startsWithQuote (t : Text) : Bool := t.head? == some '"'

/-- The text of a string literal. -/
def Literal.quotedText? : Literal → Option Text
  | .string t => some t
  | _ => none

theorem tokens?_word {t : Text} (valid : (Item.word t).IsValid) : tokens? t = some [.atom t] := by
  obtain ⟨nonempty, plain⟩ := valid
  have present : t.reverse ≠ [] := by simpa using nonempty
  have ended : (Lexer.mk (.word t.reverse) []).finish? =
      some (Lexer.tokensWith t.reverse []).reverse := rfl
  rw [tokens?, Lexer.run_word plain, List.append_nil, ended, Lexer.tokensWith_of_ne_nil present,
    List.reverse_reverse]
  rfl

theorem tokens?_string {body : Text} (escaped : body.IsEscaped) :
    tokens? ('"' :: body ++ ['"']) = some [.atom ('"' :: body ++ ['"'])] := by
  rw [tokens?, Lexer.run_string escaped]
  rfl

/-- A text that is a single token and starts with a quote ends with the quote that closes it. -/
theorem exists_body_of_tokens? {t : Text} (quote : t.startsWithQuote = true)
    (single : tokens? t = some [.atom t]) :
    ∃ body : Text, body.IsEscaped ∧ t = '"' :: body ++ ['"'] := by
  obtain ⟨rest, rfl⟩ : ∃ rest, t = '"' :: rest := List.head?_eq_some_iff.1 (eq_of_beq quote)
  rcases Text.exists_closing_or_isUnclosed rest with ⟨body, more, escaped, rfl⟩ | unclosed
  · have split : '"' :: (body ++ '"' :: more) = ('"' :: body ++ ['"']) ++ more := by simp
    rw [tokens?, split, Lexer.run_append, Lexer.run_string escaped] at single
    have kept := Lexer.isPrefix_of_finish?_run single
    have same : '"' :: body ++ ['"'] = ('"' :: body ++ ['"']) ++ more := by
      simpa [Lexer.tokensWith] using kept
    exact ⟨body, escaped, split.trans same.symm⟩
  · rw [tokens?, Lexer.finish?_run_unclosed unclosed] at single
    cases single

/-- The tokens of a source text that are no brackets are words and strings. -/
theorem isValid_or_exists_body_of_mem {source t : Text} {tokens : List Token}
    (found : tokens? source = some tokens) (member : .atom t ∈ tokens) :
    (Item.word t).IsValid ∨ ∃ body : Text, body.IsEscaped ∧ t = '"' :: body ++ ['"'] := by
  obtain ⟨⟨items, unclosed⟩, valid, rfl⟩ := Parts.exists_isValid source
  rw [tokens?_text valid] at found
  cases unclosed with
  | some body => cases found
  | none =>
      obtain rfl := Option.some.inj found
      obtain ⟨item, memberItem, token⟩ := List.mem_filterMap.1 member
      have validItem := valid.items item memberItem
      cases item with
      | word u =>
          obtain rfl : u = t := by simpa [Item.token?] using token
          exact .inl validItem
      | quoted body =>
          obtain rfl : '"' :: body ++ ['"'] = t := by simpa [Item.token?] using token
          exact .inr ⟨body, validItem, rfl⟩
      | _ => cases token

/-- The characters of a token are characters of the source text. -/
theorem mem_source_of_mem_token {source : Text} {tokens : List Token} {token : Token} {c : Char}
    (found : tokens? source = some tokens) (member : token ∈ tokens) (inside : c ∈ token.text) :
    c ∈ source := by
  obtain ⟨⟨items, unclosed⟩, valid, rfl⟩ := Parts.exists_isValid source
  rw [tokens?_text valid] at found
  cases unclosed with
  | some body => cases found
  | none =>
      obtain rfl := Option.some.inj found
      obtain ⟨item, memberItem, same⟩ := List.mem_filterMap.1 member
      rw [Item.text_of_token?_eq_some same] at inside
      exact List.mem_append_left _ (List.mem_flatMap.2 ⟨item, memberItem, inside⟩)

theorem not_startsWithQuote_of_isValid {t : Text} (valid : (Item.word t).IsValid) :
    t.startsWithQuote = false := by
  obtain ⟨-, plain⟩ := valid
  cases t with
  | nil => rfl
  | cons c rest =>
      have first : isPlain c = true := plain c List.mem_cons_self
      have quote : c ≠ '"' := by
        rintro rfl
        cases first
      simpa [Text.startsWithQuote] using quote

namespace Literal

/-- A text with a literal is one token. -/
theorem tokens?_of_classify {t : Text} {l : Literal} (h : classify t = some l) :
    tokens? t = some [.atom t] := by
  obtain ⟨kind, admitted, -, -⟩ := exists_kind_of_classify h
  by_cases string : kind = .string
  · subst string
    obtain ⟨body, escaped, rfl⟩ := Kind.admits_string_iff.1 admitted
    exact tokens?_string escaped
  · exact tokens?_word (Kind.isPlain_of_admits admitted string)

/-- The literal of a text is a string exactly if the text starts with a quote, and the string has
that text. -/
theorem quotedText?_of_classify {t : Text} {l : Literal} (h : classify t = some l) :
    l.quotedText? = if t.startsWithQuote then some t else none := by
  obtain ⟨kind, admitted, -, read⟩ := exists_kind_of_classify h
  by_cases string : kind = .string
  · subst string
    obtain ⟨body, -, rfl⟩ := Kind.admits_string_iff.1 admitted
    obtain rfl := Option.some.inj read
    rfl
  · have word : (Item.word t).IsValid := Kind.isPlain_of_admits admitted string
    have other : l.kind ≠ .string := by
      rw [Kind.kind_of_read read]
      exact string
    rw [not_startsWithQuote_of_isValid word, if_neg Bool.false_ne_true]
    cases l with
    | string u => exact absurd rfl other
    | _ => rfl

end Literal

/-- A token stands for a string literal exactly if its text starts with a quote, and the string has
that text. -/
theorem Token.quotedText?_of_event? {token : Token} {event : Event}
    (h : token.event? = some event) :
    event.literal?.bind Literal.quotedText? =
      if token.text.startsWithQuote then some token.text else none := by
  cases token with
  | lparen =>
      obtain rfl := Option.some.inj h
      rfl
  | rparen =>
      obtain rfl := Option.some.inj h
      rfl
  | atom t =>
      obtain ⟨l, classified, rfl⟩ := Option.map_eq_some_iff.1 h
      exact Literal.quotedText?_of_classify classified

/-- The strings among the literals that tokens stand for are the tokens that start with a quote. -/
theorem filterMap_quotedText?_of_forall₂ {events : List Event} {tokens : List Token}
    (spelled : List.Forall₂ (fun event token => token.event? = some event) events tokens) :
    (events.filterMap Event.literal?).filterMap Literal.quotedText? =
      (tokens.map Token.text).filter Text.startsWithQuote := by
  rw [List.filterMap_filterMap]
  induction spelled with
  | nil => rfl
  | @cons event token _ _ first _ ih =>
      rw [List.filterMap_cons, Token.quotedText?_of_event? first, ih, List.map_cons]
      cases quote : token.text.startsWithQuote <;> simp [quote]

theorem ReadError.message_eq_iff {e : ReadError} {t : Text} :
    e.message = "Invalid atomic symbol `".toList ++ t ++ ['`'] ↔ e = .invalidAtom t := by
  constructor
  · intro h
    cases e with
    | unterminatedString => cases (congrArg List.head? h : some 'U' = some 'I')
    | extraClose => cases (congrArg List.head? h : some 'E' = some 'I')
    | missingClose => cases (congrArg List.head? h : some 'M' = some 'I')
    | invalidAtom u =>
        obtain rfl : u = t := List.append_cancel_left (List.append_cancel_right h)
        rfl
  · rintro rfl
    rfl

/-- The atom that a reading calls invalid is one of the tokens, and has no literal. -/
theorem mem_of_read_eq_invalidAtom {tokens : List Token} {t : Text}
    (h : (read tokens).outcome = .error (.invalidAtom t)) :
    .atom t ∈ tokens ∧ Literal.classify t = none := by
  obtain ⟨before, token, after, p, rfl, -, last⟩ := Progress.exists_of_feedAll_eq_error
    (feedAll_eq_error_iff.2 ⟨rfl, .inr ⟨t, h⟩⟩)
  rcases Progress.feed_eq_error_iff.1 last with ⟨unspelled, same⟩ | ⟨-, -, same⟩
  · rw [same] at h
    obtain rfl := ReadError.invalidAtom.inj (Except.error.inj h)
    cases token with
    | lparen => cases unspelled
    | rparen => cases unspelled
    | atom text => exact ⟨by simp [Token.text], Option.map_eq_none_iff.1 unspelled⟩
  · rw [same] at h
    cases h

/-- The lexer and the kinds of literal agree on what an atom is. Each text with a literal is a
single token; a text that starts with a quote has a literal exactly if it is a single token, and
that literal is the string with this text. So the strings of a forest that was read are the tokens
that start with a quote, in their order, and an atom that is called invalid is a word. -/
theorem classify_iff_single_token :
    (∀ t : Text, (Literal.classify t).isSome → tokens? t = some [.atom t]) ∧
    (∀ t : Text, t.startsWithQuote →
      ((Literal.classify t).isSome ↔ tokens? t = some [.atom t]) ∧
        ∀ l, Literal.classify t = some l → l = .string t) ∧
    ∀ (source : Text) (tokens : List Token), tokens? source = some tokens →
      (∀ forest, (readSource source).outcome = .ok forest →
        (Expr.leavesAll forest).filterMap Literal.quotedText? =
          (tokens.map Token.text).filter Text.startsWithQuote) ∧
      ∀ t, (readSource source).outcome.mapError ReadError.message =
          .error ("Invalid atomic symbol `".toList ++ t ++ ['`']) →
        t ≠ [] ∧ ∀ c ∈ t, isPlain c = true := by
  have single {t : Text} (h : (Literal.classify t).isSome) : tokens? t = some [.atom t] := by
    obtain ⟨l, classified⟩ := Option.isSome_iff_exists.1 h
    exact Literal.tokens?_of_classify classified
  refine ⟨fun t => single, ?_, ?_⟩
  · intro t quote
    refine ⟨⟨single, ?_⟩, ?_⟩
    · intro alone
      obtain ⟨body, escaped, rfl⟩ := exists_body_of_tokens? quote alone
      rw [Literal.classify_string escaped]
      rfl
    · intro l classified
      have text := Literal.quotedText?_of_classify classified
      rw [if_pos quote] at text
      cases l with
      | string u =>
          obtain rfl := Option.some.inj text
          rfl
      | _ => cases text
  · intro source tokens found
    rw [readSource_of_tokens? found]
    constructor
    · intro forest h
      rw [← Expr.filterMap_literal?_eventsAll]
      exact filterMap_quotedText?_of_forall₂ (read_outcome_eq_ok_iff_event?.1 h)
    · intro t h
      cases outcome : (read tokens).outcome with
      | ok forest =>
          rw [outcome] at h
          cases h
      | error e =>
          rw [outcome] at h
          obtain rfl := ReadError.message_eq_iff.1 (Except.error.inj h)
          obtain ⟨member, unclassified⟩ := mem_of_read_eq_invalidAtom outcome
          rcases isValid_or_exists_body_of_mem found member with valid | ⟨body, escaped, rfl⟩
          · exact valid
          · rw [Literal.classify_string escaped] at unclassified
            cases unclassified

example : tokens? "\"a\\\"(\n\"".toList = some [.atom "\"a\\\"(\n\"".toList] := by decide

end Sexpr

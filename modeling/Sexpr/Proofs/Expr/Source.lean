import Sexpr.Expr.Source
import Sexpr.Proofs.Literal.Classify
import Sexpr.Proofs.Reader.Forest
import Sexpr.Proofs.Token.Run

/-!
# Source text that is read back

The source text of a forest has the tokens of its events, and those are read as the forest again if
its literals are well-formed. Nothing else can be read at all: each literal of a forest that was
read comes from a token, and tokens make well-formed literals only.
-/

namespace Sexpr

open Token

/-- The token that is written for an event. -/
def Event.token : Event → Token
  | .enter => .lparen
  | .leave => .rparen
  | .leaf literal => .atom literal.source

/-- The literal of a leaf. -/
def Event.literal? : Event → Option Literal
  | .leaf literal => some literal
  | _ => none

theorem Event.literal?_eq_some_iff {event : Event} {l : Literal} :
    event.literal? = some l ↔ event = .leaf l := by
  cases event <;> simp [literal?]

namespace Literal

theorem exists_body_of_kind_eq_string {l : Literal} (wellFormed : l.IsWellFormed)
    (h : l.kind = .string) : ∃ body : Text, body.IsEscaped ∧ l.source = '"' :: body ++ ['"'] := by
  cases l with
  | string t => exact wellFormed
  | _ => cases h

/-- The text of a literal is one token, which a blank behind it ends. -/
theorem run_source {l : Literal} (wellFormed : l.IsWellFormed) (tokens : List Token) :
    Lexer.run ⟨.word [], tokens⟩ (l.source ++ [' ']) = ⟨.word [], .atom l.source :: tokens⟩ := by
  have blank : Text.isBlank ' ' = true := by decide
  by_cases string : l.kind = .string
  · obtain ⟨body, escaped, written⟩ := exists_body_of_kind_eq_string wellFormed string
    rw [written, Lexer.run_append, Lexer.run_string escaped, Lexer.run_cons,
      Lexer.step_word_of_isBlank blank]
    rfl
  · obtain ⟨nonempty, plain⟩ := Kind.isPlain_of_admits (admits_source wellFormed) string
    have word : l.source.isEmpty = false := by simpa using nonempty
    rw [Lexer.run_append, Lexer.run_word plain, Lexer.run_cons, Lexer.step_word_of_isBlank blank]
    simp [Lexer.tokensWith, word]

end Literal

namespace Expr

theorem areWellFormed_cons_iff {e : Expr} {rest : List Expr} :
    AreWellFormed (e :: rest) ↔ AreWellFormed [e] ∧ AreWellFormed rest := by
  simp [AreWellFormed, leavesAll, or_imp, forall_and]

theorem areWellFormed_list_iff {items : List Expr} :
    AreWellFormed [.list items] ↔ AreWellFormed items := by
  simp [AreWellFormed, leavesAll, leaves]

mutual

theorem run_source (e : Expr) (wellFormed : AreWellFormed [e]) (tokens : List Token) :
    Lexer.run ⟨.word [], tokens⟩ (e.source ++ [' ']) =
      ⟨.word [], (e.events.map Event.token).reverse ++ tokens⟩ := by
  cases e with
  | atom literal =>
      have own : literal.IsWellFormed := wellFormed literal (by simp [leavesAll, leaves])
      simpa [source, Event.token] using Literal.run_source own tokens
  | list items =>
      have opened : Lexer.step ⟨.word [], tokens⟩ '(' = ⟨.word [], .lparen :: tokens⟩ := rfl
      have closed (inner : List Token) :
          Lexer.run ⟨.word [], inner⟩ [')', ' '] = ⟨.word [], .rparen :: inner⟩ := rfl
      have inner := run_sourceAll items (areWellFormed_list_iff.1 wellFormed) (.lparen :: tokens)
      have text : (list items).source ++ [' '] = '(' :: (sourceAll items ++ [')', ' ']) := by
        simp [source]
      rw [text, Lexer.run_cons, opened, Lexer.run_append, inner, closed]
      simp [Event.token]

theorem run_sourceAll (forest : List Expr) (wellFormed : AreWellFormed forest)
    (tokens : List Token) : Lexer.run ⟨.word [], tokens⟩ (sourceAll forest) =
      ⟨.word [], ((eventsAll forest).map Event.token).reverse ++ tokens⟩ := by
  cases forest with
  | nil => rfl
  | cons e rest =>
      obtain ⟨first, later⟩ := areWellFormed_cons_iff.1 wellFormed
      have text : sourceAll (e :: rest) = (e.source ++ [' ']) ++ sourceAll rest := by
        simp [sourceAll]
      rw [text, Lexer.run_append, run_source e first, run_sourceAll rest later]
      simp

end

/-- The tokens of a source text that was written for a forest are those of its events. -/
theorem tokens?_sourceAll {forest : List Expr} (wellFormed : AreWellFormed forest) :
    tokens? (sourceAll forest) = some ((eventsAll forest).map Event.token) := by
  rw [tokens?, run_sourceAll forest wellFormed []]
  simp [Lexer.finish?, Lexer.tokensWith]

mutual

/-- The literals of the leaves of an expression are those of its events, in their order. -/
theorem filterMap_literal?_events (e : Expr) : e.events.filterMap Event.literal? = e.leaves := by
  cases e with
  | atom literal => rfl
  | list items =>
      have enter : Event.literal? .enter = none := rfl
      have leave : [Event.leave].filterMap Event.literal? = [] := rfl
      rw [events_list, List.cons_append, List.filterMap_cons_none enter, List.filterMap_append,
        leave, List.append_nil, filterMap_literal?_eventsAll items, leaves]

theorem filterMap_literal?_eventsAll (forest : List Expr) :
    (eventsAll forest).filterMap Event.literal? = leavesAll forest := by
  cases forest with
  | nil => rfl
  | cons e rest =>
      rw [eventsAll_cons, List.filterMap_append, filterMap_literal?_events e,
        filterMap_literal?_eventsAll rest, leavesAll]

end

theorem mem_eventsAll_iff {l : Literal} (forest : List Expr) :
    .leaf l ∈ eventsAll forest ↔ l ∈ leavesAll forest := by
  rw [← filterMap_literal?_eventsAll, List.mem_filterMap]
  simp [Event.literal?_eq_some_iff]

theorem event?_token {forest : List Expr} (wellFormed : AreWellFormed forest) {event : Event}
    (member : event ∈ eventsAll forest) : event.token.event? = some event := by
  cases event with
  | enter => rfl
  | leave => rfl
  | leaf l =>
      have own : l.IsWellFormed := wellFormed l ((mem_eventsAll_iff forest).1 member)
      rw [Event.token, Token.event?, Literal.classify_source own]
      rfl

end Expr

/-- The tokens that are written for the events of a forest are read as the forest. -/
theorem read_map_token_eventsAll {forest : List Expr} (wellFormed : Expr.AreWellFormed forest) :
    (read ((Expr.eventsAll forest).map Event.token)).outcome = .ok forest := by
  refine read_outcome_eq_ok_iff_event?.2 (List.forall₂_map_right_iff.2 ?_)
  exact List.forall₂_same.2 fun event member => Expr.event?_token wellFormed member

/-- The leaves of a forest that was read are literals that tokens stand for. -/
theorem areWellFormed_of_read {tokens : List Token} {forest : List Expr}
    (h : (read tokens).outcome = .ok forest) : Expr.AreWellFormed forest := by
  intro l member
  have spelled := read_outcome_eq_ok_iff_event?.1 h
  have stands : ∀ event ∈ Expr.eventsAll forest, ∃ token : Token, token.event? = some event :=
    ((List.forall₂_and_left _ _).1 (spelled.imp fun _ token h => ⟨⟨token, h⟩, h⟩)).1
  obtain ⟨token, event⟩ := stands (.leaf l) ((Expr.mem_eventsAll_iff forest).2 member)
  cases token with
  | lparen => cases event
  | rparen => cases event
  | atom text =>
      rw [Token.event?, Option.map_eq_some_iff] at event
      obtain ⟨_, classified, same⟩ := event
      obtain rfl := Event.leaf.inj same
      exact Literal.isWellFormed_of_classify classified

/-- The leaves of a forest that source text is read as are literals that tokens stand for. -/
theorem areWellFormed_of_readSource {source : Text} {forest : List Expr}
    (h : (readSource source).outcome = .ok forest) : Expr.AreWellFormed forest := by
  obtain ⟨tokens, -, read⟩ := exists_tokens?_of_readSource h
  exact areWellFormed_of_read read

/-- The forests that source texts are read as are those whose leaves are well-formed, and each of
them is read back from the text that is written for it. -/
theorem readSource_image_areWellFormed :
    (∀ (source : Text) (forest : List Expr),
      (readSource source).outcome = .ok forest → Expr.AreWellFormed forest) ∧
    ∀ forest : List Expr, Expr.AreWellFormed forest →
      (readSource (Expr.sourceAll forest)).outcome = .ok forest := by
  constructor
  · intro source forest h
    unfold readSource at h
    cases found : tokens? source with
    | none =>
        rw [found] at h
        cases h
    | some tokens =>
        rw [found] at h
        exact areWellFormed_of_read h
  · intro forest wellFormed
    rw [readSource, Expr.tokens?_sourceAll wellFormed]
    exact read_map_token_eventsAll wellFormed

end Sexpr

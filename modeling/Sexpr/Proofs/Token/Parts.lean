import Sexpr.Proofs.Text.ClosingQuote
import Sexpr.Proofs.Text.Span
import Sexpr.Proofs.Token.Run
import Sexpr.Token.Grammar

/-!
# The parts of a source text

Each source text is made up of parts in one way only. The first character settles what the first
item is, and what follows settles where it ends; so the first item and the text behind it can be
computed, and a row of parts is peeled off item by item.
-/

namespace Sexpr.Token

namespace Item

/-- Whether the item cannot go on into the text behind it: a word would take further plain
characters along, and a comment without a line feed at its end takes everything. -/
def EndsBefore : Item → Text → Prop
  | .word _, rest => ∀ c ∈ rest.head?, isPlain c = false
  | .openComment _, rest => rest = []
  | _, _ => True

/-- The item that a text starts with and the text behind it; `none` if the text is empty or is a
string that is not closed. -/
def first? : Text → Option (Item × Text)
  | [] => none
  | c :: rest =>
      if isPlain c then some (.word (c :: rest.takeWhile isPlain), rest.dropWhile isPlain)
      else if c = '(' then some (.lparen, rest)
      else if c = ')' then some (.rparen, rest)
      else if c = '"' then (Text.cutAtQuote? rest).map fun cut => (.quoted cut.1, cut.2)
      else if c = ';' then
        match rest.dropWhile (· != '\n') with
        | [] => some (.openComment rest, [])
        | _ :: behind => some (.comment (rest.takeWhile (· != '\n')), behind)
      else some (.blank c, rest)

@[simp] theorem text_quoted_append (body rest : Text) :
    (quoted body).text ++ rest = '"' :: (body ++ '"' :: rest) := by
  simp [text]

@[simp] theorem text_comment_append (body rest : Text) :
    (comment body).text ++ rest = ';' :: (body ++ '\n' :: rest) := by
  simp [text]

theorem text_ne_nil {item : Item} (valid : item.IsValid) : item.text ≠ [] := by
  cases item with
  | word t => exact valid.1
  | _ => exact List.cons_ne_nil _ _

/-- A word goes on into a text that starts with a word. -/
theorem not_endsBefore_word {t u rest : Text} (valid : (word u).IsValid) :
    ¬(word t).EndsBefore (u ++ rest) := by
  intro ends
  obtain ⟨nonempty, plain⟩ := valid
  cases u with
  | nil => exact nonempty rfl
  | cons c more =>
      have stopped : isPlain c = false := ends c rfl
      rw [plain c List.mem_cons_self] at stopped
      cases stopped

/-- A text that starts with an item, where the item ends, has that item as its first one. -/
theorem first?_append {item : Item} {rest : Text} (valid : item.IsValid)
    (ends : item.EndsBefore rest) : first? (item.text ++ rest) = some (item, rest) := by
  cases item with
  | blank c =>
      have blank : Text.isBlank c = true := valid
      have delimiter := isPlain_of_isBlank blank
      have differs (d : Char) (solid : Text.isBlank d = false) : c ≠ d := by
        rintro rfl
        rw [blank] at solid
        cases solid
      simp only [text, List.singleton_append, first?, delimiter, Bool.false_eq_true, if_false,
        differs '(' (by decide), differs ')' (by decide), differs '"' (by decide),
        differs ';' (by decide)]
  | lparen => rfl
  | rparen => rfl
  | word t =>
      obtain ⟨nonempty, plain⟩ := valid
      cases t with
      | nil => exact absurd rfl nonempty
      | cons c more =>
          have first : isPlain c = true := plain c List.mem_cons_self
          have later : ∀ d ∈ more, isPlain d = true := fun d member =>
            plain d (List.mem_cons_of_mem c member)
          simp only [text, List.cons_append, first?, first, if_true,
            Text.takeWhile_append_of_head later ends, Text.dropWhile_append_of_head later ends]
  | quoted body =>
      have cut := Text.cutAtQuote?_append valid rest
      have opened : first? ('"' :: (body ++ '"' :: rest)) =
          (Text.cutAtQuote? (body ++ '"' :: rest)).map fun cut => (.quoted cut.1, cut.2) := rfl
      rw [text_quoted_append, opened, cut]
      rfl
  | comment body =>
      have inside := Text.bne_of_not_mem valid
      have stop : ∀ c ∈ ('\n' :: rest).head?, (c != '\n') = false := by simp
      have opened : first? (';' :: (body ++ '\n' :: rest)) =
          match (body ++ '\n' :: rest).dropWhile (· != '\n') with
          | [] => some (.openComment (body ++ '\n' :: rest), [])
          | _ :: behind => some (.comment ((body ++ '\n' :: rest).takeWhile (· != '\n')), behind) :=
        rfl
      rw [text_comment_append, opened, Text.dropWhile_append_of_head inside stop,
        Text.takeWhile_append_of_head inside stop]
  | openComment body =>
      obtain rfl : rest = [] := ends
      have inside := Text.bne_of_not_mem valid
      have opened : first? (';' :: body) =
          match body.dropWhile (· != '\n') with
          | [] => some (.openComment body, [])
          | _ :: behind => some (.comment (body.takeWhile (· != '\n')), behind) := rfl
      rw [text, List.append_nil, opened, List.dropWhile_eq_nil_iff.2 inside]

theorem first?_unclosed {body : Text} (unclosed : Text.IsUnclosed body) :
    first? ('"' :: body) = none := by
  have opened : first? ('"' :: body) =
      (Text.cutAtQuote? body).map fun cut => (.quoted cut.1, cut.2) := rfl
  rw [opened, Text.cutAtQuote?_of_isUnclosed unclosed]
  rfl

/-- A text is empty, or starts with an item that ends there, or is a string that is not closed. -/
theorem exists_first (t : Text) :
    t = [] ∨ (∃ body, Text.IsUnclosed body ∧ t = '"' :: body) ∨
      ∃ item rest, IsValid item ∧ item.EndsBefore rest ∧ t = item.text ++ rest := by
  cases t with
  | nil => exact .inl rfl
  | cons c rest =>
      right
      cases plain : isPlain c with
      | true =>
          refine .inr ⟨.word (c :: rest.takeWhile isPlain), rest.dropWhile isPlain,
            ⟨List.cons_ne_nil _ _, ?_⟩, ?_, ?_⟩
          · intro d member
            rcases List.mem_cons.1 member with rfl | member
            · exact plain
            · exact List.mem_takeWhile_imp member
          · intro d head
            have stopped := List.head?_dropWhile_not isPlain rest
            rw [head] at stopped
            simpa using stopped
          · rw [text, List.cons_append, List.takeWhile_append_dropWhile]
      | false =>
          rcases isPlain_eq_false_iff.1 plain with blank | rfl | rfl | rfl | rfl
          · exact .inr ⟨.blank c, rest, blank, trivial, rfl⟩
          · exact .inr ⟨.lparen, rest, trivial, trivial, rfl⟩
          · exact .inr ⟨.rparen, rest, trivial, trivial, rfl⟩
          · rcases Text.exists_closing_or_isUnclosed rest with
              ⟨body, behind, escaped, rfl⟩ | unclosed
            · exact .inr ⟨.quoted body, behind, escaped, trivial, (text_quoted_append _ _).symm⟩
            · exact .inl ⟨rest, unclosed, rfl⟩
          · by_cases closed : '\n' ∈ rest
            · obtain ⟨body, behind, rfl, inside⟩ := List.eq_append_cons_of_mem closed
              exact .inr ⟨.comment body, behind, inside, trivial, (text_comment_append _ _).symm⟩
            · exact .inr ⟨.openComment rest, [], closed, rfl, (List.append_nil _).symm⟩

end Item

namespace Parts

variable {item : Item} {items : List Item} {unclosed : Option Text}

@[simp] theorem text_cons (item : Item) (items : List Item) (unclosed : Option Text) :
    text ⟨item :: items, unclosed⟩ = item.text ++ text ⟨items, unclosed⟩ := by
  simp only [text, List.flatMap_cons, List.append_assoc]

theorem isValid_nil_iff :
    IsValid ⟨[], unclosed⟩ ↔ ∀ body ∈ unclosed, Text.IsUnclosed body := by
  constructor
  · intro valid
    exact valid.unclosed
  · intro ending
    exact ⟨by simp, trivial, ending, by simp⟩

/-- Behind an item of a source text, the text does not go on with that item. -/
theorem endsBefore_of_isValid (valid : IsValid ⟨item :: items, unclosed⟩) :
    item.EndsBefore (text ⟨items, unclosed⟩) := by
  obtain ⟨contents, order, -, last⟩ := valid
  cases item with
  | word t =>
      intro c head
      cases items with
      | cons second more =>
          have validSecond := contents second (by simp)
          have follows : Item.MayPrecede (.word t) second := order.1
          cases second with
          | word u => exact absurd follows id
          | blank d =>
              obtain rfl : d = c := by simpa [Item.text] using head
              exact isPlain_of_isBlank validSecond
          | _ =>
              obtain rfl := by simpa [Item.text] using head
              rfl
      | nil =>
          cases unclosed with
          | none => cases head
          | some body =>
              obtain rfl := by simpa [text] using head
              rfl
  | openComment body =>
      cases items with
      | cons second more => exact absurd order.1 id
      | nil =>
          cases unclosed with
          | none => rfl
          | some rest => exact absurd List.mem_cons_self (last rfl body)
  | _ => trivial

/-- An item may stand before the first item of a text that it does not go on into. -/
theorem inOrder_cons (valid : IsValid ⟨items, unclosed⟩)
    (ends : item.EndsBefore (text ⟨items, unclosed⟩)) : Item.InOrder (item :: items) := by
  cases items with
  | nil => trivial
  | cons second more =>
      refine ⟨?_, valid.order⟩
      have validSecond := valid.items second List.mem_cons_self
      rw [text_cons] at ends
      cases item with
      | openComment body =>
          exact absurd (List.append_eq_nil_iff.1 ends).1 (Item.text_ne_nil validSecond)
      | word t =>
          cases second with
          | word u => exact absurd ends (Item.not_endsBefore_word validSecond)
          | _ => trivial
      | _ => trivial

/-- A row of parts is valid if the first item is, if it ends where the others start, and if the
others are valid. -/
theorem isValid_cons_iff :
    IsValid ⟨item :: items, unclosed⟩ ↔
      item.IsValid ∧ item.EndsBefore (text ⟨items, unclosed⟩) ∧ IsValid ⟨items, unclosed⟩ := by
  constructor
  · intro valid
    refine ⟨valid.items item List.mem_cons_self, endsBefore_of_isValid valid, ?_, ?_,
      valid.unclosed, ?_⟩
    · intro other member
      exact valid.items other (List.mem_cons_of_mem item member)
    · cases items with
      | nil => trivial
      | cons second more => exact valid.order.2
    · intro ending body member
      exact valid.last ending body (List.mem_cons_of_mem item member)
  · intro h
    obtain ⟨contents, ends, valid⟩ := h
    refine ⟨?_, inOrder_cons valid ends, valid.unclosed, ?_⟩
    · intro other member
      rcases List.mem_cons.1 member with rfl | member
      · exact contents
      · exact valid.items other member
    · intro ending body member
      rcases List.mem_cons.1 member with rfl | member
      · cases unclosed with
        | none => cases ending
        | some rest => exact absurd (List.append_eq_nil_iff.1 ends).2 (List.cons_ne_nil _ _)
      · exact valid.last ending body member

theorem first?_text_cons (valid : IsValid ⟨item :: items, unclosed⟩) :
    Item.first? (text ⟨item :: items, unclosed⟩) = some (item, text ⟨items, unclosed⟩) := by
  obtain ⟨contents, ends, -⟩ := isValid_cons_iff.1 valid
  rw [text_cons, Item.first?_append contents ends]

theorem first?_text_nil (valid : IsValid ⟨[], unclosed⟩) :
    Item.first? (text ⟨[], unclosed⟩) = none := by
  cases unclosed with
  | none => rfl
  | some body => exact Item.first?_unclosed (isValid_nil_iff.1 valid body rfl)

/-- A source text has no two decompositions. -/
theorem eq_of_text_eq {parts other : Parts} (valid : parts.IsValid) (validOther : other.IsValid)
    (same : parts.text = other.text) : parts = other := by
  obtain ⟨items, unclosed⟩ := parts
  obtain ⟨others, unclosedOther⟩ := other
  -- Both first items are computed from the same text, and so are the texts behind them.
  induction items generalizing others with
  | nil =>
      cases others with
      | nil => cases unclosed <;> cases unclosedOther <;> simp_all [text]
      | cons second others =>
          have first := first?_text_nil valid
          rw [same, first?_text_cons validOther] at first
          cases first
  | cons item items ih =>
      have first := first?_text_cons valid
      rw [same] at first
      cases others with
      | nil =>
          rw [first?_text_nil validOther] at first
          cases first
      | cons second others =>
          rw [first?_text_cons validOther] at first
          obtain ⟨rfl, sameRest⟩ := Prod.mk.inj (Option.some.inj first)
          have validRest := (isValid_cons_iff.1 valid).2.2
          have validOthers := (isValid_cons_iff.1 validOther).2.2
          obtain ⟨rfl, rfl⟩ := Parts.mk.inj (ih validRest others validOthers sameRest.symm)
          rfl

/-- Every source text has a decomposition. -/
theorem exists_isValid (source : Text) : ∃ parts : Parts, parts.IsValid ∧ parts.text = source := by
  rcases Item.exists_first source with
    rfl | ⟨body, unclosed, rfl⟩ | ⟨item, rest, contents, ends, rfl⟩
  · exact ⟨⟨[], none⟩, isValid_nil_iff.2 (by simp), rfl⟩
  · exact ⟨⟨[], some body⟩, isValid_nil_iff.2 (by simpa using unclosed), rfl⟩
  · have shorter : rest.length < (item.text ++ rest).length := by
      have nonempty := List.length_pos_iff.2 (Item.text_ne_nil contents)
      rw [List.length_append]
      omega
    obtain ⟨⟨items, unclosed⟩, valid, rfl⟩ := exists_isValid rest
    exact ⟨⟨item :: items, unclosed⟩, isValid_cons_iff.2 ⟨contents, ends, valid⟩, text_cons ..⟩
termination_by source.length

end Parts

end Sexpr.Token

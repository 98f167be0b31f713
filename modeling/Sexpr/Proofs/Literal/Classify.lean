import Mathlib.Data.List.TakeDrop
import Sexpr.Expr.Source
import Sexpr.Literal.Classify
import Sexpr.Proofs.Binary64.Exact
import Sexpr.Proofs.Literal.Kind

/-!
# Classified texts

A text is read by the kind that admits it, and a minus sign with digits behind it by the integers.
The literals that texts stand for are the well-formed ones: each of them is the literal of the text
it is written as.
-/

namespace Sexpr

open Numeral

/-- A decimal with a point is read as the double nearest to it. -/
theorem Binary64.ofText?_signed {whole fraction : Text} (digits : IsDigits whole)
    (more : IsDigits fraction) (negative : Bool) :
    ofText? (signed negative (whole ++ '.' :: fraction)) =
      some (ofDigits negative whole fraction) := by
  have inside := bne_of_isDigit (d := '.') rfl digits.2
  have stop : ∀ c ∈ ('.' :: fraction).head?, (c != '.') = false := by simp
  have cut : (whole ++ '.' :: fraction).span (· != '.') = (whole, '.' :: fraction) := by
    rw [List.span_eq_takeWhile_dropWhile, Text.takeWhile_append_of_head inside stop,
      Text.dropWhile_append_of_head inside stop]
  unfold ofText?
  rw [splitSign_signed (not_head_of_isDigits digits _)]
  simp only [cut, digits, more, and_self, if_true]

theorem Binary64.isNaN_ofDigits (negative : Bool) (whole fraction : Text) :
    (ofDigits negative whole fraction).isNaN = false := by
  have bounded : (ofDigits negative whole fraction).magnitude ≤ infinity := Nat.min_le_left _ _
  exact isNaN_eq_false_iff.2 bounded

theorem Binary64.exactText_eq_signed (x : Binary64) :
    x.exactText = signed x.negative
      (Nat.toDigits 10 (exactDecimal x.magnitude / 10 ^ unitPlaces) ++
        '.' :: (Nat.toDigits 10 (exactDecimal x.magnitude % 10 ^ unitPlaces)).leftpad
          unitPlaces '0') := by
  rw [exactText, signed_append]

namespace Literal

/-- A kind reads literals of that kind. -/
theorem Kind.kind_of_read {kind : Kind} {t : Text} {l : Literal} (h : kind.read t = some l) :
    l.kind = kind := by
  cases kind with
  | int =>
      obtain ⟨n, -, rfl⟩ := Option.map_eq_some_iff.1 h
      rfl
  | float =>
      obtain ⟨x, -, rfl⟩ := Option.map_eq_some_iff.1 h
      rfl
  | bool =>
      rw [read] at h
      split at h
      · obtain rfl := Option.some.inj h
        rfl
      · split at h
        · obtain rfl := Option.some.inj h
          rfl
        · cases h
  | string =>
      obtain rfl := Option.some.inj h
      rfl
  | var =>
      obtain rfl := Option.some.inj h
      rfl

theorem exists_find?_admits {order : List Kind} (all : ∀ kind, kind ∈ order) {kind : Kind}
    {t : Text} (h : kind.admits t = true) :
    ∃ first, order.find? (·.admits t) = some first ∧ first.admits t = true := by
  have present : (order.find? (·.admits t)).isSome := List.find?_isSome.2 ⟨kind, all kind, h⟩
  obtain ⟨first, found⟩ := Option.isSome_iff_exists.1 present
  exact ⟨first, found, by simpa using List.find?_some found⟩

/-- In an order in which the integers come before the names, the first kind that admits a text is
the only one, or the integers where an integer is spelled like a name. -/
theorem find?_admits {order : List Kind} (all : ∀ kind, kind ∈ order)
    (intFirst : order.idxOf .int < order.idxOf .var) {kind : Kind} {t : Text}
    (h : kind.admits t = true) (positive : kind = .var → ¬IsNegated t) :
    order.find? (·.admits t) = some kind := by
  obtain ⟨first, found, admitted⟩ := exists_find?_admits all h
  rw [found]
  by_cases negated : IsNegated t
  · obtain rfl : kind = .int :=
      ((Kind.admits_of_isNegated negated).1 h).resolve_right fun name => positive name negated
    rcases (Kind.admits_of_isNegated negated).1 admitted with rfl | rfl
    · rfl
    · -- No kind before the names admits the text, so the integers come after them.
      obtain ⟨-, before, after, rfl, refused⟩ := List.find?_eq_some_iff_append.1 found
      have absent {k : Kind} (takes : k.admits t = true) : k ∉ before := by
        intro member
        simpa [takes] using refused k member
      rw [List.idxOf_append, if_neg (absent h), List.idxOf_append, if_neg (absent admitted),
        List.idxOf_cons_self] at intFirst
      omega
  · rw [← Kind.only_eq_of_admits h negated, ← Kind.only_eq_of_admits admitted negated]

/-- A text that a kind admits is read by that kind, unless an integer is spelled like a name, in
every order in which the integers come before the names. -/
theorem classifyBy_eq_read {order : List Kind} (all : ∀ kind, kind ∈ order)
    (intFirst : order.idxOf .int < order.idxOf .var) {kind : Kind} {t : Text}
    (h : kind.admits t = true) (positive : kind = .var → ¬IsNegated t) :
    classifyBy order t = kind.read t := by
  rw [classifyBy, find?_admits all intFirst h positive, Option.bind_some]

theorem Kind.mem_all (kind : Kind) : kind ∈ [int, float, bool, string, var] := by
  cases kind <;> decide

theorem classify_eq_read {kind : Kind} {t : Text} (h : kind.admits t = true)
    (positive : kind = .var → ¬IsNegated t) : classify t = kind.read t :=
  classifyBy_eq_read Kind.mem_all (by decide) h positive

theorem classify_string {body : Text} (escaped : body.IsEscaped) :
    classify ('"' :: body ++ ['"']) = some (.string ('"' :: body ++ ['"'])) :=
  classify_eq_read (Kind.admits_string_iff.2 ⟨body, escaped, rfl⟩) (by simp)

/-- A literal was read by a kind that admits its text. -/
theorem exists_kind_of_classify {t : Text} {l : Literal} (h : classify t = some l) :
    ∃ kind : Kind, kind.admits t = true ∧ (kind = .var → ¬IsNegated t) ∧
      kind.read t = some l := by
  have chosen := h
  rw [classify, classifyBy, Option.bind_eq_some_iff] at chosen
  obtain ⟨kind, found, read⟩ := chosen
  have admitted : kind.admits t = true := by simpa using List.find?_some found
  refine ⟨kind, admitted, ?_, read⟩
  rintro rfl negated
  have integer : Kind.int.admits t = true := (Kind.admits_of_isNegated negated).2 (.inl rfl)
  simp [integer] at found

/-- Every literal that a text stands for is well-formed. -/
theorem isWellFormed_of_classify {t : Text} {l : Literal} (h : classify t = some l) :
    l.IsWellFormed := by
  obtain ⟨kind, admitted, positive, read⟩ := exists_kind_of_classify h
  cases kind with
  | int =>
      obtain ⟨n, -, rfl⟩ := Option.map_eq_some_iff.1 read
      trivial
  | float =>
      obtain ⟨negative, whole, fraction, digits, more, rfl⟩ := Kind.admits_float_iff.1 admitted
      rw [Kind.read, Binary64.ofText?_signed digits more] at read
      obtain rfl := Option.some.inj read
      exact Binary64.isNaN_ofDigits negative whole fraction
  | bool =>
      rcases Kind.admits_bool_iff.1 admitted with rfl | rfl
      · obtain rfl := Option.some.inj read
        trivial
      · obtain rfl := Option.some.inj read
        trivial
  | string =>
      obtain rfl := Option.some.inj read
      exact Kind.admits_string_iff.1 admitted
  | var =>
      obtain rfl := Option.some.inj read
      exact ⟨admitted, positive rfl⟩

/-- The text that a well-formed literal is written as is one of its kind. -/
theorem admits_source {l : Literal} (wellFormed : l.IsWellFormed) :
    l.kind.admits l.source = true := by
  cases l with
  | int n =>
      exact Kind.admits_int_iff.2 ⟨_, _, isDigits_toDigits n.natAbs, ofInt_eq_signed n⟩
  | float x =>
      exact Kind.admits_float_iff.2 ⟨_, _, _, isDigits_toDigits _, isDigits_leftpad _ _,
        x.exactText_eq_signed⟩
  | bool b => cases b <;> rfl
  | string t => exact Kind.admits_string_iff.2 wellFormed
  | var t => exact wellFormed.1

/-- The text that a well-formed literal is written as stands for that literal. -/
theorem classify_source {l : Literal} (wellFormed : l.IsWellFormed) :
    classify l.source = some l := by
  have admitted := admits_source wellFormed
  have positive : l.kind = .var → ¬IsNegated l.source := by
    intro name
    cases l with
    | var t => exact wellFormed.2
    | _ => cases name
  rw [classify_eq_read admitted positive]
  cases l with
  | int n =>
      rw [kind, source, Kind.read, int?_ofInt]
      rfl
  | float x =>
      have finite : x.isNaN = false := wellFormed
      rw [kind, source, Kind.read, x.exactText_eq_signed,
        Binary64.ofText?_signed (isDigits_toDigits _) (isDigits_leftpad _ _),
        Binary64.ofDigits_exactDecimal finite]
      rfl
  | bool b => cases b <;> rfl
  | string t => rfl
  | var t => rfl

end Literal

end Sexpr

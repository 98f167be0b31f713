import Mathlib.Data.List.Forall2
import Sexpr.Proofs.Binary64.Equal
import Sexpr.Proofs.Expr.Shape

/-!
# Equal expressions

Expressions are equal exactly if they have the same shape and, place by place, literals of the same
kind with the same value. So equality inherits from literals that it is symmetric and transitive.
It is not reflexive: what is no number is not equal to itself, and neither is an expression that
has it for a leaf.
-/

namespace Sexpr

namespace Literal

/-- Literals of one kind with the same value. Doubles that are no numbers have none, and the two
zeros have the same. -/
inductive SameValue : Literal → Literal → Prop
  | int (n : Int) : SameValue (.int n) (.int n)
  | float {x y : Binary64} (hx : x.isNaN = false) (hy : y.isNaN = false)
      (same : x.value = y.value) : SameValue (.float x) (.float y)
  | bool (b : Bool) : SameValue (.bool b) (.bool b)
  | string (t : Text) : SameValue (.string t) (.string t)
  | var (t : Text) : SameValue (.var t) (.var t)

namespace SameValue

theorem symm {l m : Literal} (h : SameValue l m) : SameValue m l := by
  cases h with
  | float hx hy same => exact .float hy hx same.symm
  | int n => exact .int n
  | bool b => exact .bool b
  | string t => exact .string t
  | var t => exact .var t

theorem trans {l m n : Literal} (h : SameValue l m) (next : SameValue m n) : SameValue l n := by
  cases h with
  | float hx hy same =>
      cases next with
      | float _ hz again => exact .float hx hz (same.trans again)
  | int _ => exact next
  | bool _ => exact next
  | string _ => exact next
  | var _ => exact next

theorem self_iff {l : Literal} : SameValue l l ↔ l.isNaN = false := by
  constructor
  · intro h
    cases h with
    | float hx _ _ => exact hx
    | _ => rfl
  · intro h
    cases l with
    | float x => exact .float h h rfl
    | int n => exact .int n
    | bool b => exact .bool b
    | string t => exact .string t
    | var t => exact .var t

end SameValue

theorem equal_iff {l m : Literal} : l.equal m = true ↔ SameValue l m := by
  constructor
  · intro h
    cases l <;> cases m <;> simp only [equal, beq_iff_eq, Bool.false_eq_true] at h
    case float.float x y =>
      obtain ⟨hx, hy, same⟩ := Binary64.equal_iff.1 h
      exact .float hx hy same
    all_goals
      subst h
      constructor
  · intro h
    cases h with
    | float hx hy same => exact Binary64.equal_iff.2 ⟨hx, hy, same⟩
    | _ => simp [equal]

end Literal

namespace Expr

open Literal (SameValue)

mutual

theorem equal_iff_related (a b : Expr) : a.equal b = true ↔ Related SameValue a b := by
  cases a with
  | atom l =>
      cases b with
      | atom m => exact Literal.equal_iff
      | list others => simp [equal, Related]
  | list items =>
      cases b with
      | atom m => simp [equal, Related]
      | list others => exact equalAll_iff_relatedAll items others

theorem equalAll_iff_relatedAll (forest others : List Expr) :
    equalAll forest others = true ↔ RelatedAll SameValue forest others := by
  cases forest with
  | nil => cases others <;> simp [equalAll, RelatedAll]
  | cons e rest =>
      cases others with
      | nil => simp [equalAll, RelatedAll]
      | cons f others =>
          rw [equalAll, RelatedAll, Bool.and_eq_true, equal_iff_related e f,
            equalAll_iff_relatedAll rest others]

end

/-- Expressions are equal exactly if they have the same shape and leaves of the same values. -/
theorem equal_iff {a b : Expr} :
    a.equal b = true ↔ a.shape = b.shape ∧ List.Forall₂ SameValue a.leaves b.leaves := by
  rw [equal_iff_related, related_iff]

theorem equal_symm {a b : Expr} (h : a.equal b = true) : b.equal a = true := by
  obtain ⟨shape, leaves⟩ := equal_iff.1 h
  exact equal_iff.2 ⟨shape.symm, leaves.flip.imp fun _ _ => SameValue.symm⟩

theorem equal_trans {a b c : Expr} (h : a.equal b = true) (next : b.equal c = true) :
    a.equal c = true := by
  obtain ⟨shape, leaves⟩ := equal_iff.1 h
  obtain ⟨shape', leaves'⟩ := equal_iff.1 next
  refine equal_iff.2 ⟨shape.trans shape', List.forall₂_iff_get.2 ?_⟩
  obtain ⟨length, values⟩ := List.forall₂_iff_get.1 leaves
  obtain ⟨length', values'⟩ := List.forall₂_iff_get.1 leaves'
  refine ⟨length.trans length', fun i hi hk => ?_⟩
  exact (values i hi (length ▸ hi)).trans (values' i (length ▸ hi) hk)

/-- Whether every double in an expression is a number. -/
def IsNumeric (e : Expr) : Prop := ∀ l ∈ e.leaves, l.isNaN = false

/-- An expression is equal to itself exactly if every double in it is a number. -/
theorem equal_self_iff {a : Expr} : a.equal a = true ↔ a.IsNumeric := by
  rw [equal_iff, List.forall₂_same]
  simp [IsNumeric, SameValue.self_iff]

/-- Expressions that are equal to a third one are equal to the same expressions. -/
theorem equal_congr {a b : Expr} (h : a.equal b = true) (c : Expr) : c.equal a = c.equal b := by
  rw [Bool.eq_iff_iff]
  exact ⟨fun first => equal_trans first h, fun second => equal_trans second (equal_symm h)⟩

end Expr

end Sexpr

import Sexpr.Expr.Calls
import Sexpr.Proofs.Expr.Printed

/-!
# What keeps an expression from being printed

An expression is printed exactly if it needs no more calls than there are left to nest and every
integer in it is short. If it is not printed, the fault that is told is one that it has.
-/

namespace Sexpr.Expr

/-! ### Long integers -/

/-- Whether an expression has, at any depth, an integer with more digits than are printed. -/
def HasLongInteger (e : Expr) : Prop :=
  ∃ n : Int, .int n ∈ e.leaves ∧ 10 ^ Literal.digitLimit ≤ n.natAbs

theorem isPrintable_iff_not_hasLongInteger {e : Expr} :
    e.isPrintable = true ↔ ¬ e.HasLongInteger := by
  have short {n : Int} : (Nat.toDigits 10 n.natAbs).length ≤ Literal.digitLimit ↔
      ¬ 10 ^ Literal.digitLimit ≤ n.natAbs := by
    rw [Nat.length_toDigits_le_iff (by decide) (by decide), Nat.not_le]
  rw [isPrintable_iff]
  constructor
  · rintro h ⟨n, member, long⟩
    exact short.1 (h n member) long
  · intro h n member
    exact short.2 fun long => h ⟨n, member, long⟩

theorem hasLongInteger_atom_iff {literal : Literal} :
    (atom literal).HasLongInteger ↔ literal.isPrintable = false := by
  have own : (atom literal).isPrintable = literal.isPrintable := by simp [isPrintable, leaves]
  rw [← Bool.not_eq_true, ← own, isPrintable_iff_not_hasLongInteger, not_not]

theorem hasLongInteger_list_iff {items : List Expr} :
    (list items).HasLongInteger ↔ ∃ e ∈ items, e.HasLongInteger := by
  simp only [HasLongInteger, leaves, leavesAll_eq_flatMap, List.mem_flatMap]
  grind

/-! ### Calls and depth -/

mutual

/-- Each level of nesting takes the calls of a list, and an atom at the innermost level its own. -/
theorem calls_bounds (e : Expr) :
    listCalls * e.depth ≤ e.calls ∧ e.calls ≤ listCalls * e.depth + atomCalls := by
  cases e with
  | atom literal => simp [calls, depth]
  | list items =>
      have inner := callsAll_bounds items
      rw [calls, depth, Nat.mul_succ]
      omega

theorem callsAll_bounds (forest : List Expr) :
    listCalls * depthAll forest ≤ callsAll forest ∧
      callsAll forest ≤ listCalls * depthAll forest + atomCalls := by
  cases forest with
  | nil => simp [callsAll, depthAll]
  | cons e rest =>
      have first := calls_bounds e
      have later := callsAll_bounds rest
      rw [callsAll, depthAll, ← Nat.mul_max_mul_left]
      omega

end

/-! ### Faults -/

/-- Whether an expression has a fault where `room` calls are left to nest. -/
def HasFault (room : Nat) (e : Expr) : PrintFault → Prop
  | .nestedTooDeep => room < e.calls
  | .integerTooLong => e.HasLongInteger

theorem callsAll_le_iff {room : Nat} (forest : List Expr) :
    callsAll forest ≤ room ↔ ∀ e ∈ forest, e.calls ≤ room := by
  induction forest with
  | nil => simp [callsAll]
  | cons e rest ih => simp [callsAll, ih]

theorem faultAll?_eq_findSome? (room : Nat) (forest : List Expr) :
    faultAll? room forest = forest.findSome? (fault? room) := by
  induction forest with
  | nil => rfl
  | cons e rest ih =>
      rw [faultAll?, ih, List.findSome?_cons]
      cases fault? room e <;> rfl

/-- An expression is printed exactly if it needs no more calls than are left to nest and has no
long integer. -/
theorem fault?_eq_none_iff {room : Nat} (e : Expr) :
    e.fault? room = none ↔ e.calls ≤ room ∧ ¬ e.HasLongInteger := by
  cases e with
  | atom literal =>
      rw [hasLongInteger_atom_iff, fault?, calls]
      by_cases low : room < atomCalls
      · simp [low]
      · simp [low, Nat.le_of_not_lt low]
  | list items =>
      have inner : ∀ e ∈ items, fault? (room - listCalls) e = none ↔
          e.calls ≤ room - listCalls ∧ ¬ e.HasLongInteger := fun e _ => fault?_eq_none_iff e
      rw [hasLongInteger_list_iff, fault?, calls]
      by_cases low : room < listCalls
      · have beyond : ¬ listCalls + callsAll items ≤ room := by omega
        simp [low, beyond]
      · have fits : listCalls + callsAll items ≤ room ↔
            ∀ e ∈ items, e.calls ≤ room - listCalls := by
          rw [← callsAll_le_iff]
          omega
        rw [if_neg low, faultAll?_eq_findSome?, List.findSome?_eq_none_iff, fits]
        grind

/-- An expression has the fault that it is not printed for. -/
theorem hasFault_of_fault? {room : Nat} {fault : PrintFault} (e : Expr)
    (h : e.fault? room = some fault) : e.HasFault room fault := by
  cases e with
  | atom literal =>
      rw [fault?] at h
      split at h
      · next low =>
          cases h
          exact low
      · split at h
        · cases h
        · next long =>
            cases h
            exact hasLongInteger_atom_iff.2 (Bool.not_eq_true _ ▸ long)
  | list items =>
      rw [fault?] at h
      split at h
      · next low =>
          cases h
          exact Nat.lt_add_right _ low
      · rw [faultAll?_eq_findSome?] at h
        obtain ⟨e, member, met⟩ := List.exists_of_findSome?_eq_some h
        have inner := hasFault_of_fault? e met
        cases fault with
        | nestedTooDeep =>
            have below := (callsAll_le_iff items).1 (Nat.le_refl _) e member
            simp only [HasFault, calls] at inner ⊢
            omega
        | integerTooLong => exact hasLongInteger_list_iff.2 ⟨e, member, inner⟩

mutual

/-- The fault of an expression is the first that its events meet, and without one they leave as much
room as they found. -/
theorem firstFault?_events_append (room : Nat) (e : Expr) (rest : List Event) :
    Event.firstFault? room (e.events ++ rest) =
      (e.fault? room).or (Event.firstFault? room rest) := by
  cases e with
  | atom literal => rfl
  | list items =>
      rw [events_list, fault?, List.append_assoc, List.cons_append, Event.firstFault?]
      by_cases low : room < listCalls
      · simp [Event.fault?, low]
      · have inner := firstFault?_eventsAll_append (room - listCalls) items ([.leave] ++ rest)
        have returned : room - listCalls + listCalls = room := by omega
        have behind : Event.firstFault? (room - listCalls) ([.leave] ++ rest) =
            Event.firstFault? room rest := by
          simp [Event.firstFault?, Event.fault?, Event.roomBehind, returned]
        rw [Event.roomBehind, inner, behind, Event.fault?, if_neg low, if_neg low, Option.none_or]

theorem firstFault?_eventsAll_append (room : Nat) (forest : List Expr) (rest : List Event) :
    Event.firstFault? room (eventsAll forest ++ rest) =
      (faultAll? room forest).or (Event.firstFault? room rest) := by
  cases forest with
  | nil => rfl
  | cons e later =>
      have first := firstFault?_events_append room e (eventsAll later ++ rest)
      have others := firstFault?_eventsAll_append room later rest
      rw [eventsAll_cons, List.append_assoc, first, others, faultAll?]
      cases fault? room e <;> rfl

end

/-- What keeps an expression from being printed is what its events meet first. -/
theorem firstFault?_events (room : Nat) (e : Expr) :
    Event.firstFault? room e.events = e.fault? room := by
  have ended : Event.firstFault? room [] = none := rfl
  have whole := firstFault?_events_append room e []
  rwa [List.append_nil, ended, Option.or_none] at whole

/-- Without a long integer nothing but the nesting keeps an expression from being printed. -/
theorem fault?_eq_nestedTooDeep {room : Nat} {e : Expr} (short : ¬ e.HasLongInteger)
    (deep : room < e.calls) : e.fault? room = some .nestedTooDeep := by
  cases met : e.fault? room with
  | none => exact absurd ((fault?_eq_none_iff e).1 met).1 (Nat.not_le.2 deep)
  | some fault =>
      cases fault with
      | nestedTooDeep => rfl
      | integerTooLong => exact absurd (hasFault_of_fault? e met) short

end Sexpr.Expr

import Mathlib.Data.List.Induction
import Mathlib.Order.Bounds.Defs
import Sexpr.Expr.Dictionary
import Sexpr.Expr.Grouping
import Sexpr.Proofs.Expr.Equal
import Sexpr.Proofs.Expr.Source

/-!
# Groups of equal expressions

If every double in a forest is a number then equality sorts its expressions into groups, and the
first index of an expression names its group. A dictionary finds the same groups with any hashes
that respect equality. Everything that is read from source text is such a forest.
-/

namespace Sexpr

namespace Expr

/-! ### The first equal expression -/

section FirstEqual

variable {forest more : List Expr} {a b : Expr}

theorem exists_equal_of_mem (member : a ∈ forest) (numeric : a.IsNumeric) :
    ∃ x ∈ forest, x.equal a = true :=
  ⟨a, member, equal_self_iff.2 numeric⟩

theorem firstEqual_lt_length_iff :
    firstEqual forest a < forest.length ↔ ∃ x ∈ forest, x.equal a = true :=
  List.findIdx_lt_length

/-- The first index names an expression that is equal, and none before it is. -/
theorem isLeast_firstEqual (found : ∃ x ∈ forest, x.equal a = true) :
    IsLeast {k | ∃ x, forest[k]? = some x ∧ x.equal a = true} (firstEqual forest a) := by
  have inside := firstEqual_lt_length_iff.2 found
  have equal : forest[firstEqual forest a].equal a = true :=
    @List.findIdx_getElem Expr (fun x => equal x a) forest inside
  refine ⟨⟨_, List.getElem?_eq_getElem inside, equal⟩, ?_⟩
  rintro k ⟨x, here, equal⟩
  obtain ⟨hk, rfl⟩ := List.getElem?_eq_some_iff.1 here
  by_contra earlier
  have unequal : forest[k].equal a = false := List.not_of_lt_findIdx (Nat.lt_of_not_le earlier)
  rw [equal] at unequal
  cases unequal

/-- Equal expressions have the same first index. -/
theorem firstEqual_congr (forest : List Expr) (h : a.equal b = true) :
    firstEqual forest a = firstEqual forest b := by
  rw [firstEqual, firstEqual, funext (equal_congr h)]

theorem firstEqual_eq_iff (foundA : ∃ x ∈ forest, x.equal a = true)
    (foundB : ∃ x ∈ forest, x.equal b = true) :
    firstEqual forest a = firstEqual forest b ↔ a.equal b = true := by
  refine ⟨fun same => ?_, firstEqual_congr forest⟩
  obtain ⟨x, hx, equalA⟩ := (isLeast_firstEqual foundA).1
  obtain ⟨y, hy, equalB⟩ := (isLeast_firstEqual foundB).1
  obtain rfl : x = y := Option.some.inj (hx.symm.trans (same ▸ hy))
  exact equal_trans (equal_symm equalA) equalB

theorem firstEqual_append_eq : firstEqual (forest ++ more) a =
    if firstEqual forest a < forest.length then firstEqual forest a
    else firstEqual more a + forest.length :=
  List.findIdx_append

/-- Expressions behind the first equal one do not count. -/
theorem firstEqual_append (found : ∃ x ∈ forest, x.equal a = true) :
    firstEqual (forest ++ more) a = firstEqual forest a := by
  rw [firstEqual_append_eq, if_pos (firstEqual_lt_length_iff.2 found)]

/-- An expression that is equal to none before it is the first of its group. -/
theorem firstEqual_append_self (missing : ¬ ∃ x ∈ forest, x.equal a = true)
    (numeric : a.IsNumeric) : firstEqual (forest ++ [a]) a = forest.length := by
  have self : a.equal a = true := equal_self_iff.2 numeric
  rw [firstEqual_append_eq, if_neg (mt firstEqual_lt_length_iff.1 missing), firstEqual,
    List.findIdx_cons, self]
  exact Nat.zero_add _

end FirstEqual

/-! ### One more expression -/

section Grow

variable {seen : List Expr} {e : Expr}

theorem firstIndices_append_singleton (numeric : ∀ x ∈ seen, x.IsNumeric) :
    firstIndices (seen ++ [e]) = firstIndices seen ++ [firstEqual (seen ++ [e]) e] := by
  rw [firstIndices, List.map_append]
  refine congrArg (· ++ _) (List.map_congr_left fun x member => ?_)
  exact firstEqual_append (exists_equal_of_mem member (numeric x member))

theorem distinct_append_singleton : distinct (seen ++ [e]) =
    if (distinct seen).any (·.equal e) then distinct seen else distinct seen ++ [e] := by
  rw [distinct, List.foldl_append]
  rfl

/-- An expression is equal to one of a forest exactly if it is equal to one that stands for its
group. -/
theorem any_distinct_iff (numeric : ∀ x ∈ seen, x.IsNumeric) (e : Expr) :
    (distinct seen).any (·.equal e) = true ↔ ∃ x ∈ seen, x.equal e = true := by
  induction seen using List.reverseRecOn generalizing e with
  | nil => simp [distinct]
  | append_singleton seen last ih =>
      have ih := ih fun x member => numeric x (List.mem_append_left _ member)
      rw [distinct_append_singleton]
      by_cases known : (distinct seen).any (·.equal last) = true
      · obtain ⟨y, member, equal⟩ := (ih last).1 known
        rw [if_pos known, ih e]
        constructor
        · rintro ⟨x, member, equal⟩
          exact ⟨x, List.mem_append_left _ member, equal⟩
        · rintro ⟨x, inside, equalX⟩
          rcases List.mem_append.1 inside with before | here
          · exact ⟨x, before, equalX⟩
          · obtain rfl := List.mem_singleton.1 here
            exact ⟨y, member, equal_trans equal equalX⟩
      · rw [if_neg known, List.any_append, Bool.or_eq_true, ih e]
        simp [or_and_right, exists_or]

theorem mem_of_mem_distinct (member : e ∈ distinct seen) : e ∈ seen := by
  induction seen using List.reverseRecOn with
  | nil => cases member
  | append_singleton seen last ih =>
      rw [distinct_append_singleton] at member
      split at member
      · exact List.mem_append_left _ (ih member)
      · rcases List.mem_append.1 member with before | here
        · exact List.mem_append_left _ (ih before)
        · exact List.mem_append_right _ here

end Grow

/-! ### Groups -/

/-- The indices and the number say how a forest falls into groups of equal expressions: each
expression has the index of the first of its group, and groups are counted at their first. -/
structure IsGrouping (forest : List Expr) (firsts : List Nat) (count : Nat) : Prop where
  length : firsts.length = forest.length
  least : ∀ {i k : Nat}, firsts[i]? = some k →
    IsLeast {j | ∃ x e, forest[j]? = some x ∧ forest[i]? = some e ∧ x.equal e = true} k
  same : ∀ {i j : Nat} {a b : Expr}, forest[i]? = some a → forest[j]? = some b →
    (firsts[i]? = firsts[j]? ↔ a.equal b = true)
  first : ∀ {i k : Nat}, firsts[i]? = some k → firsts[k]? = some k
  counted : count = (List.range forest.length).countP fun i => firsts[i]? = some i

theorem getElem?_firstIndices_eq_some_iff {forest : List Expr} {i k : Nat} :
    (firstIndices forest)[i]? = some k ↔
      ∃ e, forest[i]? = some e ∧ firstEqual forest e = k := by
  rw [firstIndices, List.getElem?_map, Option.map_eq_some_iff]

/-- There are as many different expressions as expressions that are the first of their group. -/
theorem length_distinct {forest : List Expr} (numeric : ∀ x ∈ forest, x.IsNumeric) :
    (distinct forest).length =
      (List.range forest.length).countP fun i => (firstIndices forest)[i]? = some i := by
  induction forest using List.reverseRecOn with
  | nil => rfl
  | append_singleton seen e ih =>
      have before := fun x member => numeric x (List.mem_append_left [e] member)
      have own := numeric e (by simp)
      have old : (List.range seen.length).countP
            (fun i => (firstIndices (seen ++ [e]))[i]? = some i) = (distinct seen).length := by
        rw [ih before, firstIndices_append_singleton before]
        refine List.countP_congr fun i member => ?_
        have inside : i < (firstIndices seen).length := by simpa using member
        rw [List.getElem?_append_left inside]
      have new : (firstIndices (seen ++ [e]))[seen.length]? =
          some (firstEqual (seen ++ [e]) e) := by
        simp [firstIndices]
      rw [List.length_append, List.length_singleton, List.range_succ, List.countP_append, old,
        List.countP_singleton, new, distinct_append_singleton]
      by_cases known : ∃ x ∈ seen, x.equal e = true
      · have inside : firstEqual seen e < seen.length := firstEqual_lt_length_iff.2 known
        rw [if_pos ((any_distinct_iff before e).2 known), firstEqual_append known]
        simp [inside.ne]
      · rw [if_neg (mt (any_distinct_iff before e).1 known), firstEqual_append_self known own]
        simp

/-- The first indices and the different expressions say how a forest falls into groups. -/
theorem isGrouping_of_isNumeric {forest : List Expr} (numeric : ∀ x ∈ forest, x.IsNumeric) :
    IsGrouping forest (firstIndices forest) (distinct forest).length where
  length := length_firstIndices forest
  least := by
    intro i k h
    obtain ⟨e, here, rfl⟩ := getElem?_firstIndices_eq_some_iff.1 h
    have member := List.mem_of_getElem? here
    simpa [here] using isLeast_firstEqual (exists_equal_of_mem member (numeric e member))
  same := by
    intro i j a b hi hj
    have memberA := List.mem_of_getElem? hi
    have memberB := List.mem_of_getElem? hj
    rw [firstIndices, List.getElem?_map, List.getElem?_map, hi, hj]
    simpa using firstEqual_eq_iff (exists_equal_of_mem memberA (numeric a memberA))
      (exists_equal_of_mem memberB (numeric b memberB))
  first := by
    intro i k h
    obtain ⟨e, here, rfl⟩ := getElem?_firstIndices_eq_some_iff.1 h
    have member := List.mem_of_getElem? here
    obtain ⟨x, found, equal⟩ :=
      (isLeast_firstEqual (exists_equal_of_mem member (numeric e member))).1
    exact getElem?_firstIndices_eq_some_iff.2 ⟨x, found, firstEqual_congr forest equal⟩
  counted := length_distinct numeric

end Expr

/-! ### Hashes -/

theorem Literal.hash_eq_of_equal (h : Hashing) {l m : Literal} (equal : l.equal m = true) :
    l.hash h = m.hash h := by
  cases Literal.equal_iff.1 equal with
  | float hx hy same => rw [hash, hash, h.float_eq (Binary64.equal_iff.2 ⟨hx, hy, same⟩)]
  | _ => rfl

namespace Expr

variable (h : Hashing)

mutual

/-- Equal expressions have the same hash. -/
theorem hash_eq_of_equal (a b : Expr) (equal : a.equal b = true) : a.hash h = b.hash h := by
  cases a with
  | atom l =>
      cases b with
      | atom m => rw [hash, hash, Literal.hash_eq_of_equal h equal]
      | list others => cases equal
  | list items =>
      cases b with
      | atom m => cases equal
      | list others => rw [hash, hash, hashAll_eq_of_equalAll items others equal]

theorem hashAll_eq_of_equalAll (forest others : List Expr) (equal : equalAll forest others = true) :
    hashAll h forest = hashAll h others := by
  cases forest with
  | nil =>
      cases others with
      | nil => rfl
      | cons f others => cases equal
  | cons e rest =>
      cases others with
      | nil => cases equal
      | cons f others =>
          obtain ⟨first, later⟩ := Bool.and_eq_true_iff.1 equal
          rw [hashAll, hashAll, hash_eq_of_equal e f first, hashAll_eq_of_equalAll rest others later]

end

end Expr

namespace Dictionary

open Sexpr.Expr (firstEqual firstIndices distinct IsNumeric)

/-- The dictionary knows the groups of the expressions put in so far: its keys are the first
expressions of the groups, each with its own hash and index. -/
structure Reflects (h : Hashing) (seen : List Expr) (d : Dictionary) : Prop where
  firsts : d.firsts = firstIndices seen
  keys : d.slots.map Slot.key = distinct seen
  hashed : ∀ slot ∈ d.slots, slot.hash = slot.key.hash h
  indexed : ∀ slot ∈ d.slots, slot.index = firstEqual seen slot.key

variable {h : Hashing} {seen : List Expr} {d : Dictionary} {e : Expr}

theorem Reflects.mem_of_mem_slots (known : Reflects h seen d) {slot : Slot}
    (member : slot ∈ d.slots) : slot.key ∈ seen :=
  Expr.mem_of_mem_distinct (known.keys ▸ List.mem_map_of_mem member)

theorem equal_of_slot?_eq_some {hash : Int} {slot : Slot} (found : d.slot? hash e = some slot) :
    slot ∈ d.slots ∧ slot.key.equal e = true := by
  rw [slot?] at found
  have fits := List.find?_some found
  exact ⟨List.mem_of_find?_eq_some found, (Bool.and_eq_true_iff.1 fits).2⟩

/-- A slot is found exactly for what is equal to an expression put in before: an equal key cannot
hide behind another hash. -/
theorem Reflects.slot?_eq_none_iff (known : Reflects h seen d)
    (numeric : ∀ x ∈ seen, x.IsNumeric) :
    d.slot? (e.hash h) e = none ↔ ¬ ∃ x ∈ seen, x.equal e = true := by
  rw [← Expr.any_distinct_iff numeric, ← known.keys, slot?, List.find?_eq_none, List.any_map]
  simp only [Bool.and_eq_true, beq_iff_eq, List.any_eq_true, Function.comp_apply]
  constructor
  · rintro missing ⟨slot, member, equal⟩
    exact missing slot member
      ⟨(known.hashed slot member).trans (Expr.hash_eq_of_equal h _ _ equal), equal⟩
  · rintro missing slot member ⟨-, equal⟩
    exact missing ⟨slot, member, equal⟩

/-- Putting in one more expression keeps the dictionary in step with the groups. -/
theorem Reflects.add (known : Reflects h seen d) (numeric : ∀ x ∈ seen, x.IsNumeric)
    (own : e.IsNumeric) : Reflects h (seen ++ [e]) (d.add h e) := by
  have kept : ∀ slot ∈ d.slots, firstEqual (seen ++ [e]) slot.key = firstEqual seen slot.key := by
    intro slot member
    have inside := known.mem_of_mem_slots member
    exact Expr.firstEqual_append (Expr.exists_equal_of_mem inside (numeric _ inside))
  have firsts := Expr.firstIndices_append_singleton (e := e) numeric
  cases found : d.slot? (e.hash h) e with
  | some slot =>
      obtain ⟨member, equal⟩ := equal_of_slot?_eq_some found
      have before : ∃ x ∈ seen, x.equal e = true := ⟨_, known.mem_of_mem_slots member, equal⟩
      have index : firstEqual (seen ++ [e]) e = slot.index := by
        rw [Expr.firstEqual_append before, known.indexed slot member,
          Expr.firstEqual_congr seen equal]
      simp only [Dictionary.add, found]
      refine ⟨?_, ?_, known.hashed, fun slot member => ?_⟩
      · rw [firsts, index, known.firsts]
      · rw [Expr.distinct_append_singleton, if_pos ((Expr.any_distinct_iff numeric e).2 before),
          known.keys]
      · rw [kept slot member, known.indexed slot member]
  | none =>
      have missing := (known.slot?_eq_none_iff numeric).1 found
      have index : firstEqual (seen ++ [e]) e = d.firsts.length := by
        rw [Expr.firstEqual_append_self missing own, known.firsts, Expr.length_firstIndices]
      simp only [Dictionary.add, found]
      refine ⟨?_, ?_, fun slot member => ?_, fun slot member => ?_⟩
      · rw [firsts, index, known.firsts]
      · rw [Expr.distinct_append_singleton,
          if_neg (mt (Expr.any_distinct_iff numeric e).1 missing), ← known.keys]
        simp
      · rcases List.mem_append.1 member with old | new
        · exact known.hashed slot old
        · obtain rfl := List.mem_singleton.1 new
          rfl
      · rcases List.mem_append.1 member with old | new
        · rw [kept slot old, known.indexed slot old]
        · obtain rfl := List.mem_singleton.1 new
          exact index.symm

/-- A dictionary of a forest knows its groups. -/
theorem reflects_ofForest (h : Hashing) {forest : List Expr}
    (numeric : ∀ x ∈ forest, x.IsNumeric) : Reflects h forest (ofForest h forest) := by
  induction forest using List.reverseRecOn with
  | nil => exact ⟨rfl, rfl, by simp [ofForest], by simp [ofForest]⟩
  | append_singleton seen e ih =>
      have before := fun x member => numeric x (List.mem_append_left [e] member)
      rw [ofForest, List.foldl_append]
      exact (ih before).add before (numeric e (by simp))

end Dictionary

/-- Numbers hashed by their value modulo the Mersenne prime of 61 bits, whatever their kind is. The
unit of doubles is the inverse of `2 ^ 1074`, which is `2 ^ 24` modulo that prime. -/
def Hashing.modular : Hashing where
  int := residue
  float x := residue (x.value * 16777216)
  bool b := residue b.toNat
  text t := residue (t.foldl (fun n c => 31 * n + c.toNat) 0)
  tuple hashes := residue (hashes.foldl (fun n m => 1000003 * n + m) 0)
  float_eq := fun h => by rw [(Binary64.equal_iff.1 h).2.2]
where
  /-- The remainder, with the sign of the number. -/
  residue (n : Int) : Int := n.tmod 2305843009213693951

namespace Expr

open Literal (SameValue)

/-- Whether the expression is one that some source text is read as, alone or among others. -/
def IsRead (e : Expr) : Prop :=
  ∃ (source : Text) (forest : List Expr), (readSource source).outcome = .ok forest ∧ e ∈ forest

/-- No token stands for a double that is no number. -/
theorem IsRead.isNumeric {e : Expr} (h : e.IsRead) : e.IsNumeric := by
  obtain ⟨source, forest, h, member⟩ := h
  intro l leaf
  have inside : l ∈ leavesAll forest := by
    rw [leavesAll_eq_flatMap]
    exact List.mem_flatMap.2 ⟨e, member, leaf⟩
  have own := areWellFormed_of_readSource h l inside
  cases l with
  | float x => exact own
  | _ => rfl

/-- Equality compares shapes and the values of leaves, and is symmetric and transitive; an
expression is equal to itself exactly if every double in it is a number. That holds of everything
that is read, where equality is an equivalence, and the indices that are told of the expressions of
a source text say which of them are equal. A dictionary tells the same, however it hashes. -/
theorem equal_coherent :
    (∀ a b : Expr, a.equal b = true ↔
      a.shape = b.shape ∧ List.Forall₂ SameValue a.leaves b.leaves) ∧
    (∀ a b : Expr, a.equal b = true → b.equal a = true) ∧
    (∀ a b c : Expr, a.equal b = true → b.equal c = true → a.equal c = true) ∧
    (∀ a : Expr, a.equal a = true ↔ ∀ l ∈ a.leaves, l.isNaN = false) ∧
    (∀ e : Expr, e.IsRead → ∀ l ∈ e.leaves, l.isNaN = false) ∧
    Equivalence (fun a b : {e : Expr // e.IsRead} => a.1.equal b.1 = true) ∧
    ∀ (source : Text) (forest : List Expr), (readSource source).outcome = .ok forest →
      IsGrouping forest (firstIndices forest) (distinct forest).length ∧
      ∀ h : Hashing, (Dictionary.ofForest h forest).firsts = firstIndices forest ∧
        (Dictionary.ofForest h forest).slots.length = (distinct forest).length := by
  refine ⟨fun _ _ => equal_iff, fun _ _ => equal_symm, fun _ _ _ => equal_trans,
    fun _ => equal_self_iff, fun _ => IsRead.isNumeric, ?_, ?_⟩
  · exact ⟨fun a => equal_self_iff.2 a.2.isNumeric, equal_symm, equal_trans⟩
  · intro source forest h
    have numeric : ∀ e ∈ forest, e.IsNumeric := fun e member =>
      IsRead.isNumeric ⟨source, forest, h, member⟩
    refine ⟨isGrouping_of_isNumeric numeric, fun hashing => ?_⟩
    have known := Dictionary.reflects_ofForest hashing numeric
    refine ⟨known.firsts, ?_⟩
    rw [← known.keys, List.length_map]

/-- The integer, the double and the truth value have one hash and are told apart; the two zeros are
found equal inside lists. -/
theorem equal_coherent_zeros :
    Literal.hash .modular (.int 1) = Literal.hash .modular (.bool true) ∧
      ∃ forest : List Expr,
        (readSource "1 1.0 #t (0.0) (-0.0) 1".toList).outcome = .ok forest ∧
        firstIndices forest = [0, 1, 2, 3, 3, 0] ∧
        IsGrouping forest [0, 1, 2, 3, 3, 0] 4 ∧
        (Dictionary.ofForest .modular forest).firsts = [0, 1, 2, 3, 3, 0] := by
  have computed : (readSource "1 1.0 #t (0.0) (-0.0) 1".toList).outcome.toOption.map
      (fun forest => (firstIndices forest, (distinct forest).length)) =
        some ([0, 1, 2, 3, 3, 0], 4) := by
    decide +kernel
  obtain ⟨forest, found, values⟩ := Option.map_eq_some_iff.1 computed
  obtain ⟨firsts, count⟩ := Prod.mk.inj values
  have read : (readSource "1 1.0 #t (0.0) (-0.0) 1".toList).outcome = .ok forest := by
    cases outcome : (readSource "1 1.0 #t (0.0) (-0.0) 1".toList).outcome with
    | error e => rw [outcome] at found; cases found
    | ok forest' => rw [outcome] at found; exact congrArg _ (Option.some.inj found)
  obtain ⟨grouping, dictionary⟩ := equal_coherent.2.2.2.2.2.2 _ _ read
  exact ⟨by decide, forest, read, firsts, firsts ▸ count ▸ grouping,
    (dictionary .modular).1.trans firsts⟩

end Expr

end Sexpr

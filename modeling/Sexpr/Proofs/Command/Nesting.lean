import Sexpr.Proofs.Command.Report
import Sexpr.Proofs.Expr.Source

/-!
# Files that are nested too deep

Reading a file knows no bound on the nesting, but printing it does: what is nested no deeper than
246 lists is printed wherever it stands, and what is nested deeper than 248 lists never is. So there
are files without a fault in the source text, and without any integer at all, that are read and
break the command off before it shows a line.
-/

namespace Sexpr

namespace Report

/-- Expressions that are nested no deeper than 246 lists, and have no long integer, are printed at
any place. -/
theorem allPrinted_of_depth_le {forest : List Expr} (shallow : ∀ e ∈ forest, e.depth ≤ 246)
    (short : ∀ e ∈ forest, ¬ e.HasLongInteger) : AllPrinted forest := by
  intro i e found
  have member := List.mem_of_getElem? found
  refine ⟨?_, short e member⟩
  have depth := shallow e member
  have calls := e.calls_bounds.2
  simp only [Expr.listCalls, Expr.atomCalls, roomAt, callLimit, callsAround] at calls ⊢
  split <;> omega

/-- An expression that is nested deeper than 248 lists is printed at no place. -/
theorem not_allPrinted_of_lt_depth {forest : List Expr} {e : Expr} (member : e ∈ forest)
    (deep : 248 < e.depth) : ¬ AllPrinted forest := by
  intro printed
  obtain ⟨i, found⟩ := List.mem_iff_getElem?.1 member
  have room := (printed i e found).1
  have calls := e.calls_bounds.1
  simp only [Expr.listCalls, roomAt, callLimit, callsAround] at calls room
  split at room <;> omega

theorem ofForest_singleton (log : Text) (e : Expr) :
    ofForest log [e] =
      ⟨if (e.fault? (roomAt 0)).isNone then Text.line e.printed else [], log,
        .ofFault (e.fault? (roomAt 0))⟩ := by
  rw [ofForest]
  cases met : e.fault? (roomAt 0) <;> simp [fault?, met]

end Report

/-! ### Brackets in brackets -/

/-- Opening brackets and as many closing brackets behind them. -/
def brackets (depth : Nat) : Text := List.replicate depth '(' ++ List.replicate depth ')'

/-- The list that has nothing but lists in it, around `depth` others. -/
def Expr.nested : Nat → Expr
  | 0 => .list []
  | depth + 1 => .list [nested depth]

theorem Expr.calls_nested (depth : Nat) : (nested depth).calls = listCalls * (depth + 1) := by
  induction depth with
  | zero => rfl
  | succ depth ih =>
      rw [nested, calls, callsAll, callsAll, ih, Nat.max_zero, Nat.mul_succ _ (depth + 1),
        Nat.add_comm]

theorem Expr.leaves_nested (depth : Nat) : (nested depth).leaves = [] := by
  induction depth with
  | zero => rfl
  | succ depth ih => simp [nested, leaves, leavesAll, ih]

theorem Expr.not_hasLongInteger_nested (depth : Nat) : ¬ (nested depth).HasLongInteger := by
  rintro ⟨n, member, -⟩
  rw [leaves_nested] at member
  cases member

theorem Expr.events_nested (depth : Nat) :
    (nested depth).events =
      List.replicate (depth + 1) .enter ++ List.replicate (depth + 1) .leave := by
  induction depth with
  | zero => rfl
  | succ depth ih =>
      have first : List.replicate (depth + 2) Event.enter =
          .enter :: List.replicate (depth + 1) .enter := List.replicate_succ
      have last : List.replicate (depth + 2) Event.leave =
          List.replicate (depth + 1) .leave ++ [.leave] := List.replicate_succ'
      rw [nested, events_list, eventsAll_cons, eventsAll_nil, ih, first, last]
      simp only [List.append_nil, List.cons_append, List.append_assoc]

theorem Token.Lexer.run_replicate {c : Char} {token : Token}
    (single : ∀ tokens, step ⟨.word [], tokens⟩ c = ⟨.word [], token :: tokens⟩) (count : Nat)
    (tokens : List Token) :
    run ⟨.word [], tokens⟩ (List.replicate count c) =
      ⟨.word [], List.replicate count token ++ tokens⟩ := by
  induction count generalizing tokens with
  | zero => rfl
  | succ count ih =>
      rw [List.replicate_succ, run_cons, single, ih, List.replicate_succ', List.append_assoc]
      rfl

theorem tokens?_brackets (depth : Nat) :
    tokens? (brackets depth) =
      some (List.replicate depth .lparen ++ List.replicate depth .rparen) := by
  have opened (tokens : List Token) :
      Token.Lexer.step ⟨.word [], tokens⟩ '(' = ⟨.word [], .lparen :: tokens⟩ := rfl
  have closed (tokens : List Token) :
      Token.Lexer.step ⟨.word [], tokens⟩ ')' = ⟨.word [], .rparen :: tokens⟩ := rfl
  rw [tokens?, brackets, Token.Lexer.run_append, Token.Lexer.run_replicate opened,
    Token.Lexer.run_replicate closed]
  simp [Token.Lexer.finish?, Token.Lexer.tokensWith]

theorem normalizeNewlines_brackets (depth : Nat) :
    Text.normalizeNewlines (brackets depth) = brackets depth := by
  have noReturn : '\r' ∉ brackets depth := by simp [brackets, List.mem_replicate]
  exact Text.normalizeNewlines_eq_self noReturn

/-- Brackets are read however many there are. -/
theorem readSource_brackets (depth : Nat) :
    (readSource (Text.normalizeNewlines (brackets (depth + 1)))).outcome = .ok [.nested depth] := by
  have wellFormed : Expr.AreWellFormed [.nested depth] := by
    simp [Expr.AreWellFormed, Expr.leavesAll, Expr.leaves_nested]
  have tokens : tokens? (brackets (depth + 1)) =
      some ((Expr.eventsAll [.nested depth]).map Event.token) := by
    simp [tokens?_brackets, Expr.events_nested, Event.token]
  rw [normalizeNewlines_brackets, readSource, tokens]
  exact read_map_token_eventsAll wellFormed

/-- A file of brackets is shown if no more than 248 of them are open at once, and otherwise the
command breaks off without a line. -/
theorem command_brackets (depth : Nat) {args : List Text} {path : Text} {folder : Folder}
    (alone : args.erase Invocation.verboseOption = [path])
    (opened : folder.openFile (.ofText path) = .ok (brackets (depth + 1)).utf8Encode) :
    (depth < 248 → (command args folder).stdout = (Expr.nested depth).printed ++ ['\n'] ∧
      (command args folder).ending = .done) ∧
    (248 ≤ depth → (command args folder).stdout = [] ∧
      (command args folder).ending = .crashed (.unprintable .nestedTooDeep)) := by
  have short := Expr.not_hasLongInteger_nested depth
  have calls := Expr.calls_nested depth
  have room : Report.roomAt 0 = 994 := rfl
  rw [Expr.listCalls] at calls
  rw [command_eq_ofContents alone opened, Report.ofContents_utf8Encode,
    Report.ofReading_of_ok (readSource_brackets depth), Report.ofForest_singleton]
  constructor
  · intro shallow
    have printed : (Expr.nested depth).fault? (Report.roomAt 0) = none :=
      (Expr.fault?_eq_none_iff _).2 ⟨by omega, short⟩
    rw [printed]
    exact ⟨rfl, rfl⟩
  · intro deep
    rw [Expr.fault?_eq_nestedTooDeep short (by omega)]
    exact ⟨rfl, rfl⟩

/-- A thousand opening brackets and as many closing ones: they are read as one expression without
any integer, but nothing is shown of it, and the exit status is not zero. -/
theorem command_brackets_thousand :
    ["p.hasp".toList].erase Invocation.verboseOption = ["p.hasp".toList] ∧
      (Folder.mk [(["p.hasp".toList], (brackets 1000).utf8Encode)]).openFile
        (.ofText "p.hasp".toList) = .ok (brackets 1000).utf8Encode ∧
      (readSource (Text.normalizeNewlines (brackets 1000))).outcome = .ok [.nested 999] ∧
      ¬ (Expr.nested 999).HasLongInteger ∧
      ∃ report : Report, report =
          command ["p.hasp".toList] ⟨[(["p.hasp".toList], (brackets 1000).utf8Encode)]⟩ ∧
        report.stdout = [] ∧ report.stdout ≠ (Expr.nested 999).printed ++ ['\n'] ∧
        report.ending = .crashed (.unprintable .nestedTooDeep) ∧ report.ending.code = 1 := by
  have opens (contents : ByteArray) : (Folder.mk [(["p.hasp".toList], contents)]).openFile
      (.ofText "p.hasp".toList) = .ok contents := by rfl
  have alone : ["p.hasp".toList].erase Invocation.verboseOption = ["p.hasp".toList] := by decide
  have deep := (command_brackets 999 alone (opens _)).2 (by decide)
  refine ⟨alone, opens _, readSource_brackets 999, Expr.not_hasLongInteger_nested 999, _, rfl,
    deep.1, ?_, deep.2, ?_⟩
  · rw [deep.1]
    simp
  · rw [deep.2]
    rfl

end Sexpr

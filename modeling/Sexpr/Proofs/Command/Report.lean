import Sexpr.Command.Invocation
import Sexpr.Proofs.Expr.Calls
import Sexpr.Proofs.Text.Line
import Sexpr.Proofs.Token.Atom

/-!
# What the command shows

Everything the command writes is written line by line, so what it shows for a file can be told from
the lines. The contents of the file decide which of three things happens: they are no text, or a
text with an error, or a forest, whose expressions are shown up to the first that has an integer
with too many digits or is nested deeper than there are calls left at its place.
-/

namespace Sexpr

/-! ### Contents that are a text -/

/-- Contents that are UTF-8 are decoded to the text that was encoded, with its line ends made line
feeds. -/
theorem decode?_utf8Encode (raw : Text) :
    decode? raw.utf8Encode = some (Text.normalizeNewlines raw) := by
  have valid : String.fromUTF8? raw.utf8Encode = some (String.ofList raw) := by
    rw [String.fromUTF8?, dif_pos ⟨raw, rfl⟩]
    rfl
  rw [decode?, valid, Option.map_some, String.toList_ofList]

theorem decode?_eq_none {contents : ByteArray}
    (invalid : ¬ ∃ raw : Text, contents = raw.utf8Encode) : decode? contents = none := by
  have undecodable : String.fromUTF8? contents = none := by
    rw [String.fromUTF8?, dif_neg]
    rintro ⟨raw, same⟩
    exact invalid ⟨raw, same⟩
  rw [decode?, undecodable, Option.map_none]

theorem exists_utf8Encode_of_decode? {contents : ByteArray} {source : Text}
    (h : decode? contents = some source) :
    ∃ raw : Text, contents = raw.utf8Encode ∧ source = Text.normalizeNewlines raw := by
  by_cases valid : ∃ raw : Text, contents = raw.utf8Encode
  · obtain ⟨raw, rfl⟩ := valid
    exact ⟨raw, rfl, Option.some.inj (h.symm.trans (decode?_utf8Encode raw))⟩
  · rw [decode?_eq_none valid] at h
    cases h

/-- No two texts have the same encoding. -/
theorem utf8Encode_inj {raw other : Text} (same : raw.utf8Encode = other.utf8Encode) :
    raw = other := by
  rw [← String.toByteArray_ofList, ← String.toByteArray_ofList, String.toByteArray_inj] at same
  exact String.ofList_injective same

/-! ### Texts without line feeds -/

theorem feed_not_mem_toDigits (n : Nat) : '\n' ∉ Nat.toDigits 10 n := by
  intro member
  have digit := Nat.isDigit_of_mem_toDigits (by decide) (by decide) member
  cases digit

/-- Each log entry is a single line. -/
theorem LogEntry.feed_not_mem_message (entry : LogEntry) : '\n' ∉ entry.message := by
  have digits := feed_not_mem_toDigits
  cases entry with
  | parsed expressions tokens =>
      have counted := List.not_mem_append (by decide : '\n' ∉ "parsed ".toList) (digits expressions)
      have from_ := List.not_mem_append counted (by decide : '\n' ∉ " expression(s) from ".toList)
      exact List.not_mem_append (List.not_mem_append from_ (digits tokens)) (by decide)
  | stillOpen lists => exact List.not_mem_append (digits lists) (by decide)
  | unmatchedClose place => exact List.not_mem_append (by decide) (digits place)

/-- An error of a source text is told in a single line: a token that is no literal is a word. -/
theorem feed_not_mem_message {source : Text} {e : ReadError}
    (h : (readSource source).outcome = .error e) : '\n' ∉ e.message := by
  cases e with
  | unterminatedString => decide
  | extraClose => decide
  | missingClose => decide
  | invalidAtom t =>
      rcases readSource_cases source with ⟨-, same⟩ | ⟨tokens, found, same⟩
      · rw [same] at h
        cases h
      · rw [same] at h
        obtain ⟨member, unclassified⟩ := mem_of_read_eq_invalidAtom h
        rcases isValid_or_exists_body_of_mem found member with ⟨-, plain⟩ | ⟨body, escaped, rfl⟩
        · have inside : '\n' ∉ t := fun feed => by cases plain '\n' feed
          exact List.not_mem_append (List.not_mem_append (by decide) inside) (by decide)
        · rw [Literal.classify_string escaped] at unclassified
          cases unclassified

theorem Expr.feed_not_mem_printed (e : Expr) : '\n' ∉ e.printed := by
  intro member
  cases e.isPrintable_of_mem_printed '\n' member

namespace Report

/-! ### Readings -/

/-- The lines of the log that are shown for a reading. -/
def logTexts (verbose : Bool) (reading : Reading) : List Text :=
  if verbose then reading.log.toList.map fun entry => "hasp.parser: ".toList ++ entry.message
  else []

theorem feed_not_mem_logTexts {verbose : Bool} {reading : Reading} :
    ∀ t ∈ logTexts verbose reading, '\n' ∉ t := by
  intro t member
  cases verbose with
  | false => cases member
  | true =>
      obtain ⟨entry, -, rfl⟩ := List.mem_map.1 member
      exact List.not_mem_append (by decide) entry.feed_not_mem_message

theorem log_eq (verbose : Bool) (reading : Reading) :
    (if verbose then reading.log.toList.flatMap logLine else []) =
      (logTexts verbose reading).flatMap Text.line := by
  cases verbose with
  | false => rfl
  | true =>
      rw [logTexts, if_pos rfl, if_pos rfl, List.flatMap_map]
      rfl

theorem ofReading_of_error {verbose : Bool} {reading : Reading} {e : ReadError}
    (h : reading.outcome = .error e) :
    ofReading verbose reading =
      ⟨[], (logTexts verbose reading ++ ["SyntaxError: ".toList ++ e.message]).flatMap Text.line,
        .refused⟩ := by
  rw [ofReading, h, log_eq, List.flatMap_append, List.flatMap_singleton]

theorem ofReading_of_ok {verbose : Bool} {reading : Reading} {forest : List Expr}
    (h : reading.outcome = .ok forest) :
    ofReading verbose reading =
      ofForest ((logTexts verbose reading).flatMap Text.line) forest := by
  rw [ofReading, h, log_eq]

/-! ### Forests -/

/-- Whether each expression of a forest is printed at its place. -/
def AllPrinted (forest : List Expr) : Prop :=
  ∀ (i : Nat) (e : Expr), forest[i]? = some e → e.calls ≤ roomAt i ∧ ¬ e.HasLongInteger

/-- Whether printing, from a place of the forest on, gets through the first expressions and stops at
the one behind them, if there is one. -/
structure StopsBehind (place : Nat) (before after : List Expr) : Prop where
  /-- Each of the first expressions is printed at its place. -/
  printed : ∀ (i : Nat) (e : Expr), before[i]? = some e → e.fault? (roomAt (place + i)) = none
  /-- The expression behind them is not. -/
  stopped : ∀ e ∈ after.head?, e.fault? (roomAt (place + before.length)) ≠ none

theorem StopsBehind.allPrinted {before after : List Expr} (h : StopsBehind 0 before after) :
    AllPrinted before := by
  intro i e found
  have printed := h.printed i e found
  rwa [Nat.zero_add, Expr.fault?_eq_none_iff] at printed

theorem StopsBehind.exists_fault {before after : List Expr} (h : StopsBehind 0 before after)
    {e : Expr} (head : e ∈ after.head?) :
    ∃ fault, e.fault? (roomAt before.length) = some fault := by
  have stopped := h.stopped e head
  rw [Nat.zero_add] at stopped
  exact Option.ne_none_iff_exists'.1 stopped

theorem StopsBehind.cons {place : Nat} {e : Expr} {before after : List Expr}
    (first : e.fault? (roomAt place) = none) (h : StopsBehind (place + 1) before after) :
    StopsBehind place (e :: before) after where
  printed := by
    intro i f found
    cases i with
    | zero =>
        obtain rfl := Option.some.inj found
        exact first
    | succ i =>
        have later := h.printed i f found
        rwa [Nat.add_right_comm, Nat.add_assoc] at later
  stopped := by
    intro f head
    have later := h.stopped f head
    rwa [Nat.add_right_comm, Nat.add_assoc] at later

/-- Printing a forest gets somewhere. -/
theorem exists_stopsBehind (place : Nat) (forest : List Expr) :
    ∃ before after, forest = before ++ after ∧ StopsBehind place before after := by
  induction forest generalizing place with
  | nil => exact ⟨[], [], rfl, by simp, by simp⟩
  | cons e rest ih =>
      cases met : e.fault? (roomAt place) with
      | none =>
          obtain ⟨before, after, rfl, stops⟩ := ih (place + 1)
          exact ⟨e :: before, after, rfl, stops.cons met⟩
      | some fault => exact ⟨[], e :: rest, rfl, by simp, by simp [met]⟩

theorem fault?_eq_none_of_mem {before after : List Expr} (h : StopsBehind 0 before after) :
    ∀ placed ∈ before.zipIdx, fault? placed = none := by
  intro placed member
  have own := h.printed placed.2 placed.1 (List.mem_zipIdx_iff_getElem?.1 member)
  rwa [Nat.zero_add] at own

theorem lines_flatMap_printed (forest : List Expr) :
    Text.lines (forest.flatMap fun e => Text.line e.printed) = forest.map Expr.printed := by
  rw [← List.flatMap_map Expr.printed Text.line, Text.lines_flatMap_line]
  intro t member
  obtain ⟨e, -, rfl⟩ := List.mem_map.1 member
  exact e.feed_not_mem_printed

theorem stdout_ofForest (log : Text) {before after : List Expr} (h : StopsBehind 0 before after) :
    (ofForest log (before ++ after)).stdout = before.flatMap fun e => Text.line e.printed := by
  have shown : (before.zipIdx.flatMap fun placed => Text.line placed.1.printed) =
      before.flatMap fun e => Text.line e.printed := by
    rw [← List.flatMap_map Prod.fst (fun e => Text.line (Expr.printed e)),
      List.zipIdx_map_fst]
  have none : ∀ placed ∈ before.zipIdx, (fault? placed).isNone = true := by
    intro placed member
    rw [fault?_eq_none_of_mem h placed member, Option.isNone_none]
  have rest : (after.zipIdx before.length).takeWhile (fun placed => (fault? placed).isNone) =
      [] := by
    cases after with
    | nil => rfl
    | cons e later =>
        obtain ⟨fault, met⟩ := h.exists_fault rfl
        simp [fault?, met]
  rw [ofForest, List.zipIdx_append, List.takeWhile_append_of_pos none, Nat.zero_add, rest,
    List.append_nil, shown]

/-- The report of a forest ends as the first expression that is not printed has it. -/
theorem ending_ofForest (log : Text) {before after : List Expr} (h : StopsBehind 0 before after) :
    (ofForest log (before ++ after)).ending =
      .ofFault (after.head?.bind (·.fault? (roomAt before.length))) := by
  have none : before.zipIdx.findSome? fault? = none :=
    List.findSome?_eq_none_iff.2 (fault?_eq_none_of_mem h)
  have rest : (after.zipIdx before.length).findSome? fault? =
      after.head?.bind (·.fault? (roomAt before.length)) := by
    cases after with
    | nil => rfl
    | cons e later =>
        obtain ⟨fault, met⟩ := h.exists_fault rfl
        simp [fault?, met]
  rw [ofForest, List.zipIdx_append, List.findSome?_append, none, Option.none_or, Nat.zero_add,
    rest]

theorem code_ofForest_eq_zero_iff {log : Text} {forest : List Expr} :
    (ofForest log forest).ending.code = 0 ↔ AllPrinted forest := by
  have printed : forest.zipIdx.findSome? fault? = none ↔ AllPrinted forest := by
    simp only [List.findSome?_eq_none_iff, List.mem_zipIdx_iff_getElem?, Prod.forall, fault?,
      Expr.fault?_eq_none_iff]
    exact forall_comm
  rw [← printed, ofForest]
  cases forest.zipIdx.findSome? fault? <;> simp [Ending.ofFault, Ending.code]

/-- Whether a report shows a forest line by line, up to the first expression that has a long integer
or needs more calls than are left at its place. That expression breaks the run off, with the fault
that its events meet first; without such an expression the run is done. -/
def Shows (report : Report) (forest : List Expr) : Prop :=
  ∃ before after : List Expr, forest = before ++ after ∧ AllPrinted before ∧
    report.stdout = before.flatMap (fun e => e.printed ++ ['\n']) ∧
    (after = [] → report.ending = .done ∧ report.ending.code = 0 ∧
      report.stdout.lines.length = forest.length) ∧
    ∀ e ∈ after.head?, ∃ fault,
      Event.firstFault? (roomAt before.length) e.events = some fault ∧
      e.HasFault (roomAt before.length) fault ∧
      report.ending = .crashed (.unprintable fault) ∧ report.ending.code = 1

theorem shows_ofForest (log : Text) (forest : List Expr) : (ofForest log forest).Shows forest := by
  obtain ⟨before, after, rfl, stops⟩ := exists_stopsBehind 0 forest
  have stdout := stdout_ofForest log stops
  have ending := ending_ofForest log stops
  refine ⟨before, after, rfl, stops.allPrinted, stdout, ?_, ?_⟩
  · rintro rfl
    rw [ending, stdout, lines_flatMap_printed, List.append_nil, List.length_map]
    exact ⟨rfl, rfl, rfl⟩
  · intro e head
    obtain ⟨fault, met⟩ := stops.exists_fault head
    rw [ending, Option.mem_def.1 head, Option.bind_some, met]
    exact ⟨fault, (Expr.firstFault?_events _ e).trans met, Expr.hasFault_of_fault? e met, rfl, rfl⟩

/-- How a report is to answer the contents of a file. -/
structure Answers (report : Report) (contents : ByteArray) : Prop where
  /-- Contents that are no UTF-8 break the run off before it shows anything. -/
  undecodable : (¬ ∃ raw : Text, contents = raw.utf8Encode) →
    report.stdout = [] ∧ report.ending = .crashed .undecodable ∧ report.ending.code = 1
  /-- An error of the source text is told in the last line of standard error. -/
  error : ∀ {raw : Text} {e : ReadError}, contents = raw.utf8Encode →
    (readSource (Text.normalizeNewlines raw)).outcome = .error e →
      report.stdout = [] ∧
      report.stderr.lines.getLast? = some ("SyntaxError: ".toList ++ e.message) ∧
      report.ending = .refused ∧ report.ending.code = 1
  /-- A forest is shown. -/
  forest : ∀ {raw : Text} {forest : List Expr}, contents = raw.utf8Encode →
    (readSource (Text.normalizeNewlines raw)).outcome = .ok forest → report.Shows forest
  /-- The exit status tells whether everything was shown. -/
  code_eq_zero_iff : report.ending.code = 0 ↔
    ∃ (raw : Text) (forest : List Expr), contents = raw.utf8Encode ∧
      (readSource (Text.normalizeNewlines raw)).outcome = .ok forest ∧ AllPrinted forest

theorem ofContents_utf8Encode (verbose : Bool) (raw : Text) :
    ofContents verbose raw.utf8Encode =
      ofReading verbose (readSource (Text.normalizeNewlines raw)) := by
  rw [ofContents, decode?_utf8Encode]

theorem ofContents_of_not_text (verbose : Bool) {contents : ByteArray}
    (invalid : ¬ ∃ raw : Text, contents = raw.utf8Encode) :
    ofContents verbose contents = ⟨[], [], .crashed .undecodable⟩ := by
  rw [ofContents, decode?_eq_none invalid]

theorem code_ofReading_eq_zero_iff {verbose : Bool} {reading : Reading} :
    (ofReading verbose reading).ending.code = 0 ↔
      ∃ forest, reading.outcome = .ok forest ∧ AllPrinted forest := by
  cases outcome : reading.outcome with
  | error e =>
      rw [ofReading_of_error outcome]
      constructor
      · intro done
        cases done
      · rintro ⟨forest, read, -⟩
        cases read
  | ok forest =>
      rw [ofReading_of_ok outcome, code_ofForest_eq_zero_iff]
      constructor
      · intro printed
        exact ⟨forest, rfl, printed⟩
      · rintro ⟨other, read, printed⟩
        obtain rfl := Except.ok.inj read
        exact printed

/-- The report of the contents of a file answers them. -/
theorem answers_ofContents (verbose : Bool) (contents : ByteArray) :
    (ofContents verbose contents).Answers contents where
  undecodable := by
    intro invalid
    rw [ofContents_of_not_text verbose invalid]
    exact ⟨rfl, rfl, rfl⟩
  error := by
    rintro raw e rfl failed
    rw [ofContents_utf8Encode, ofReading_of_error failed]
    refine ⟨rfl, ?_, rfl, rfl⟩
    have last : '\n' ∉ "SyntaxError: ".toList ++ e.message :=
      List.not_mem_append (by decide) (feed_not_mem_message failed)
    rw [Text.lines_flatMap_line, List.getLast?_concat]
    intro t member
    rcases List.mem_append.1 member with logged | told
    · exact feed_not_mem_logTexts t logged
    · exact List.mem_singleton.1 told ▸ last
  forest := by
    rintro raw forest rfl read
    rw [ofContents_utf8Encode, ofReading_of_ok read]
    exact shows_ofForest _ forest
  code_eq_zero_iff := by
    by_cases valid : ∃ raw : Text, contents = raw.utf8Encode
    · obtain ⟨raw, rfl⟩ := valid
      rw [ofContents_utf8Encode, code_ofReading_eq_zero_iff]
      constructor
      · rintro ⟨forest, read, printed⟩
        exact ⟨raw, forest, rfl, read, printed⟩
      · rintro ⟨raw', forest, same, read, printed⟩
        obtain rfl := utf8Encode_inj same
        exact ⟨forest, read, printed⟩
    · rw [ofContents_of_not_text verbose valid]
      constructor
      · intro done
        cases done
      · rintro ⟨raw, -, same, -⟩
        exact absurd ⟨raw, same⟩ valid

end Report

/-! ### Runs of the command -/

theorem command_eq_ofContents {args : List Text} {path : Text} {folder : Folder}
    {contents : ByteArray} (alone : args.erase Invocation.verboseOption = [path])
    (opened : folder.openFile (.ofText path) = .ok contents) :
    command args folder = .ofContents (Invocation.verboseOption ∈ args) contents := by
  have asked : Invocation.ofArgs? args = some ⟨Invocation.verboseOption ∈ args, path⟩ := by
    rw [Invocation.ofArgs?, alone]
  rw [command, asked]
  show Invocation.report _ (folder.openFile (.ofText path)) = _
  rw [opened]
  rfl

/-- If exactly one argument is left without the option and it opens a file, the report answers the
contents of the file. -/
theorem command_answers {args : List Text} {path : Text} {folder : Folder} {contents : ByteArray}
    (alone : args.erase Invocation.verboseOption = [path])
    (opened : folder.openFile (.ofText path) = .ok contents) :
    (command args folder).Answers contents := by
  rw [command_eq_ofContents alone opened]
  exact Report.answers_ofContents _ contents

/-- A file that ends inside a list: nothing is printed, and behind the log stands the error. -/
theorem command_answers_missingClose :
    ["-v".toList, "p.hasp".toList].erase Invocation.verboseOption = ["p.hasp".toList] ∧
      (Folder.mk [(["p.hasp".toList], "1 (f\r\n".toList.utf8Encode)]).openFile
        (.ofText "p.hasp".toList) = .ok "1 (f\r\n".toList.utf8Encode ∧
      ∃ report : Report, report =
          command ["-v".toList, "p.hasp".toList]
            ⟨[(["p.hasp".toList], "1 (f\r\n".toList.utf8Encode)]⟩ ∧
        report.stdout = [] ∧ report.ending.code = 1 ∧
        report.stderr.lines.getLast? = some "SyntaxError: Missing )".toList := by
  have alone : ["-v".toList, "p.hasp".toList].erase Invocation.verboseOption =
      ["p.hasp".toList] := by decide
  have opened : (Folder.mk [(["p.hasp".toList], "1 (f\r\n".toList.utf8Encode)]).openFile
      (.ofText "p.hasp".toList) = .ok "1 (f\r\n".toList.utf8Encode := by rfl
  have failed : (readSource (Text.normalizeNewlines "1 (f\r\n".toList)).outcome =
      .error .missingClose := by rfl
  obtain ⟨stdout, stderr, -, code⟩ := (command_answers alone opened).error rfl failed
  exact ⟨alone, opened, _, rfl, stdout, code, stderr⟩

end Sexpr

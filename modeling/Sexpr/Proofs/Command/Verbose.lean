import Sexpr.Proofs.Command.Report

/-!
# The option that shows the log

The option may stand anywhere among the arguments, and it changes nothing but standard error, in
front of which it puts the log. What a run logs is what the reading of its file logs: nothing if the
file is not read at all, nothing for a string without an end or an atom without a literal, and one
line for everything else.
-/

namespace Sexpr

/-! ### Readings that log nothing -/

/-- Whether an error is one that the log says nothing of. -/
def ReadError.IsQuiet : ReadError → Prop
  | .unterminatedString | .invalidAtom _ => True
  | .extraClose | .missingClose => False

/-- Whether a reading that logs nothing ends with a quiet error, and any other reading does not. -/
def Reading.LogsUnlessQuiet (reading : Reading) : Prop :=
  reading.log = none ↔ ∃ e, reading.outcome = .error e ∧ e.IsQuiet

theorem Progress.logsUnlessQuiet_conclude (p : Progress) : p.conclude.LogsUnlessQuiet := by
  obtain ⟨finished, frames, taken⟩ := p
  cases frames with
  | nil => simp [Reading.LogsUnlessQuiet, conclude]
  | cons items outer => simp [Reading.LogsUnlessQuiet, conclude, ReadError.IsQuiet]

theorem Progress.logsUnlessQuiet_of_feed {p : Progress} {token : Token} {reading : Reading}
    (failed : p.feed token = .error reading) : reading.LogsUnlessQuiet := by
  rcases feed_eq_error_iff.1 failed with ⟨-, rfl⟩ | ⟨-, -, rfl⟩
  · simp [Reading.LogsUnlessQuiet, ReadError.IsQuiet]
  · simp [Reading.LogsUnlessQuiet, ReadError.IsQuiet]

theorem logsUnlessQuiet_read (tokens : List Token) : (read tokens).LogsUnlessQuiet := by
  cases fed : Progress.feedAll {} tokens with
  | ok p =>
      rw [read_of_feedAll_eq_ok fed]
      exact p.logsUnlessQuiet_conclude
  | error reading =>
      rw [read_of_feedAll_eq_error fed]
      obtain ⟨before, token, after, p, -, -, failed⟩ := Progress.exists_of_feedAll_eq_error fed
      exact Progress.logsUnlessQuiet_of_feed failed

/-- Source text is read without a word in the log exactly if it has a quiet error. -/
theorem logsUnlessQuiet_readSource (source : Text) : (readSource source).LogsUnlessQuiet := by
  rcases readSource_cases source with ⟨-, same⟩ | ⟨tokens, -, same⟩
  · rw [same]
    simp [Reading.LogsUnlessQuiet, ReadError.IsQuiet]
  · rw [same]
    exact logsUnlessQuiet_read tokens

/-! ### Two runs -/

/-- The report with lines in front of its standard error. -/
def Report.logged (logs : List Text) (report : Report) : Report :=
  { report with stderr := logs.flatMap Text.line ++ report.stderr }

/-- A reading is reported with the log and without it in the same way. -/
theorem Report.ofReading_true (reading : Reading) :
    ofReading true reading = (ofReading false reading).logged (logTexts true reading) := by
  cases outcome : reading.outcome with
  | error e =>
      rw [ofReading_of_error outcome, ofReading_of_error outcome, List.flatMap_append]
      rfl
  | ok forest =>
      rw [ofReading_of_ok outcome, ofReading_of_ok outcome]
      simp [logged, ofForest, logTexts]

/-- The lines that are logged for the contents of a file. -/
def Report.logsOfContents (contents : ByteArray) : List Text :=
  match decode? contents with
  | none => []
  | some source => logTexts true (readSource source)

theorem Report.ofContents_true (contents : ByteArray) :
    ofContents true contents = (ofContents false contents).logged (logsOfContents contents) := by
  unfold ofContents logsOfContents
  cases decode? contents with
  | none => rfl
  | some source => exact ofReading_true (readSource source)

/-- The lines that a run of the command logs. The arguments are those besides the option. -/
def logsOf (args : List Text) (folder : Folder) : List Text :=
  match args with
  | [path] =>
      match folder.openFile (.ofText path) with
      | .error _ => []
      | .ok contents => Report.logsOfContents contents
  | _ => []

/-- The option puts the log in front of standard error, and changes nothing else. -/
theorem command_eq_logged {before after : List Text}
    (plain : Invocation.verboseOption ∉ before ++ after) (folder : Folder) :
    command (before ++ Invocation.verboseOption :: after) folder =
      (command (before ++ after) folder).logged (logsOf (before ++ after) folder) := by
  have absent : Invocation.verboseOption ∉ before :=
    fun member => plain (List.mem_append_left after member)
  have shown : Invocation.verboseOption ∈ before ++ Invocation.verboseOption :: after :=
    List.mem_append_right before List.mem_cons_self
  have erased : (before ++ Invocation.verboseOption :: after).erase Invocation.verboseOption =
      before ++ after := by
    rw [List.erase_append_right _ absent, List.erase_cons_head]
  unfold command Invocation.ofArgs?
  rw [erased, List.erase_of_not_mem plain, decide_eq_true shown, decide_eq_false plain]
  generalize before ++ after = args
  match args with
  | [] => rfl
  | [path] =>
      unfold logsOf Invocation.report
      dsimp only
      cases folder.openFile (.ofText path) with
      | error e => rfl
      | ok contents => exact Report.ofContents_true contents
  | _ :: _ :: _ => rfl

/-- Which lines are the log of a run of the command. -/
structure IsLogOf (logs args : List Text) (folder : Folder) : Prop where
  /-- Arguments that ask for nothing are not logged. -/
  usage : args.length ≠ 1 → logs = []
  /-- A file that is not opened is not logged. -/
  unreadable : ∀ {path : Text} {e : OpenError}, args = [path] →
    folder.openFile (.ofText path) = .error e → logs = []
  /-- A file that is no UTF-8 is not logged. -/
  undecodable : ∀ {path : Text} {contents : ByteArray}, args = [path] →
    folder.openFile (.ofText path) = .ok contents →
      (¬ ∃ raw : Text, contents = raw.utf8Encode) → logs = []
  /-- The text of a file is logged as its reading is. -/
  reading : ∀ {path raw : Text}, args = [path] →
    folder.openFile (.ofText path) = .ok raw.utf8Encode →
      logs = (readSource (Text.normalizeNewlines raw)).log.toList.map fun entry =>
        "hasp.parser: ".toList ++ entry.message
  /-- Quiet errors are not logged. -/
  quiet : ∀ {path raw : Text} {e : ReadError}, args = [path] →
    folder.openFile (.ofText path) = .ok raw.utf8Encode →
      (readSource (Text.normalizeNewlines raw)).outcome = .error e → e.IsQuiet → logs = []
  /-- Everything else is logged in one line. -/
  single : ∀ {path raw : Text}, args = [path] →
    folder.openFile (.ofText path) = .ok raw.utf8Encode →
      (∀ e, (readSource (Text.normalizeNewlines raw)).outcome = .error e → ¬ e.IsQuiet) →
        logs.length = 1

theorem logsOf_of_opened {path : Text} {folder : Folder} {contents : ByteArray}
    (opened : folder.openFile (.ofText path) = .ok contents) :
    logsOf [path] folder = Report.logsOfContents contents := by
  unfold logsOf
  dsimp only
  rw [opened]

theorem logsOf_of_text {path raw : Text} {folder : Folder}
    (opened : folder.openFile (.ofText path) = .ok raw.utf8Encode) :
    logsOf [path] folder =
      (readSource (Text.normalizeNewlines raw)).log.toList.map fun entry =>
        "hasp.parser: ".toList ++ entry.message := by
  rw [logsOf_of_opened opened, Report.logsOfContents, decode?_utf8Encode]
  rfl

theorem isLogOf_logsOf (args : List Text) (folder : Folder) :
    IsLogOf (logsOf args folder) args folder where
  usage := by
    intro several
    match args with
    | [] => rfl
    | [_] => exact absurd rfl several
    | _ :: _ :: _ => rfl
  unreadable := by
    rintro path e rfl failed
    unfold logsOf
    dsimp only
    rw [failed]
  undecodable := by
    rintro path contents rfl opened invalid
    rw [logsOf_of_opened opened, Report.logsOfContents, decode?_eq_none invalid]
  reading := by
    rintro path raw rfl opened
    exact logsOf_of_text opened
  quiet := by
    rintro path raw e rfl opened failed quiet
    have silent := (logsUnlessQuiet_readSource (Text.normalizeNewlines raw)).2 ⟨e, failed, quiet⟩
    rw [logsOf_of_text opened, silent]
    rfl
  single := by
    rintro path raw rfl opened loud
    rw [logsOf_of_text opened, List.length_map]
    cases logged : (readSource (Text.normalizeNewlines raw)).log with
    | some entry => rfl
    | none =>
        obtain ⟨e, failed, quiet⟩ :=
          (logsUnlessQuiet_readSource (Text.normalizeNewlines raw)).1 logged
        exact absurd quiet (loud e failed)

theorem feed_not_mem_logsOf (args : List Text) (folder : Folder) :
    ∀ t ∈ logsOf args folder, '\n' ∉ t := by
  unfold logsOf Report.logsOfContents
  intro t member
  split at member
  · split at member
    · cases member
    · split at member
      · cases member
      · exact Report.feed_not_mem_logTexts t member
  · cases member

/-- Wherever the option is put among arguments without it, the run prints the same and ends in the
same way, and its standard error has the lines of the log in front and goes on unchanged. -/
theorem command_insert_verboseOption {before after : List Text}
    (plain : Invocation.verboseOption ∉ before ++ after) (folder : Folder) :
    ∃ logs : List Text, IsLogOf logs (before ++ after) folder ∧ (∀ t ∈ logs, '\n' ∉ t) ∧
      (command (before ++ Invocation.verboseOption :: after) folder).stdout =
        (command (before ++ after) folder).stdout ∧
      (command (before ++ Invocation.verboseOption :: after) folder).ending =
        (command (before ++ after) folder).ending ∧
      (command (before ++ Invocation.verboseOption :: after) folder).stderr =
        logs.flatMap (fun t => t ++ ['\n']) ++ (command (before ++ after) folder).stderr := by
  refine ⟨_, isLogOf_logsOf _ folder, feed_not_mem_logsOf _ folder, ?_⟩
  rw [command_eq_logged plain]
  exact ⟨rfl, rfl, rfl⟩

/-- The option behind a path whose file closes a list that is not open. -/
theorem command_insert_verboseOption_extraClose :
    Invocation.verboseOption ∉ ["p".toList] ++ [] ∧
      (command (["p".toList] ++ [Invocation.verboseOption])
        ⟨[(["p".toList], "1 )".toList.utf8Encode)]⟩).stderr =
        "hasp.parser: unmatched ) at token 2\n".toList ++
          (command (["p".toList] ++ []) ⟨[(["p".toList], "1 )".toList.utf8Encode)]⟩).stderr := by
  have plain : Invocation.verboseOption ∉ ["p".toList] ++ [] := by decide
  have opened : (Folder.mk [(["p".toList], "1 )".toList.utf8Encode)]).openFile
      (.ofText "p".toList) = .ok "1 )".toList.utf8Encode := by rfl
  have entry : (readSource (Text.normalizeNewlines "1 )".toList)).log =
      some (.unmatchedClose 2) := by rfl
  obtain ⟨logs, isLog, -, -, -, stderr⟩ := command_insert_verboseOption plain
    ⟨[(["p".toList], "1 )".toList.utf8Encode)]⟩
  have lines := isLog.reading rfl opened
  rw [entry] at lines
  refine ⟨plain, stderr.trans ?_⟩
  rw [lines]
  rfl

end Sexpr

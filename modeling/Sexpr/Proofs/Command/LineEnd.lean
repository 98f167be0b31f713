import Sexpr.Proofs.Command.Report

/-!
# Files with other line ends

The command makes line feeds of all line ends before it looks at the text. So it answers a file in
the same way whatever ends its lines, each line end ends a comment, and no carriage return gets into
a string or is printed.
-/

namespace Sexpr

namespace Line

theorem areApart_of_append {before after : List Line} {last : Text}
    (apart : AreApart (before ++ after) last) : AreApart after last := by
  induction before with
  | nil => exact apart
  | cons l rest ih => exact ih apart.2

theorem feedText_append (before after : List Line) (last : Text) :
    feedText (before ++ after) last = feedText before (feedText after last) := by
  simp [feedText]

theorem feedText_cons (l : Line) (rest : List Line) (last : Text) :
    feedText (l :: rest) last = l.body ++ '\n' :: feedText rest last := by
  simp [feedText, Text.line]

theorem feedText_behind (lines : List Line) (last more : Text) :
    feedText lines (last ++ more) = feedText lines last ++ more := by
  simp [feedText]

/-- A file is decoded to the text that line feeds would give it. -/
theorem decode?_fileText {lines : List Line} {last : Text} (apart : AreApart lines last)
    (noReturn : '\r' ∉ last) :
    decode? (fileText lines last).utf8Encode = some (feedText lines last) := by
  rw [decode?_utf8Encode, normalizeNewlines_fileText apart noReturn]

theorem return_not_mem_feedText {lines : List Line} {last : Text} (noReturn : '\r' ∉ last) :
    '\r' ∉ feedText lines last := by
  induction lines with
  | nil => exact noReturn
  | cons l rest ih =>
      rw [feedText_cons]
      exact List.not_mem_append l.noReturn (List.not_mem_cons_of_ne_of_not_mem (by decide) ih)

/-- With line feeds at its ends a file is decoded to itself. -/
theorem decode?_feedText {lines : List Line} {last : Text} (noReturn : '\r' ∉ last) :
    decode? (feedText lines last).utf8Encode = some (feedText lines last) := by
  have absent : '\r' ∉ feedText lines last := return_not_mem_feedText noReturn
  rw [decode?_utf8Encode, Text.normalizeNewlines_eq_self absent]

/-- A comment ends with its line: the tokens of the text are those before the comment, and behind
them those of the lines that follow. -/
theorem tokens?_feedText_comment {before after : List Line} {l : Line} {last front comment : Text}
    (body : l.body = front ++ ';' :: comment) {tokens : List Token}
    (found : tokens? (feedText before front) = some tokens) :
    tokens? (feedText (before ++ l :: after) last) =
      (tokens? (feedText after last)).map (tokens ++ ·) := by
  have single : '\n' ∉ comment := by
    intro member
    refine l.noFeed ?_
    rw [body]
    exact List.mem_append_right _ (List.mem_cons_of_mem _ member)
  have split : feedText (before ++ l :: after) last =
      (feedText before front ++ ';' :: comment) ++ '\n' :: feedText after last := by
    rw [feedText_append, feedText_cons, body, feedText_behind, feedText_behind,
      List.append_assoc]
  rw [split]
  exact tokens?_append_lineFeed (tokens?_append_comment found single) _

end Line

/-- The characters of a string that was read are characters of the source text. -/
theorem mem_source_of_mem_string {source : Text} {forest : List Expr} {t : Text} {c : Char}
    (read : (readSource source).outcome = .ok forest)
    (leaf : .string t ∈ Expr.leavesAll forest) (inside : c ∈ t) : c ∈ source := by
  obtain ⟨tokens, found, read⟩ := exists_tokens?_of_readSource read
  have strings : (Expr.leavesAll forest).filterMap Literal.quotedText? =
      (tokens.map Token.text).filter Text.startsWithQuote := by
    rw [← Expr.filterMap_literal?_eventsAll]
    exact filterMap_quotedText?_of_forall₂ (read_outcome_eq_ok_iff_event?.1 read)
  have quoted : t ∈ (Expr.leavesAll forest).filterMap Literal.quotedText? :=
    List.mem_filterMap.2 ⟨_, leaf, rfl⟩
  rw [strings] at quoted
  obtain ⟨token, member, rfl⟩ := List.mem_map.1 (List.mem_of_mem_filter quoted)
  exact mem_source_of_mem_token found member inside

/-- No string that is read from a file has a carriage return in it. -/
theorem return_not_mem_string {contents : ByteArray} {source : Text} {forest : List Expr}
    {t : Text} (decoded : decode? contents = some source)
    (read : (readSource source).outcome = .ok forest)
    (leaf : .string t ∈ Expr.leavesAll forest) : '\r' ∉ t := by
  intro member
  obtain ⟨raw, -, rfl⟩ := exists_utf8Encode_of_decode? decoded
  exact Text.return_not_mem_normalizeNewlines raw (mem_source_of_mem_string read leaf member)

/-- The command prints no carriage return. -/
theorem Report.return_not_mem_stdout (verbose : Bool) (contents : ByteArray) :
    '\r' ∉ (ofContents verbose contents).stdout := by
  have answers := answers_ofContents verbose contents
  by_cases valid : ∃ raw : Text, contents = raw.utf8Encode
  · obtain ⟨raw, same⟩ := valid
    cases outcome : (readSource (Text.normalizeNewlines raw)).outcome with
    | error e =>
        rw [(answers.error same outcome).1]
        exact List.not_mem_nil
    | ok forest =>
        obtain ⟨before, -, -, -, stdout, -⟩ := answers.forest same outcome
        rw [stdout, List.mem_flatMap]
        rintro ⟨e, -, member⟩
        rcases List.mem_append.1 member with printed | feed
        · cases e.isPrintable_of_mem_printed '\r' printed
        · exact absurd feed (by decide)
  · rw [(answers.undecodable valid).1]
    exact List.not_mem_nil

/-- The command answers a file in the same way whatever ends its lines, as long as no lone carriage
return has a line feed behind it, and as it answers the file with line feeds. A comment ends at each
line end, and neither a string that is read nor what is printed has a carriage return in it. -/
theorem command_lineEnds {lines others : List Line} {last : Text}
    (bodies : lines.map Line.body = others.map Line.body) (noReturn : '\r' ∉ last)
    (apart : Line.AreApart lines last) (apartOthers : Line.AreApart others last)
    {args : List Text} {path : Text} (alone : args.erase Invocation.verboseOption = [path])
    {folder other feeds : Folder}
    (opened : folder.openFile (.ofText path) = .ok (Line.fileText lines last).utf8Encode)
    (openedOther : other.openFile (.ofText path) = .ok (Line.fileText others last).utf8Encode)
    (openedFeeds : feeds.openFile (.ofText path) = .ok (Line.feedText lines last).utf8Encode) :
    command args folder = command args other ∧ command args folder = command args feeds ∧
    (∀ (before after : List Line) (l : Line) (front comment : Text) (tokens : List Token),
      lines = before ++ l :: after → l.body = front ++ ';' :: comment →
      tokens? (Line.feedText before front) = some tokens →
      ∃ source rest, decode? (Line.fileText lines last).utf8Encode = some source ∧
        decode? (Line.fileText after last).utf8Encode = some rest ∧
        tokens? source = (tokens? rest).map (tokens ++ ·)) ∧
    (∀ (source : Text) (forest : List Expr),
      decode? (Line.fileText lines last).utf8Encode = some source →
      (readSource source).outcome = .ok forest →
      ∀ t, .string t ∈ Expr.leavesAll forest → '\r' ∉ t) ∧
    '\r' ∉ (command args folder).stdout := by
  have decoded := Line.decode?_fileText apart noReturn
  have report := command_eq_ofContents alone opened
  refine ⟨?_, ?_, ?_, fun source forest decoded read t => return_not_mem_string decoded read, ?_⟩
  · have decodedOther := Line.decode?_fileText apartOthers noReturn
    rw [report, command_eq_ofContents alone openedOther, Report.ofContents, Report.ofContents,
      decoded, decodedOther, Line.feedText_congr bodies]
  · rw [report, command_eq_ofContents alone openedFeeds, Report.ofContents, Report.ofContents,
      decoded, Line.decode?_feedText noReturn]
  · rintro before after l front comment tokens rfl body found
    have apartAfter : Line.AreApart after last := (Line.areApart_of_append apart).2
    exact ⟨_, _, decoded, Line.decode?_fileText apartAfter noReturn,
      Line.tokens?_feedText_comment body found⟩
  · rw [report]
    exact Report.return_not_mem_stdout _ _

/-- Three lines: a comment with a quote in it ends the first, and the others share a string. -/
def Line.commentAndString (first second third : LineEnd) : List Line :=
  [⟨"(f ; \"".toList, first, by decide, by decide⟩,
    ⟨"\"a\\".toList, second, by decide, by decide⟩,
    ⟨"b\")".toList, third, by decide, by decide⟩]

/-- Two ways to end the lines, one with a carriage return behind the comment and the other with one
behind the backslash in the string. -/
theorem command_lineEnds_commentAndString :
    Line.AreApart (Line.commentAndString .cr .crlf .lf) ['1'] ∧
      Line.AreApart (Line.commentAndString .lf .cr .crlf) ['1'] ∧
      ∃ report : Report,
        report = command ["p".toList] ⟨[(["p".toList],
          (Line.fileText (Line.commentAndString .cr .crlf .lf) ['1']).utf8Encode)]⟩ ∧
        report = command ["p".toList] ⟨[(["p".toList],
          (Line.fileText (Line.commentAndString .lf .cr .crlf) ['1']).utf8Encode)]⟩ ∧
        '\r' ∉ report.stdout := by
  have apart : Line.AreApart (Line.commentAndString .cr .crlf .lf) ['1'] := by decide
  have apartOther : Line.AreApart (Line.commentAndString .lf .cr .crlf) ['1'] := by decide
  have opens (contents : ByteArray) : (Folder.mk [(["p".toList], contents)]).openFile
      (.ofText "p".toList) = .ok contents := by rfl
  have bodies : (Line.commentAndString .cr .crlf .lf).map Line.body =
      (Line.commentAndString .lf .cr .crlf).map Line.body := rfl
  obtain ⟨same, -, -, -, clean⟩ := command_lineEnds bodies (by decide) apart apartOther
    (by decide : ["p".toList].erase Invocation.verboseOption = ["p".toList])
    (opens _) (opens _) (opens _)
  exact ⟨apart, apartOther, _, rfl, same, clean⟩

end Sexpr

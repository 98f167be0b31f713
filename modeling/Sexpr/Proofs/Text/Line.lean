import Sexpr.Text.Line
import Sexpr.Text.Newline

/-!
# Lines and their ends

Texts without line feeds can be read off again once they are written as lines. The lines of a file
come to the same text, whatever ends them, as long as a lone carriage return does not run into a
line feed.
-/

namespace Sexpr

namespace Text

theorem lines_line_append {t : Text} (single : '\n' ∉ t) (rest : Text) :
    lines (line t ++ rest) = t :: lines rest := by
  induction t with
  | nil => rfl
  | cons c t ih =>
      have inside : c ≠ '\n' := fun h => single (h ▸ List.mem_cons_self)
      have later := ih fun member => single (List.mem_cons_of_mem c member)
      have split : line (c :: t) ++ rest = c :: (line t ++ rest) := rfl
      rw [split, lines, if_neg inside, later]

/-- Texts that are written as lines are the lines of what is written. -/
theorem lines_flatMap_line {texts : List Text} (single : ∀ t ∈ texts, '\n' ∉ t) :
    lines (texts.flatMap line) = texts := by
  induction texts with
  | nil => rfl
  | cons t rest ih =>
      rw [List.flatMap_cons, lines_line_append (single t List.mem_cons_self),
        ih fun u member => single u (List.mem_cons_of_mem t member)]

theorem normalizeNewlines_append {t : Text} (noReturn : '\r' ∉ t) (rest : Text) :
    normalizeNewlines (t ++ rest) = t ++ normalizeNewlines rest := by
  induction t with
  | nil => rfl
  | cons c t ih =>
      have other : c ≠ '\r' := fun h => noReturn (h ▸ List.mem_cons_self)
      have later := ih fun member => noReturn (List.mem_cons_of_mem c member)
      simp [normalizeNewlines, other, later]

/-- A text without carriage returns is left as it is. -/
theorem normalizeNewlines_eq_self {t : Text} (noReturn : '\r' ∉ t) : normalizeNewlines t = t := by
  have behind := normalizeNewlines_append noReturn []
  rwa [List.append_nil, normalizeNewlines, List.append_nil] at behind

/-- A carriage return alone becomes a line feed. -/
theorem normalizeNewlines_return {rest : Text} (apart : rest.head? ≠ some '\n') :
    normalizeNewlines ('\r' :: rest) = '\n' :: normalizeNewlines rest := by
  cases rest with
  | nil => rfl
  | cons c rest =>
      have other : c ≠ '\n' := fun h => apart (congrArg some h)
      simp [normalizeNewlines, other]

end Text

namespace Line

open Text

/-- Each line end becomes a line feed. -/
theorem normalizeNewlines_lineEnd {lineEnd : LineEnd} {rest : Text}
    (apart : lineEnd = .cr → rest.head? ≠ some '\n') :
    normalizeNewlines (lineEnd.text ++ rest) = '\n' :: normalizeNewlines rest := by
  cases lineEnd with
  | lf => rfl
  | crlf => rfl
  | cr => exact normalizeNewlines_return (apart rfl)

/-- A file comes to the text that line feeds would give it, whatever ends its lines. -/
theorem normalizeNewlines_fileText {lines : List Line} {last : Text} (apart : AreApart lines last)
    (noReturn : '\r' ∉ last) :
    normalizeNewlines (fileText lines last) = feedText lines last := by
  induction lines with
  | nil => exact normalizeNewlines_eq_self noReturn
  | cons l rest ih =>
      obtain ⟨own, later⟩ := apart
      have file : fileText (l :: rest) last = l.body ++ (l.lineEnd.text ++ fileText rest last) := by
        simp [fileText]
      have feed : feedText (l :: rest) last = l.body ++ '\n' :: feedText rest last := by
        simp [feedText, line]
      rw [file, feed, normalizeNewlines_append l.noReturn, normalizeNewlines_lineEnd own, ih later]

/-- What line feeds would give a file depends on the texts of its lines only. -/
theorem feedText_congr {lines others : List Line} (bodies : lines.map body = others.map body)
    (last : Text) : feedText lines last = feedText others last := by
  have split (lines : List Line) : feedText lines last =
      (lines.map body).flatMap Text.line ++ last := by
    rw [feedText, List.flatMap_map]
  rw [split, split, bodies]

end Line

end Sexpr

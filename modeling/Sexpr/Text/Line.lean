import Sexpr.Text.Basic

/-!
# Lines

The lines of a text are what its line feeds end, and what is left behind the last of them. A file
may end its lines in other ways too, and each line in another one.
-/

namespace Sexpr

/-- The lines of a text, without the line feeds that end them. What is behind the last line feed is
a line if there is anything. -/
def Text.lines : Text → List Text
  | [] => []
  | c :: rest =>
      if c = '\n' then [] :: lines rest
      else
        match lines rest with
        | [] => [[c]]
        | t :: later => (c :: t) :: later

/-- What may end a line of a file. -/
inductive LineEnd where
  /-- A line feed. -/
  | lf
  /-- A carriage return and a line feed. -/
  | crlf
  /-- A carriage return alone. -/
  | cr
deriving DecidableEq

/-- The characters that end the line. -/
def LineEnd.text : LineEnd → Text
  | .lf => ['\n']
  | .crlf => ['\r', '\n']
  | .cr => ['\r']

/-- A line of a file with what ends it. -/
structure Line where
  /-- The text of the line. -/
  body : Text
  /-- What ends the line. -/
  lineEnd : LineEnd
  /-- No line feed ends the line earlier. -/
  noFeed : '\n' ∉ body
  /-- No carriage return ends the line earlier. -/
  noReturn : '\r' ∉ body

namespace Line

/-- The text of a file with those lines, and a last line that nothing ends. -/
def fileText (lines : List Line) (last : Text) : Text :=
  lines.flatMap (fun l => l.body ++ l.lineEnd.text) ++ last

/-- The text of the file if line feeds end its lines. -/
def feedText (lines : List Line) (last : Text) : Text :=
  lines.flatMap (fun l => Text.line l.body) ++ last

/-- Whether no carriage return that ends a line by itself has a line feed behind it, which would
make the two one line end. -/
def AreApart : List Line → Text → Prop
  | [], _ => True
  | l :: rest, last =>
      (l.lineEnd = .cr → (fileText rest last).head? ≠ some '\n') ∧ AreApart rest last

instance decidableAreApart : (lines : List Line) → (last : Text) → Decidable (AreApart lines last)
  | [], _ => .isTrue trivial
  | l :: rest, last =>
      have := decidableAreApart rest last
      inferInstanceAs (Decidable ((l.lineEnd = .cr → (fileText rest last).head? ≠ some '\n') ∧ _))

end Line

end Sexpr

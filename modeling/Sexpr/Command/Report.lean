import Sexpr.Expr.Calls
import Sexpr.Reader.Run
import Sexpr.Text.Newline

/-!
# Reports

What the command shows for the contents of a file: the printed expressions, or why there are none.
Contents are UTF-8 with any of the usual line ends. Printing stops at the first expression that
cannot be printed: one that is nested too deep for the calls that are left, or that has an integer
with too many digits.

A failure that the command does not handle breaks it off. What the runtime then writes on standard
error of its own accord, such as a traceback, is not part of a report.
-/

namespace Sexpr

/-- A failure that the command does not handle. -/
inductive Crash where
  /-- The contents of the file are not UTF-8. -/
  | undecodable
  /-- An expression is not printed. -/
  | unprintable (fault : PrintFault)
deriving DecidableEq

/-- How the command ends. -/
inductive Ending where
  /-- Everything was printed. -/
  | done
  /-- The arguments, the file or the source text are at fault, and the user was told. -/
  | refused
  /-- The command broke off. -/
  | crashed (cause : Crash)
deriving DecidableEq

/-- How a printing ends that met a fault or none. -/
def Ending.ofFault : Option PrintFault → Ending
  | none => .done
  | some fault => .crashed (.unprintable fault)

/-- The exit status. -/
def Ending.code : Ending → Nat
  | .done => 0
  | .refused | .crashed _ => 1

/-- What a run of the command shows. -/
structure Report where
  /-- The text of standard output. -/
  stdout : Text
  /-- The text of standard error, without what the runtime writes about a failure. -/
  stderr : Text
  /-- How the run ends. -/
  ending : Ending
deriving DecidableEq

/-- The text that bytes stand for, with line feeds at the line ends; `none` if they are not
UTF-8. -/
def decode? (contents : ByteArray) : Option Text :=
  (String.fromUTF8? contents).map fun s => Text.normalizeNewlines s.toList

namespace Report

/-- The line that the log writes for an entry. -/
def logLine (entry : LogEntry) : Text := Text.line ("hasp.parser: ".toList ++ entry.message)

/-- The number of calls that the runtime lets nest. -/
def callLimit : Nat := 1000

/-- The calls around the printing of the expression at a place of the forest. In the first seven
rounds of the loop the call for the line is one of them; then the loop is warm and does without. -/
def callsAround (place : Nat) : Nat := if place < 7 then 6 else 5

/-- The calls left to nest for the expression at a place of the forest. -/
def roomAt (place : Nat) : Nat := callLimit - callsAround place

/-- Why an expression is not printed at its place; `none` if it is. -/
def fault? (placed : Expr × Nat) : Option PrintFault := placed.1.fault? (roomAt placed.2)

/-- The report of a forest: a line for each expression before the first that is not printed. -/
def ofForest (log : Text) (forest : List Expr) : Report where
  stdout := (forest.zipIdx.takeWhile fun placed => (fault? placed).isNone).flatMap
    fun placed => Text.line placed.1.printed
  stderr := log
  ending := .ofFault (forest.zipIdx.findSome? fault?)

/-- The report of a reading. The log is shown if `verbose` is set. -/
def ofReading (verbose : Bool) (reading : Reading) : Report :=
  let log := if verbose then reading.log.toList.flatMap logLine else []
  match reading.outcome with
  | .error e => ⟨[], log ++ Text.line ("SyntaxError: ".toList ++ e.message), .refused⟩
  | .ok forest => ofForest log forest

/-- The report of the contents of a file. -/
def ofContents (verbose : Bool) (contents : ByteArray) : Report :=
  match decode? contents with
  | none => ⟨[], [], .crashed .undecodable⟩
  | some source => ofReading verbose (readSource source)

end Report

end Sexpr

import Sexpr.Command.Report
import Sexpr.File.Folder

/-!
# Invocations

The command takes the path of one file, and the option `-v`, which shows the log. The option may
stand before or behind the path; a second one counts as a path.
-/

namespace Sexpr

/-- What the arguments of the command ask for. -/
structure Invocation where
  /-- Whether the log is shown. -/
  verbose : Bool
  /-- The path of the file, as it was given. -/
  path : Text
deriving DecidableEq

namespace Invocation

/-- The option that shows the log. -/
def verboseOption : Text := ['-', 'v']

/-- What a list of arguments asks for; `none` unless it has exactly one path. -/
def ofArgs? (args : List Text) : Option Invocation :=
  match args.erase verboseOption with
  | [path] => some ⟨verboseOption ∈ args, path⟩
  | _ => none

/-- How the command is used. -/
def usage : Text := "Usage: python -m hasp [-v] <program.hasp>".toList

/-- The report of arguments that ask for nothing. -/
def usageReport : Report := ⟨[], Text.line usage, .refused⟩

/-- The report of an invocation whose file was opened or not. -/
def report (invocation : Invocation) : Except OpenError ByteArray → Report
  | .error e =>
      let reason := "Cannot read ".toList ++ invocation.path ++ ':' :: ' ' :: e.reason
      ⟨[], Text.line reason ++ Text.line usage, .refused⟩
  | .ok contents => .ofContents invocation.verbose contents

end Invocation

/-- The report of the command run in a folder with a list of arguments. -/
def command (args : List Text) (folder : Folder) : Report :=
  match Invocation.ofArgs? args with
  | none => Invocation.usageReport
  | some invocation => invocation.report (folder.openFile (.ofText invocation.path))

end Sexpr

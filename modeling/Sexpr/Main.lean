import Sexpr.Command.Invocation

/-!
# The command

Opens the file that the arguments name, and shows the report.
-/

namespace Sexpr

/-- The number of a system error, which some calls report with a minus sign. -/
def systemErrorNumber (code : UInt32) : Nat := min code.toNat (-code).toNat

/-- The reason for which the system did not open a file. -/
def OpenError.ofSystem : IO.Error → OpenError
  | .noFileOrDirectory .. => .noSuchFile
  | .permissionDenied .. => .other "Permission denied".toList
  | .inappropriateType _ code details | .invalidArgument _ code details =>
      match systemErrorNumber code with
      | 20 => .notDirectory
      | 21 => .isDirectory
      | 36 => .nameTooLong
      | _ => .other details.toList
  | e => .other e.toString.toList

/-- Opens a file of the system. -/
def openSystemFile (path : Path) : IO (Except OpenError ByteArray) := do
  match ← (IO.FS.readBinFile (String.ofList path.text)).toBaseIO with
  | .ok contents => return .ok contents
  | .error e => return .error (.ofSystem e)

/-- The report of the command run in the working folder of the system. -/
def runCommand (args : List Text) : IO Report := do
  match Invocation.ofArgs? args with
  | none => return Invocation.usageReport
  | some invocation => return invocation.report (← openSystemFile (.ofText invocation.path))

end Sexpr

/-- Runs the command with the arguments given. That it broke off shows in the exit status only. -/
def main (args : List String) : IO UInt32 := do
  let report ← Sexpr.runCommand (args.map String.toList)
  IO.print (String.ofList report.stdout)
  IO.eprint (String.ofList report.stderr)
  return report.ending.code.toUInt32

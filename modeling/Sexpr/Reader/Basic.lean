import Sexpr.Expr.Basic
import Sexpr.Token.Basic

/-!
# Readings

Reading tokens ends with a forest or with the first error. Along with that comes at most one log
entry, and the number of tokens that were taken: an error takes the token at which it shows and no
more.
-/

namespace Sexpr

/-- Why source text or tokens are not a forest. -/
inductive ReadError where
  /-- The source text ends inside a string. -/
  | unterminatedString
  /-- A closing bracket closes no list. -/
  | extraClose
  /-- The tokens end inside a list. -/
  | missingClose
  /-- A token is no bracket and no literal. -/
  | invalidAtom (token : Text)
deriving DecidableEq

/-- The wording of an error. -/
def ReadError.message : ReadError → Text
  | .unterminatedString => "Unterminated string".toList
  | .extraClose => "Extra )".toList
  | .missingClose => "Missing )".toList
  | .invalidAtom token => "Invalid atomic symbol `".toList ++ token ++ ['`']

/-- What the log says of a reading. -/
inductive LogEntry where
  /-- A forest of that many expressions was read from that many tokens. -/
  | parsed (expressions tokens : Nat)
  /-- The tokens ended inside that many lists. -/
  | stillOpen (lists : Nat)
  /-- The token at that place, counted from one, is a closing bracket that closes no list. -/
  | unmatchedClose (place : Nat)
deriving DecidableEq

/-- The wording of a log entry. -/
def LogEntry.message : LogEntry → Text
  | .parsed expressions tokens =>
      "parsed ".toList ++ Nat.toDigits 10 expressions ++ " expression(s) from ".toList ++
        Nat.toDigits 10 tokens ++ " token(s)".toList
  | .stillOpen lists => Nat.toDigits 10 lists ++ " list(s) still open at end of input".toList
  | .unmatchedClose place => "unmatched ) at token ".toList ++ Nat.toDigits 10 place

/-- What reading comes to. -/
structure Reading where
  /-- The forest, or the first error. -/
  outcome : Except ReadError (List Expr)
  /-- The log entry, if there is one. -/
  log : Option LogEntry
  /-- The number of tokens taken. -/
  taken : Nat

end Sexpr

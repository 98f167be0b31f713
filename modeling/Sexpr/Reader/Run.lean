import Sexpr.Reader.Basic
import Sexpr.Reader.Progress
import Sexpr.Token.Lexer

/-!
# Reading

Tokens are taken one after the other until the first error or the end. An atom that is no literal
and a bracket that closes no list are errors where they stand; a list that is still open is an
error at the end.
-/

namespace Sexpr

namespace Progress

/-- Takes one token, or ends the reading there. -/
def feed (p : Progress) (token : Token) : Except Reading Progress :=
  match token.event? with
  | none => .error ⟨.error (.invalidAtom token.text), none, p.taken + 1⟩
  | some event =>
      match p.step? event with
      | none => .error ⟨.error .extraClose, some (.unmatchedClose (p.taken + 1)), p.taken + 1⟩
      | some next => .ok next

/-- What reading comes to at the end of the tokens. -/
def conclude (p : Progress) : Reading :=
  match p.frames with
  | [] => ⟨.ok p.finished.reverse, some (.parsed p.finished.length p.taken), p.taken⟩
  | frames => ⟨.error .missingClose, some (.stillOpen frames.length), p.taken⟩

end Progress

/-- Reads a list of tokens. -/
def read (tokens : List Token) : Reading :=
  match tokens.foldlM Progress.feed {} with
  | .error reading => reading
  | .ok p => p.conclude

/-- Reads source text. No token is taken of a text that ends inside a string. -/
def readSource (source : Text) : Reading :=
  match tokens? source with
  | none => ⟨.error .unterminatedString, none, 0⟩
  | some tokens => read tokens

end Sexpr

import Sexpr.Expr.Printed
import Sexpr.Reader.Run

/-!
# A tour

A short example goes through the stages of reading: source text to tokens, tokens to literals and
to expressions, and three errors.
-/

namespace Sexpr.Tour

/-- The example program. -/
def source : Text :=
  "(define pi 3.14159)\n(define (area r) (* pi r r))\n(area 2)\n#t".toList

/-- The tokens of the example. -/
def tokens : List Token := (tokens? source).getD []

/-- The expressions of the example. -/
def forest : List Expr :=
  match (read tokens).outcome with
  | .ok forest => forest
  | .error _ => []

/-- Atoms of each kind. -/
def atoms : List Text := ["42", "-3.5", "#f", "\"hi\"", "area"].map String.toList

/-- Tokens that are not read, each list with an error of another kind. -/
def faults : List (List Text) :=
  [[['('], ['1']], [[')']], [['4', '.']]]

/-- A line about the tokens and one that shows the first of them. -/
def tokenLines : Text :=
  Text.line ("1. Tokenized into ".toList ++ Nat.toDigits 10 tokens.length ++ " tokens".toList) ++
    Text.line ("   First tokens: ".toList ++
      Text.bracketed ((tokens.take 6).map fun token => Text.quoted token.text))

/-- A line for an atom and its literal. -/
def atomLine (text : Text) : Text :=
  match Literal.classify text with
  | none => []
  | some literal =>
      Text.line ("   ".toList ++ Text.alignRight 6 text ++ " -> ".toList ++ literal.printed)

/-- A line for each expression. -/
def forestLines : Text :=
  Text.line ("3. Parsed ".toList ++ Nat.toDigits 10 forest.length ++
      " top-level expressions".toList) ++
    forest.flatMap fun e => Text.line ("   ".toList ++ e.printed)

/-- A line for a list of tokens that is not read. -/
def faultLine (texts : List Text) : Text :=
  match (read (texts.map Token.ofText)).outcome with
  | .ok _ => []
  | .error e =>
      Text.line ("4. ".toList ++ Text.bracketed (texts.map Text.quoted) ++
        " -> SyntaxError: ".toList ++ e.message)

/-- The whole tour. -/
def text : Text :=
  Text.line "=== hasp E2E Demo ===".toList ++ Text.line [] ++
    tokenLines ++ Text.line [] ++
    Text.line "2. Classified atoms".toList ++ atoms.flatMap atomLine ++ Text.line [] ++
    forestLines ++ Text.line [] ++
    faults.flatMap faultLine ++ Text.line [] ++
    Text.line "=== Done ===".toList

end Sexpr.Tour

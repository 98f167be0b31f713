import Sexpr.Binary64.Nearest
import Sexpr.Literal.Kind

/-!
# The literal of a token

A token is given to the first kind whose pattern it fits. Only the integers and the names share
spellings: a minus sign followed by digits is an integer because integers come first. The conversion
that belongs to a kind does not know the pattern, and may refuse a text for reasons of its own.
-/

namespace Sexpr.Literal

/-- The literal of a kind that a text stands for; `none` if it stands for none. -/
def Kind.read : Kind → Text → Option Literal
  | .int, t => (Numeral.int? t).map .int
  | .float, t => (Binary64.ofText? t).map .float
  | .bool, t => if t = ['#', 't'] then some (.bool true)
      else if t = ['#', 'f'] then some (.bool false) else none
  | .string, t => some (.string t)
  | .var, t => some (.var t)

/-- The literal that the conversion of a kind makes of a text; `none` if it refuses the text. -/
def Kind.convert? : Kind → Text → Option Literal
  | .int, t => (Numeral.convert? digitLimit Numeral.blockSize t).map .int
  | kind, t => kind.read t

/-- The literal of a token, given to the first of the kinds that admits it. A token is never tried
with a later kind. -/
def classifyBy (kinds : List Kind) (token : Text) : Option Literal :=
  (kinds.find? (·.admits token)).bind (·.read token)

/-- The literal of a token; `none` if no kind admits it. -/
def classify (token : Text) : Option Literal :=
  classifyBy [.int, .float, .bool, .string, .var] token

end Sexpr.Literal

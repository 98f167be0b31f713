import Sexpr.Text.Basic

/-!
# Sequences of texts

How several texts are printed as one: separated by a comma and a space, and enclosed in brackets.
-/

namespace Sexpr.Text

/-- The texts with a comma and a space between two of them. -/
def commaSeparated (texts : List Text) : Text := List.intercalate [',', ' '] texts

/-- The texts in square brackets. -/
def bracketed (texts : List Text) : Text := '[' :: commaSeparated texts ++ [']']

/-- The texts in round brackets. A comma behind a single text tells it from a text that is merely
in brackets. -/
def tuple : List Text → Text
  | [t] => '(' :: t ++ [',', ')']
  | texts => '(' :: commaSeparated texts ++ [')']

end Sexpr.Text

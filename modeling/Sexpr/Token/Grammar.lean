import Sexpr.Text.Blank
import Sexpr.Text.Escaped
import Sexpr.Token.Lexer

/-!
# Lexical grammar

Source text is a row of items: blanks, brackets, words, strings and comments. It may end inside a
string. Words are as long as possible, so two of them do not touch, and only the last item can be a
comment without a line feed at its end. Each source text is made up in this way, and in one way
only.
-/

namespace Sexpr.Token

/-- A piece of source text. -/
inductive Item where
  /-- A single blank. -/
  | blank (c : Char)
  /-- An opening bracket. -/
  | lparen
  /-- A closing bracket. -/
  | rparen
  /-- A word. -/
  | word (text : Text)
  /-- A string, given by what is between its quotes. -/
  | quoted (body : Text)
  /-- A comment, given by what is between the semicolon and the line feed at its end. -/
  | comment (body : Text)
  /-- A comment that ends with the source text, given by what is behind the semicolon. -/
  | openComment (body : Text)
deriving DecidableEq

namespace Item

/-- The item as it is written. -/
def text : Item → Text
  | .blank c => [c]
  | .lparen => ['(']
  | .rparen => [')']
  | .word t => t
  | .quoted body => '"' :: body ++ ['"']
  | .comment body => ';' :: body ++ ['\n']
  | .openComment body => ';' :: body

/-- What the item may hold. -/
def IsValid : Item → Prop
  | .blank c => Text.isBlank c = true
  | .lparen | .rparen => True
  | .word t => t ≠ [] ∧ ∀ c ∈ t, isPlain c = true
  | .quoted body => body.IsEscaped
  | .comment body | .openComment body => '\n' ∉ body

/-- Whether the second item may stand behind the first. -/
def MayPrecede : Item → Item → Prop
  | .word _, .word _ => False
  | .openComment _, _ => False
  | _, _ => True

/-- Whether each item may stand before the next one. -/
def InOrder : List Item → Prop
  | first :: second :: rest => MayPrecede first second ∧ InOrder (second :: rest)
  | _ => True

/-- The token that the item stands for, if it stands for one. -/
def token? : Item → Option Token
  | .lparen => some .lparen
  | .rparen => some .rparen
  | .word t => some (.atom t)
  | .quoted body => some (.atom ('"' :: body ++ ['"']))
  | .blank _ | .comment _ | .openComment _ => none

end Item

/-- The parts of a source text. -/
structure Parts where
  /-- The items. -/
  items : List Item
  /-- What is behind the quote of a string that is not closed, if the source text ends in one. -/
  unclosed : Option Text := none
deriving DecidableEq

namespace Parts

/-- The source text with the given parts. -/
def text (parts : Parts) : Text :=
  parts.items.flatMap Item.text ++
    match parts.unclosed with
    | none => []
    | some body => '"' :: body

/-- The tokens among the parts. -/
def tokens (parts : Parts) : List Token := parts.items.filterMap Item.token?

/-- Whether the parts are those of a source text. -/
structure IsValid (parts : Parts) : Prop where
  /-- Each item holds what it may hold. -/
  items : ∀ item ∈ parts.items, item.IsValid
  /-- Each item may stand before the next one. -/
  order : Item.InOrder parts.items
  /-- A string that is not closed may end with a backslash that takes nothing along. -/
  unclosed : ∀ rest ∈ parts.unclosed, ∃ body : Text, body.IsEscaped ∧
    (rest = body ∨ rest = body ++ ['\\'])
  /-- No string starts behind a comment that ends with the source text. -/
  last : parts.unclosed.isSome → ∀ body, Item.openComment body ∉ parts.items

end Parts

end Sexpr.Token

import Sexpr.Text.Blank
import Sexpr.Token.Basic

/-!
# From source text to tokens

The source is read character by character. Brackets are tokens of their own, a string is a token
from its opening to its closing quote, and a word is a run of any other characters; blanks and
comments separate words and leave no token. What has been read is a fold over the characters, so a
longer source goes on where a shorter one stopped.
-/

namespace Sexpr.Token

/-- Whether a character may stand in a word. -/
def isPlain (c : Char) : Bool := !Text.isBlank c && c ∉ ['(', ')', '"', ';']

/-- What the characters read last belong to. -/
inductive Mode where
  /-- A word, given by its characters, latest first; between words there are none. -/
  | word (recent : Text)
  /-- A string, given by its characters, latest first, and whether the next one is escaped. -/
  | quoted (recent : Text) (escaped : Bool)
  /-- A comment. -/
  | comment
deriving DecidableEq

/-- The state of reading source text. -/
structure Lexer where
  /-- What the characters read last belong to. -/
  mode : Mode := .word []
  /-- The tokens that are complete, latest first. -/
  tokens : List Token := []
deriving DecidableEq

namespace Lexer

/-- The complete tokens and the word that ends here, if there is one; latest first. -/
def tokensWith (word : Text) (tokens : List Token) : List Token :=
  if word.isEmpty then tokens else .atom word.reverse :: tokens

/-- A character that ends the word read so far. -/
def delimit (word : Text) (tokens : List Token) (c : Char) : Lexer :=
  match c with
  | '(' => ⟨.word [], .lparen :: tokensWith word tokens⟩
  | ')' => ⟨.word [], .rparen :: tokensWith word tokens⟩
  | '"' => ⟨.quoted ['"'] false, tokensWith word tokens⟩
  | ';' => ⟨.comment, tokensWith word tokens⟩
  | _ => ⟨.word [], tokensWith word tokens⟩

/-- Reads one character. Only a line feed ends a comment, and in a string a backslash takes away
the meaning of the character behind it. -/
def step (s : Lexer) (c : Char) : Lexer :=
  match s.mode with
  | .word recent =>
      if isPlain c then { s with mode := .word (c :: recent) } else delimit recent s.tokens c
  | .quoted recent true => { s with mode := .quoted (c :: recent) false }
  | .quoted recent false =>
      if c = '"' then ⟨.word [], .atom (c :: recent).reverse :: s.tokens⟩
      else { s with mode := .quoted (c :: recent) (c == '\\') }
  | .comment => if c = '\n' then { s with mode := .word [] } else s

/-- Reads a text from the first character to the last. -/
def run (s : Lexer) (source : Text) : Lexer := source.foldl step s

/-- The tokens in order of the source; `none` inside a string. -/
def finish? (s : Lexer) : Option (List Token) :=
  match s.mode with
  | .word recent => some (tokensWith recent s.tokens).reverse
  | .quoted _ _ => none
  | .comment => some s.tokens.reverse

@[simp] theorem run_nil (s : Lexer) : s.run [] = s := rfl

@[simp] theorem run_cons (s : Lexer) (c : Char) (rest : Text) :
    s.run (c :: rest) = (s.step c).run rest := rfl

theorem run_append (s : Lexer) (source more : Text) :
    s.run (source ++ more) = (s.run source).run more := List.foldl_append

end Lexer

end Sexpr.Token

namespace Sexpr

/-- The tokens of a source text; `none` if it ends inside a string. -/
def tokens? (source : Text) : Option (List Token) := (({} : Token.Lexer).run source).finish?

end Sexpr

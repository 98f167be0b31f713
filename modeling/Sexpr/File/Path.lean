import Sexpr.Text.Basic

/-!
# Paths

A path is a list of names separated by slashes. Empty names and names that are a single dot are
dropped when a path is read, so doubled and trailing slashes do not count; a path without names is
the working folder itself. Two dots, which lead to the enclosing folder, are a name like any other.
-/

namespace Sexpr

/-- A path to a file or a folder. -/
structure Path where
  /-- Whether the path starts at the root and not at the working folder. -/
  absolute : Bool
  /-- The names on the path. -/
  names : List Text
deriving DecidableEq

namespace Path

/-- The texts between the slashes of a text. -/
def cut : Text → List Text
  | [] => [[]]
  | c :: rest =>
      if c = '/' then [] :: cut rest
      else
        match cut rest with
        | [] => [[c]]
        | name :: names => (c :: name) :: names

/-- The path that a text denotes. -/
def ofText (t : Text) : Path where
  absolute := t.head? == some '/'
  names := (cut t).filter fun name => !name.isEmpty && name != ['.']

/-- The path as a text, with single slashes. -/
def text (path : Path) : Text :=
  let names := List.intercalate ['/'] path.names
  if path.absolute then '/' :: names else if names.isEmpty then ['.'] else names

end Path

end Sexpr

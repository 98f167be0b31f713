import Sexpr.File.Path

/-!
# Folders

A working folder with the files in it and below it. A folder exists if it holds a file, and nothing
is known of the world outside but that the working folder lies in it. A path is followed name by
name, and the first name that cannot be followed says why a file is not opened.
-/

namespace Sexpr

/-- Why a file is not opened. -/
inductive OpenError where
  /-- A name on the path does not exist. -/
  | noSuchFile
  /-- The path leads to a folder. -/
  | isDirectory
  /-- The path goes on behind a file. -/
  | notDirectory
  /-- The path or a name on it is too long. -/
  | nameTooLong
  /-- Any other reason, in the words of the system that keeps the files. -/
  | other (reason : Text)
deriving DecidableEq

/-- The wording of a reason. -/
def OpenError.reason : OpenError → Text
  | .noSuchFile => "No such file or directory".toList
  | .isDirectory => "Is a directory".toList
  | .notDirectory => "Not a directory".toList
  | .nameTooLong => "File name too long".toList
  | .other reason => reason

/-- The files below the working folder: the names that lead to each of them, and its contents. -/
structure Folder where
  /-- The files. -/
  files : List (List Text × ByteArray)

namespace Folder

/-- How far a path has been followed. -/
inductive Place where
  /-- The names that lead from the working folder to the place. -/
  | inside (names : List Text)
  /-- A folder around the working folder. -/
  | outside
deriving DecidableEq

/-- The greatest number of bytes of a name. -/
def nameLimit : Nat := 255

/-- The greatest number of bytes of a path. -/
def pathLimit : Nat := 4095

/-- The number of bytes of a text in UTF-8. -/
def byteSize (t : Text) : Nat := (String.ofList t).utf8ByteSize

/-- The contents of the file that the names lead to. -/
def file? (folder : Folder) (names : List Text) : Option ByteArray :=
  (folder.files.find? (·.1 == names)).map Prod.snd

/-- Whether the names lead to a file or to a folder on the way to one. -/
def holds (folder : Folder) (names : List Text) : Bool :=
  folder.files.any fun file => names.isPrefixOf file.1

/-- Follows one name. -/
def enter (folder : Folder) (place : Place) (name : Text) : Except OpenError Place :=
  match place with
  | .outside =>
      if name = ['.', '.'] then .ok .outside
      else if nameLimit < byteSize name then .error .nameTooLong
      else .error .noSuchFile
  | .inside names =>
      if (folder.file? names).isSome then .error .notDirectory
      else if name = ['.', '.'] then
        .ok (if names.isEmpty then .outside else .inside names.dropLast)
      else if nameLimit < byteSize name then .error .nameTooLong
      else if folder.holds (names ++ [name]) then .ok (.inside (names ++ [name]))
      else .error .noSuchFile

/-- The contents of the file that a path leads to. -/
def openFile (folder : Folder) (path : Path) : Except OpenError ByteArray :=
  if pathLimit < byteSize path.text then .error .nameTooLong
  else
    match path.names.foldlM folder.enter (if path.absolute then .outside else .inside []) with
    | .error e => .error e
    | .ok .outside => .error .isDirectory
    | .ok (.inside names) =>
        match folder.file? names with
        | none => .error .isDirectory
        | some contents => .ok contents

end Folder

end Sexpr

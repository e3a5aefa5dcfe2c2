/-!
# Files

The working directory as far as the program reads it: files with their text, and directories.
-/

namespace TokenLifecycle

/-- Why a file cannot be read. -/
inductive FileFault
  | notFound
  | notADirectory
  | isADirectory
  | nameTooLong
  | nameWithNul
  deriving DecidableEq, Repr

/-- The wording of a fault. -/
def FileFault.message : FileFault → String
  | notFound => "No such file or directory (os error 2)"
  | notADirectory => "Not a directory (os error 20)"
  | isADirectory => "Is a directory (os error 21)"
  | nameTooLong => "File name too long (os error 36)"
  | nameWithNul => "file name contained an unexpected NUL byte"

/-- The names that a path consists of. -/
def pathNames (path : String) : List String :=
  (path.toList.splitOn '/').map String.ofList

/-- A directory tree. -/
structure Files where
  /-- Files by their path, each a list of names. -/
  files : List (List String × String)
  /-- Directories by their path, besides those that hold something. -/
  directories : List (List String)
  deriving DecidableEq, Repr

namespace Files

/-- The tree of files and directories; a path without text is a directory. -/
def ofList (entries : List (String × Option String)) : Files where
  files := entries.filterMap fun (p, text) => text.map fun t => ((pathNames p).filter (· ≠ ""), t)
  directories := entries.filterMap fun (p, text) =>
    match text with
    | none => some ((pathNames p).filter (· ≠ ""))
    | some _ => none

/-- The path is that of a directory. -/
def isDirectory (f : Files) (path : List String) : Bool :=
  path.isEmpty || f.directories.any (path.isPrefixOf ·) ||
    f.files.any fun (p, _) => path.isPrefixOf p && path.length < p.length

/-- Follows names from a directory to a text. Names beyond the tree lead nowhere. -/
def follow (f : Files) (here : List String) : List String → Except FileFault String
  | [] => .error .isADirectory
  | name :: rest =>
    if name = "" ∨ name = "." then follow f here rest
    else if name = ".." then
      if here.isEmpty then .error .notFound else follow f here.dropLast rest
    else if 255 < name.utf8ByteSize then .error .nameTooLong
    else
      let there := here ++ [name]
      match f.files.lookup there with
      | some text => if rest.isEmpty then .ok text else .error .notADirectory
      | none => if f.isDirectory there then follow f there rest else .error .notFound

/-- The text of the file at a path. -/
def read (f : Files) (path : String) : Except FileFault String :=
  if path.toList.contains '\x00' then .error .nameWithNul
  else if path = "" then .error .notFound
  else if 4096 ≤ path.utf8ByteSize then .error .nameTooLong
  else if path.toList.head? = some '/' then
    .error (if path.toList.all (· = '/') then .isADirectory else .notFound)
  else f.follow [] (pathNames path)

end Files

end TokenLifecycle

/-!
# Paths

A path names a file by the directories that lead to it. Writing a directory separator twice, or
naming the current directory on the way, makes no difference; a step to the parent directory is kept
as it is written.
-/

namespace RuleConsult

/-- A path in normal form. -/
structure Path where
  /-- The separators at the beginning: none for a relative path, one or two for an absolute one. -/
  root : String
  /-- The names along the path, without empty ones and without the current directory. -/
  parts : List String
  deriving DecidableEq, Repr, Inhabited

namespace Path

/-- The path written in a text. -/
def ofText (text : String) : Path :=
  let slashes := (text.toList.takeWhile (· == '/')).length
  { root := if slashes == 0 then "" else if slashes == 2 then "//" else "/"
    parts := (text.splitOn "/").filter fun part => part != "" && part != "." }

/-- The written form of a path. The path without names is the current directory. -/
def toText (path : Path) : String :=
  if path.root.isEmpty && path.parts.isEmpty then "."
  else path.root ++ String.intercalate "/" path.parts

/-- The last name of a path. -/
def name (path : Path) : String :=
  path.parts.getLast?.getD ""

/-- The ending of the last name from its last dot on. A dot at the beginning or at the end of the
name begins no ending. -/
def suffix (path : Path) : String :=
  let chars := path.name.toList
  let ending := chars.reverse.takeWhile (· != '.')
  let before := chars.length - ending.length
  if 1 < before && !ending.isEmpty then String.ofList ('.' :: ending.reverse) else ""

/-- The path of a file in a directory. An absolute path stands for itself. -/
def join (directory file : Path) : Path :=
  if file.root.isEmpty then ⟨directory.root, directory.parts ++ file.parts⟩ else file

end Path

end RuleConsult

import TableGate.Text.Basic

/-! The name of a database that is a file: the file's name without its last extension. -/

namespace TableGate.DatabaseName

/-- The last part of a path; empty parts and those of one point name nothing. -/
def lastPart (path : Text) : Text :=
  (((Text.splitOn '/' path).filter fun part => !part.isEmpty && part != ['.']).getLast?).getD []

/-- A file name without its last extension. A point at either end starts no extension. -/
def stem (name : Text) : Text :=
  let extension := name.reverse.takeWhile (· ≠ '.')
  let base := (name.reverse.drop (extension.length + 1)).reverse
  if extension.isEmpty || base.isEmpty then name else base

/-- The name of the database of a path, unless one is given. Paths that start with a colon
name no file. -/
def ofPath (path given : Text) : Text :=
  if !given.isEmpty then given
  else if path.head? == some ':' then "memory"
  else stem (lastPart path)

end TableGate.DatabaseName

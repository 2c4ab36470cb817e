import SchemaMigration.Text.Pieces

/-!
# Paths

A path is a text whose parts are divided by slashes. The name of the file that it ends in is divided
at its last point into a stem and an extension; a point at the beginning divides nothing.
-/

namespace SchemaMigration.Path

open Text

/-- The parts of a path, in which slashes side by side count as one. -/
def parts (path : String) : List String :=
  ((splitAt '/' path.toList).filter (fun part => !part.isEmpty)).map String.ofList

/-- The beginnings of a list but for the empty one, longer ones first. -/
def beginnings {α : Type} : List α → List (List α)
  | [] => []
  | a :: rest => (beginnings rest).map (a :: ·) ++ [[a]]

/-- The directories on the way to what a path denotes, innermost first. Points that stand for a
directory itself do not count. -/
def ancestors (path : String) : List (List String) :=
  (beginnings ((parts path).filter (· != "."))).drop 1

/-- Whether a path starts at the root. -/
def isAbsolute (path : String) : Bool :=
  path.toList.head? == some '/'

/-- The name of the file that a path ends in. Points that stand for a directory itself do not
count. -/
def fileName? (path : String) : Option String :=
  match ((parts path).reverse.dropWhile (· == ".")).head? with
  | some name => if name = ".." then none else some name
  | none => none

/-- A file name divided at its last point. -/
def divided (name : String) : List Char × Option (List Char) :=
  let reversed := name.toList.reverse
  let extension := (reversed.takeWhile (· ≠ '.')).reverse
  match (reversed.dropWhile (· ≠ '.')).drop 1 with
  | [] => (name.toList, none)
  | stem => (stem.reverse, some extension)

/-- The file name of a path without its extension. -/
def stem? (path : String) : Option String :=
  (fileName? path).map (fun name => String.ofList (divided name).1)

/-- The extension of the file name of a path. -/
def extension? (path : String) : Option String :=
  (fileName? path).bind (fun name => (divided name).2.map String.ofList)

/-- The path of a name inside a directory. A name that starts at the root stays as it is. -/
def join (directory name : String) : String :=
  if isAbsolute name || directory.isEmpty then name
  else if directory.toList.getLast? = some '/' then directory ++ name
  else directory ++ "/" ++ name

end SchemaMigration.Path

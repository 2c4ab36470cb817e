import SchemaMigration.Error
import SchemaMigration.Files.Path

/-!
# Files

A tree of directories and files. A path is followed from the working directory part by part; every
part but the last has to be a directory that is there.
-/

namespace SchemaMigration

/-- A file with its content, or a directory. -/
inductive Node where
  /-- A file. -/
  | file (content : List UInt8)
  /-- A directory. -/
  | directory
deriving DecidableEq

/-- Where a node is: the names on the way from the working directory. -/
abbrev Place := List String

/-- A tree of directories and files. -/
structure Files where
  /-- The nodes below the working directory, in no particular order. -/
  nodes : List (Place × Node) := []
deriving Inhabited

namespace Files

/-- Where absolute paths start. -/
def root : Place := ["/"]

/-- The node at a place. -/
def node? (f : Files) (place : Place) : Option Node :=
  if place.isEmpty || place == root then some .directory else f.nodes.lookup place

/-- The number of bytes that a name may have. -/
def maxNameSize : Nat := 255

/-- Follows the parts of a path from a place. -/
def follow (f : Files) (place : Place) : List String → Except FileProblem Place
  | [] => .ok place
  | part :: rest =>
    match f.node? place with
    | none => .error .missing
    | some (.file _) => .error .notDirectory
    | some .directory =>
      if part = "." then f.follow place rest
      else if part = ".." then
        if place = root then f.follow place rest
        else if place.isEmpty then .error .missing
        else f.follow place.dropLast rest
      else if maxNameSize < part.utf8ByteSize then .error .nameTooLong
      else f.follow (place ++ [part]) rest

/-- Where a path starts. -/
def start (path : String) : Place :=
  if Path.isAbsolute path then root else []

/-- The place that a path denotes. A slash at its end is for directories only, and the empty path
denotes nothing. -/
def locate (f : Files) (path : String) : Except FileProblem Place :=
  if path.isEmpty then .error .missing
  else
    let ending := if path.toList.getLast? = some '/' then ["."] else []
    f.follow (start path) (Path.parts path ++ ending)

/-- The node that a path denotes. -/
def find (f : Files) (path : String) : Except FileProblem Node := do
  match f.node? (← f.locate path) with
  | some node => return node
  | none => throw .missing

/-- Whether a path denotes a node. -/
def exists? (f : Files) (path : String) : Bool :=
  match f.find path with
  | .ok _ => true
  | .error _ => false

/-- The content of a file. -/
def read (f : Files) (path : String) : Except FileProblem (List UInt8) := do
  match ← f.find path with
  | .file content => return content
  | .directory => throw .isDirectory

/-- The content of a file as text. -/
def readText (f : Files) (path : String) : Except FileProblem String := do
  match String.fromUTF8? (ByteArray.mk (← f.read path).toArray) with
  | some text => return text
  | none => throw .notText

/-- The name of a node in a directory, if it lies right inside. -/
def nameIn? (directory : Place) (place : Place) : Option String :=
  if place.dropLast = directory then place.getLast? else none

/-- The names and the nodes in a directory. -/
def list (f : Files) (path : String) : Except FileProblem (List (String × Node)) := do
  let place ← f.locate path
  match f.node? place with
  | none => throw .missing
  | some (.file _) => throw .notDirectory
  | some .directory =>
    return f.nodes.filterMap (fun (p, node) => (nameIn? place p).map (·, node))

/-- The tree with a node at a place. -/
def put (f : Files) (place : Place) (node : Node) : Files :=
  if (f.nodes.lookup place).isSome then
    { nodes := f.nodes.map (fun entry => if entry.1 = place then (place, node) else entry) }
  else { nodes := f.nodes ++ [(place, node)] }

/-- The tree without a node and what lies below it. -/
def removeAt (f : Files) (place : Place) : Files :=
  { nodes := f.nodes.filter (fun entry => !place.isPrefixOf entry.1) }

/-- Writes a file, whose directory has to be there. -/
def write (f : Files) (path : String) (content : List UInt8) : Except FileProblem Files := do
  let place ← f.locate path
  match f.node? place with
  | some .directory => throw .isDirectory
  | _ => return f.put place (.file content)

/-- Makes a directory inside one that is there. -/
def makeDirectory (f : Files) (start : Place) (parts : List String) : Except FileProblem Files := do
  let place ← f.follow start parts
  if (f.node? place).isSome then throw .alreadyExists else return f.put place .directory

/-- Whether a path from a place denotes a directory. -/
def isDirectory (f : Files) (start : Place) (parts : List String) : Bool :=
  match f.follow start parts with
  | .ok place => f.node? place == some .directory
  | .error _ => false

/-- Makes the first directory of a list, and for it those behind it that are needed. What was made
stays if a problem arises. -/
def makeFirst (f : Files) (start : Place) : List (List String) → Files × Option FileProblem
  | [] => (f, none)
  | parts :: outer =>
    let settled (f : Files) (problem : FileProblem) :=
      (f, if f.isDirectory start parts then none else some problem)
    match f.makeDirectory start parts with
    | .ok f => (f, none)
    | .error .missing =>
      match f.makeFirst start outer with
      | (f, some problem) => (f, some problem)
      | (f, none) =>
        match f.makeDirectory start parts with
        | .ok f => (f, none)
        | .error problem => settled f problem
    | .error problem => settled f problem

/-- Makes a directory and those on the way to it. What was made stays if a problem arises. -/
def makeDirectories (f : Files) (path : String) : Files × Option FileProblem :=
  if path.isEmpty then (f, none)
  else f.makeFirst (start path) (Path.parts path :: Path.ancestors path)

/-- Writes a file and makes the directories on the way to it. What was made stays if a problem
arises. -/
def writeDeep (f : Files) (path : String) (content : List UInt8) : Files × Option FileProblem :=
  match f.makeFirst (start path) (Path.ancestors path) with
  | (f, some problem) => (f, some problem)
  | (f, none) =>
    match f.write path content with
    | .ok f => (f, none)
    | .error problem => (f, some problem)

/-- Removes a file, or a directory with what is in it. -/
def remove (f : Files) (path : String) : Except FileProblem Files := do
  let place ← f.locate path
  match f.node? place with
  | some _ => return f.removeAt place
  | none => throw .missing

end Files

end SchemaMigration

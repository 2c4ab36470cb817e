import SchemaMigration.Config.Basic
import SchemaMigration.Files.Basic
import SchemaMigration.Migration.Basic
import SchemaMigration.Migration.Name

/-!
# Discovery

The migrations are the files with a known extension in the configured directories. Of two with one
name the one in the earlier directory counts, and within a directory the one whose file name comes
first.
-/

namespace SchemaMigration

namespace Discovery

/-- Whether a file may be one of a migration. -/
def hasExtension (extensions : List String) (path : String) : Bool :=
  match Path.extension? path with
  | some extension => extensions.contains extension
  | none => false

/-- The files of migrations in a directory, in the order of their names. A directory that is not
there has none. -/
def filesIn (f : Files) (extensions : List String) (directory : String) :
    Except Error (List String) :=
  if !f.exists? directory then .ok []
  else match f.list directory with
    | .error problem => .error (.io directory problem)
    | .ok entries =>
      let names := (entries.filter (fun entry => entry.2 != .directory)).map (·.1)
      let sorted := names.mergeSort (fun a b => a ≤ b)
      .ok ((sorted.map (Path.join directory)).filter (hasExtension extensions))

/-- Adds the files of a directory to those of earlier ones. -/
def addFiles (known : Dict String) (paths : List String) : Dict String :=
  paths.foldl (fun known path =>
    match migrationName? path with
    | some name => known.insertIfNew name path
    | none => known) known

/-- The names of the migrations with their files, in the order of the names. -/
def discover (c : Config) (f : Files) : Except Error (Dict String) :=
  c.paths.foldlM (fun known directory => do
    return addFiles known (← filesIn f c.extensions directory)) ∅

/-- The migration in a file: the registered one of that name, or else the one that a section file
describes. -/
def load (registry : Dict Migration) (path : String) (f : Files) : Except Error Migration :=
  match migrationName? path with
  | none => .error (.validation (.invalidFileName path))
  | some name =>
    match registry.get? name with
    | some migration => .ok migration
    | none =>
      if Path.extension? path = some "sql" then
        match f.readText path with
        | .error problem => .error (.io path problem)
        | .ok content => (SectionFile.parse name content).map Migration.ofSections
      else .error (.validation (.notRegistered name path))

end Discovery

end SchemaMigration

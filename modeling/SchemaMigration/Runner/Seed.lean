import SchemaMigration.Runner.Basic

/-!
# Seeders

A seeder is a program that fills tables. It is run only if it is registered and the directory of
seeders has a file of its name.
-/

namespace SchemaMigration

/-- The seeder that is run if none is named. -/
def defaultSeeder : String := "DatabaseSeeder"

namespace Runner

/-- The file of a seeder: the first one that is there, by the order of the extensions. -/
def locateSeeder (directory name : String) (extensions : List String) (f : Files) :
    Except Error String :=
  let candidates := extensions.map (fun extension => Path.join directory (name ++ "." ++ extension))
  match candidates.find? f.exists? with
  | some path => .ok path
  | none => .error (.validation (.seederNotFound name directory))

/-- The program of a seeder that has a file. -/
def loadSeeder (r : Runner) (name : String) (f : Files) : Except Error (Program Unit) := do
  match r.config.seedersPath with
  | none => throw (.configuration .noSeedersPath)
  | some directory => do
    let path ← locateSeeder directory name r.config.extensions f
    match r.seeders.get? name with
    | some program => return program
    | none => throw (.validation (.seederNotRegistered name path))

/-- Runs a seeder, the default one if none is named. -/
def seed (r : Runner) (name : Option String) : Action Unit := do
  let name := name.getD defaultSeeder
  let program ← Action.inspectFiles (r.loadSeeder name)
  let started ← Action.now
  r.say s!"Seeding: {name}"
  Action.runFully program
  let elapsed := (← Action.now).millisSince started
  r.say s!"Seeded:  {name} ({elapsed}ms)"

end Runner

end SchemaMigration

import SchemaMigration.Digest.Sha256
import SchemaMigration.Runner.Discovery
import SchemaMigration.Runner.Session
import SchemaMigration.Text.Escaped

/-!
# Runners

A `Runner` is what is fixed while migrations are run: the configuration, the registered migrations
and seeders, and the listeners. Whole operations are carried out under a lock, if one is configured.
-/

namespace SchemaMigration

/-- What is fixed while migrations are run. -/
structure Runner where
  /-- The configuration. -/
  config : Config := {}
  /-- The registered migrations under their names. -/
  migrations : Dict Migration := ∅
  /-- The registered seeders under their names. -/
  seeders : Dict (Program Unit) := ∅
  /-- The listeners. -/
  listeners : List Listener := []

namespace Runner

/-- A runner with a configuration, in which nothing may be wrong. -/
def ofConfig (config : Config) (migrations : Dict Migration) (seeders : Dict (Program Unit))
    (listeners : List Listener) : Except Error Runner := do
  config.validate
  return { config, migrations, seeders, listeners }

/-- The names in a registry in the form for inspection. -/
def inspectNames (registry field : String) (names : List String) : String :=
  registry ++ " \x7b " ++ field ++ ": [" ++ Text.join ", " (names.map Text.escaped) ++ "] \x7d"

/-- The registered migrations in the form for inspection. -/
def inspectMigrations (r : Runner) : String :=
  inspectNames "MigrationRegistry" "migrations" r.migrations.keys

/-- The registered seeders in the form for inspection. -/
def inspectSeeders (r : Runner) : String :=
  inspectNames "SeederRegistry" "seeders" r.seeders.keys

/-- Whether the lock of the runner is held. -/
def isLocked (r : Runner) (s : Store) : Bool :=
  s.isLocked r.config.lockName

/-- Tells all listeners an event. -/
def emit (r : Runner) (event : Event) : Action Unit := do
  let store := (← get).store
  Action.note (.emitted event (r.isLocked store) store.inTransaction)
  (deliver r.listeners event).forM (fun delivery => Action.note (.heard delivery))

/-- Prints a line, unless the runner is quiet. -/
def say (r : Runner) (line : String) : Action Unit :=
  if r.config.quiet then return () else Action.note (.printed line)

/-- The files of migrations. -/
def files (r : Runner) : Action (Dict String) :=
  Action.inspectFiles (Discovery.discover r.config)

/-- Takes the lock if one is configured and the store has locks; returns whether it is held now. -/
def acquireLock (r : Runner) : Action Bool := do
  if r.config.advisoryLock && (← get).store.lockable then
    let name := r.config.lockName
    if ← Action.change (fun s => .ok (s.acquire name)) then return true
    else Action.fail (.lockUnavailable (.held name r.config.lockTimeout))
  else return false

/-- Gives the lock up if it is held. -/
def releaseLock (r : Runner) (held : Bool) : Action Unit :=
  if held then Action.change (fun s => .ok ((), s.release r.config.lockName)) else return ()

/-- Carries out an action under the lock, which is given up when the action returns or fails. -/
def withLock {α : Type} (r : Runner) (action : Action α) : Action α := do
  let held ← r.acquireLock
  let result ← Action.attempt action
  r.releaseLock held
  Action.orFail result

/-- The digest of a file. -/
def checksum (path : String) (f : Files) : Except Error String :=
  match f.read path with
  | .ok content => .ok (Sha256.hexDigest content)
  | .error problem => .error (.io path problem)

end Runner

end SchemaMigration

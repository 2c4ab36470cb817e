import SchemaMigration.Migration.Integrity
import SchemaMigration.Runner.Run

/-!
# Reports

Which migrations are pending, what is known of each, and whether the files are still those that were
applied. Reports change nothing.
-/

namespace SchemaMigration

/-- What was found when records were checked against their files. -/
structure VerifyReport where
  /-- The number of records. -/
  checked : Nat := 0
  /-- What is wrong, in the order of the records. -/
  issues : List IntegrityIssue := []
deriving DecidableEq

/-- Whether nothing is wrong. -/
def VerifyReport.isClean (report : VerifyReport) : Bool :=
  report.issues.isEmpty

namespace Runner

/-- The records, none if there is no tracking table. -/
def currentRecords (r : Runner) : Action (List Record) := do
  if (← get).store.hasTable r.config.table then Action.read (Tracking.records r.config.table)
  else return []

/-- The names of the pending migrations, in order. -/
def pending (r : Runner) : Action (List String) := do
  let records ← r.currentRecords
  return (pendingFiles (← r.files) records).map (·.1)

/-- What is known of a migration that was applied. -/
def ranStatus (files : Dict String) (record : Record) : Status where
  migration := record.migration
  state := .ran
  batch := some record.batch
  ranAt := record.createdAt
  path := files.get? record.migration

/-- What is known of a migration that was not applied. -/
def pendingStatus (name path : String) : Status where
  migration := name
  state := .pending
  path := some path

/-- What is known of each migration, by name. Of several records of one migration the last counts. -/
def statusOf (files : Dict String) (records : List Record) : List Status :=
  let ran := Dict.ofList (records.map (fun record => (record.migration, ranStatus files record)))
  (files.entries.foldl (fun known (name, path) =>
    known.insertIfNew name (pendingStatus name path)) ran).values

/-- What is known of each migration, by name. -/
def status (r : Runner) : Action (List Status) := do
  let files ← r.files
  return statusOf files (← r.currentRecords)

/-- What is wrong with a record, if anything is. -/
def issue? (f : Files) (files : Dict String) (record : Record) : Option IntegrityIssue :=
  match files.get? record.migration, record.checksum with
  | none, _ => some (.missingFile record.migration)
  | some _, none => none
  | some path, some expected =>
    match checksum path f with
    | .error _ => some (.missingFile record.migration)
    | .ok actual =>
      if actual = expected then none
      else some (.checksumMismatch record.migration expected actual)

/-- Checks all records against their files. -/
def verify (r : Runner) : Action VerifyReport := do
  if (← get).store.hasTable r.config.table then
    let files ← r.files
    let records ← Action.read (Tracking.records r.config.table)
    return { checked := records.length, issues := records.filterMap (issue? (← get).files files) }
  else return {}

/-- Whether a file has a digest. -/
def hasChecksum (path expected : String) (f : Files) : Except Error Bool := do
  return (← checksum path f) == expected

end Runner

end SchemaMigration

/-!
# Integrity

What may be wrong with a recorded migration: its file is gone, or the file was changed afterwards.
-/

namespace SchemaMigration

/-- Something that is wrong with a recorded migration. -/
inductive IntegrityIssue where
  /-- Its file is gone or cannot be read. -/
  | missingFile (migration : String)
  /-- Its file has another digest than the recorded one. -/
  | checksumMismatch (migration expected actual : String)
deriving DecidableEq

namespace IntegrityIssue

/-- The migration that an issue is about. -/
def migration : IntegrityIssue → String
  | missingFile migration => migration
  | checksumMismatch migration _ _ => migration

/-- The name of the kind of an issue. -/
def kind : IntegrityIssue → String
  | missingFile _ => "MissingFile"
  | checksumMismatch _ _ _ => "ChecksumMismatch"

/-- The wording of an issue. -/
def message : IntegrityIssue → String
  | missingFile migration => s!"Migration file not found for applied migration: {migration}"
  | checksumMismatch migration expected actual =>
    s!"Migration '{migration}' has been modified after being applied (stored checksum {expected}, "
      ++ s!"current {actual})"

end IntegrityIssue

end SchemaMigration

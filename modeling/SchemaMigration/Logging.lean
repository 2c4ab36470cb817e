/-!
# Logging

Settings for the log of a program that runs migrations, with presets for the usual cases.
-/

namespace SchemaMigration

/-- The form of the entries of a log. -/
inductive LogFormat where
  /-- One line each. -/
  | compact
  /-- Several lines each. -/
  | pretty
  /-- One JSON text each. -/
  | json
deriving DecidableEq

/-- The settings of a log. -/
structure Logging where
  /-- The least level that is shown. -/
  level : String := "info"
  /-- A filter that counts instead of the level. -/
  filter : Option String := none
  /-- The form of the entries. -/
  format : LogFormat := .compact
  /-- Whether entries say where they come from. -/
  location : Bool := false
deriving DecidableEq

/-- The name of a form. -/
def LogFormat.name : LogFormat → String
  | compact => "Compact"
  | pretty => "Pretty"
  | json => "Json"

namespace Logging

/-- The settings during development. -/
def development : Logging :=
  { level := "debug", filter := some "arcanox=debug", format := .pretty, location := true }

/-- The settings in production. -/
def production : Logging :=
  { filter := some "arcanox=info", format := .json }

/-- What decides which entries are shown: the filter, or else the level. -/
def directive (l : Logging) : String :=
  l.filter.getD l.level

end Logging

end SchemaMigration

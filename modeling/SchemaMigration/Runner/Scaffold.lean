import SchemaMigration.Runner.Basic

/-!
# New files

A new migration gets a name that starts with the time, and a section file without statements, or, if
it is to stand for all tables that are there, a source text that creates them without columns.
-/

namespace SchemaMigration

namespace Scaffold

/-- The text of a new section file. -/
def sections (title name : String) (created : Instant) : String :=
  "-- Migration: " ++ title ++ "\n-- Name: " ++ name ++ "\n-- Created: " ++ created.dateText ++ " " ++
    created.timeText ++ " UTC\n\n-- Up migration\n\n\n-- Down migration\n\n"

/-- A word with its first letter in upper case. -/
def capitalized : List Char → List Char
  | [] => []
  | c :: rest => c.toUpper :: rest

/-- The name of a type made of words in snake case. It starts with a letter. -/
def typeName (words : String) : String :=
  let name := ((Text.splitAt '_' words.toList).map capitalized).flatten
  match name.head? with
  | some c => if c.isAlpha then String.ofList name else "Migration" ++ String.ofList name
  | none => "Migration"

/-- The lines that create a table. -/
def createLines (table : String) : String :=
  "        schema\n            .create(\"" ++ table ++ "\", |table| \x7b\n"
    ++ "                // Columns are not reconstructed; fill them in.\n"
    ++ "                let _ = table;\n            \x7d)\n            .await?;\n"

/-- The line that drops a table. -/
def dropLine (table : String) : String :=
  "        schema.drop_if_exists(\"" ++ table ++ "\").await?;\n"

/-- The source text of a migration that creates tables in order, and drops them in reverse. -/
def source (words : String) (tables : List String) : String :=
  let type := typeName words
  "//! Squashed schema: " ++ toString tables.length ++ " table(s)\n\nuse arcanox::prelude::*;\n\n"
    ++ "#[derive(Default)]\npub struct " ++ type ++ ";\n\n#[async_trait]\nimpl Migration for "
    ++ type ++ " \x7b\n"
    ++ "    async fn up(&self, schema: &Schema) -> ArcanoxResult<()> \x7b\n"
    ++ String.join (tables.map createLines) ++ "        Ok(())\n    \x7d\n\n"
    ++ "    async fn down(&self, schema: &Schema) -> ArcanoxResult<()> \x7b\n"
    ++ String.join (tables.reverse.map dropLine) ++ "        Ok(())\n    \x7d\n\x7d\n"

/-- The name of a migration: a time and words. -/
def name (time : Instant) (words : String) : String :=
  time.stamp ++ "_" ++ words

end Scaffold

/-- A migration that stands for all tables. -/
structure Squash where
  /-- The name. -/
  name : String
  /-- The source text. -/
  contents : String
  /-- The tables, ascending. -/
  tables : List String
  /-- Where the source text was written, if it was. -/
  path : Option String
deriving DecidableEq

namespace Runner

/-- The first directory of migrations, which is made if it is not there. -/
def firstDirectory (r : Runner) : Action String := do
  match r.config.paths.head? with
  | none => Action.fail (.configuration .noDirectory)
  | some directory => do
    Action.makeDirectories directory
    return directory

/-- Writes a text to a file. -/
def writeFile (path text : String) : Action Unit :=
  Action.changeFiles path (·.write path text.toUTF8.toList)

/-- Writes the section file of a new migration; returns its path. -/
def createMigration (r : Runner) (title : String) : Action String := do
  let words := snakeCase title
  if words.isEmpty then Action.fail (.validation (.unusableName title))
  else
    let directory ← r.firstDirectory
    let name := Scaffold.name (← Action.now) words
    let path := Path.join directory (name ++ ".sql")
    writeFile path (Scaffold.sections title name (← Action.now))
    return path

/-- The migration that stands for all tables but the tracking table. If it is to be written it goes
to the first directory of migrations. -/
def squash (r : Runner) (title : Option String) (write : Bool) : Action Squash := do
  let tables := (← get).store.listTables.filter (· != r.config.table)
  let words := snakeCase (title.getD "squashed_schema")
  let name := Scaffold.name (← Action.now) words
  let contents := Scaffold.source words tables
  if write then
    let directory ← r.firstDirectory
    let path := Path.join directory (name ++ ".rs")
    writeFile path contents
    return { name, contents, tables, path := some path }
  else return { name, contents, tables, path := none }

end Runner

end SchemaMigration

import SchemaMigration.Proofs.Files.Write
import SchemaMigration.Proofs.Migration.NewFile
import SchemaMigration.Proofs.Runner.NewNames
import SchemaMigration.Proofs.Sql.Split
import SchemaMigration.Runner.Discovery

/-!
# What a new section file changes

A call that makes a section file changes no other file. The file is one more unless one with its
name was there, which is the case if words and stamp are those of an earlier call. It is read as a
migration that does nothing unless statements are hidden in its title.
-/

namespace SchemaMigration

namespace Files

variable {f f' : Files} {place : Place} {content : List UInt8}

/-- A file that is written is one more just if there was none at its place. -/
theorem addsOneFile_iff (hplace : f'.content? place = some content)
    (hother : ∀ other, other ≠ place → f'.content? other = f.content? other) :
    AddsOneFile f f' ↔ f.content? place = none := by
  constructor
  · rintro ⟨added, hnone, hsome, -⟩
    obtain rfl : added = place := by
      by_contra hne
      rw [hother added hne, hnone] at hsome
      cases hsome
    exact hnone
  · exact fun hnone => ⟨place, hnone, by rw [hplace]; rfl, hother⟩

end Files

namespace Runner

open SectionFile (HasStatement body statementLines)

variable {s s' : Session} {r : Runner} {title path name extension text : String} {f f' : Files}

/-- A text that is put in the first directory changes the file that it is written to only. -/
theorem Places.content? (h : Places r name extension text path f f') :
    ∃ place, f'.locate path = .ok place ∧ f'.content? place = some text.toUTF8.toList ∧
      ∀ other, other ≠ place → f'.content? other = f.content? other := by
  obtain ⟨directory, made, -, hmakes, -, hwrites⟩ := h
  have hmade := Files.OnlyMakesDirectories.makeDirectories f directory
  rw [hmakes] at hmade
  obtain ⟨place, hplace, hcontent, hother⟩ := Files.content?_of_write hwrites
  exact ⟨place, hplace, hcontent,
    fun other hne => (hother other hne).trans (hmade.content?_eq other)⟩

theorem load_eq_ok {registry : Dict Migration} {file : SectionFile}
    (hname : migrationName? path = some name) (hextension : Path.extension? path = some "sql")
    (hregistry : registry.get? name = none) (htext : f.readText path = .ok text)
    (hparse : SectionFile.parse name text = .ok file) :
    Discovery.load registry path f = .ok (Migration.ofSections file) := by
  simp only [Discovery.load, hname, hregistry, hextension, if_true, htext, hparse]
  rfl

/-- A call that makes a section file changes no other file, and the file is one more just if there
was none at its place, which depends on the directory, the stamp and the words only. Unless its name
is registered, it is loaded as the migration whose statements are on the lines of the title behind
the first one. They are empty, and nothing is run in either direction, just if no line of statements
is among these behind one that starts a section. -/
theorem new_file_is_inert_iff (h : (r.createMigration title).exec s = (.ok path, s')) :
    let name := Scaffold.name s.clock (snakeCase title)
    ∃ directory place file,
      r.config.paths.head? = some directory ∧ path = Path.join directory (name ++ ".sql") ∧
      migrationName? path = some name ∧ s'.files.locate path = .ok place ∧
      (∀ other, other ≠ place → s'.files.content? other = s.files.content? other) ∧
      (s.files.AddsOneFile s'.files ↔ s.files.content? place = none) ∧
      (∃ text, s'.files.readText path = .ok text ∧ SectionFile.parse name text = .ok file) ∧
      (∀ registry, registry.get? name = none →
        Discovery.load registry path s'.files = .ok (Migration.ofSections file)) ∧
      (∀ direction, file.text direction =
        body direction (statementLines none (Scaffold.laterLines title))) ∧
      (file.up = "" ∧ file.down = "" ↔ ¬HasStatement (Scaffold.laterLines title)) ∧
      (file.up = "" ∧ file.down = "" →
        ∀ direction, (Migration.ofSections file).body direction = .pure ()) := by
  intro name
  obtain ⟨-, files, hplaces, rfl⟩ := exec_createMigration_eq_ok.1 h
  obtain ⟨hname, hextension⟩ := hplaces.migrationName? (by decide) (by decide)
  obtain ⟨place, hplace, hcontent, hother⟩ := hplaces.content?
  obtain ⟨directory, -, hfirst, -, hpath, -⟩ := hplaces
  have hfeed : '\n' ∉ name.toList := fun hfeed =>
    absurd (Scaffold.isPlain_of_mem_name hfeed) (by decide)
  have hread := Files.readText_of_content? hplace hcontent
  have hparse := Scaffold.parse_sections title hfeed s.clock.next
  have hstatements : ∀ line ∈ statementLines none (Scaffold.laterLines title),
      SectionFile.isStatementLine line.2 = true := fun line hline =>
    (SectionFile.mem_statementLines hline).2
  refine ⟨directory, place, _, hfirst, ?_, hname, hplace, hother,
    Files.addsOneFile_iff hcontent hother, ⟨_, hread, hparse⟩, fun registry hregistry => ?_, ?_, ?_,
    ?_⟩
  · rw [hpath, String.append_assoc]
    rfl
  · exact load_eq_ok hname hextension hregistry hread hparse
  · rintro (_ | _) <;> rfl
  · rw [SectionFile.bodies_eq_empty hstatements, ← SectionFile.statementLines_ne_nil, not_not]
  · rintro ⟨hup, hdown⟩ direction
    rw [Migration.body_ofSections]
    cases direction with
    | up => exact congrArg Migration.runText hup
    | down => exact congrArg Migration.runText hdown

/-- The file of a title of three lines, of which the second one starts a section and the third one is
a statement, is written over a file that is there, and the statement is one that applies it. -/
theorem statement_in_title_is_read :
    let r : Runner := { config := { paths := ["m"] } }
    let path := "m/20240101000000_x_up_drop_table_users.sql"
    let s : Session := {
      clock := ⟨1704067200, 0⟩
      files := { nodes := [(["m"], .directory),
        (["m", "20240101000000_x_up_drop_table_users.sql"], .file "kept".toUTF8.toList)] } }
    ∃ s' file, (r.createMigration "x\n-- up\nDROP TABLE users").exec s = (.ok path, s') ∧
      ¬s.files.AddsOneFile s'.files ∧
      Discovery.load ∅ path s'.files = .ok (Migration.ofSections file) ∧
      file.up = "DROP TABLE users" ∧ file.down = "" := by
  -- The call is carried out before the runner and the session get names.
  have hcreate : ∃ s', (Runner.createMigration { config := { paths := ["m"] } }
      "x\n-- up\nDROP TABLE users").exec
        { clock := ⟨1704067200, 0⟩
          files := { nodes := [(["m"], .directory),
            (["m", "20240101000000_x_up_drop_table_users.sql"], .file "kept".toUTF8.toList)] } } =
      (.ok "m/20240101000000_x_up_drop_table_users.sql", s') ∧
      s'.files.locate "m/20240101000000_x_up_drop_table_users.sql" =
        .ok ["m", "20240101000000_x_up_drop_table_users.sql"] := ⟨_, rfl, rfl⟩
  have hlines : statementLines none (Scaffold.laterLines "x\n-- up\nDROP TABLE users") =
      [(.up, "DROP TABLE users".toList)] := by
    decide +kernel
  obtain ⟨s', hcreate, hplace⟩ := hcreate
  obtain ⟨_, place, file, -, -, -, hlocate, -, hadds, -, hload, htext, -⟩ :=
    new_file_is_inert_iff hcreate
  rw [hlines] at htext
  obtain rfl := Except.ok.inj (hplace.symm.trans hlocate)
  intro r path s
  refine ⟨s', file, hcreate, fun hone => ?_, hload ∅ rfl, htext .up, htext .down⟩
  cases hadds.1 hone

end Runner

end SchemaMigration

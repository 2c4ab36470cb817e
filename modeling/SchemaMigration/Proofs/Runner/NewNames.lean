import SchemaMigration.Proofs.Action.Exec
import SchemaMigration.Proofs.Calendar.Stamp
import SchemaMigration.Proofs.Files.Path
import SchemaMigration.Proofs.Migration.Name
import SchemaMigration.Proofs.Text.Words
import SchemaMigration.Runner.Scaffold

/-!
# Names of new migrations

The name of a new migration is the stamp of the clock and words in snake case, and it is read back
off the path of its file. It follows the convention just if the year has four digits and there are
words at all. A new section file is refused if its title has no words; a migration that stands for
all tables is not.
-/

namespace SchemaMigration

open Text
open SchemaMigration.Path (IsName)

variable {s s' : Session} {r : Runner} {title path : String} {write : Bool}

theorem isNameChar_of_inSnakeCase {text : List Char} (h : InSnakeCase text) :
    ∀ c ∈ text, isNameChar c = true := by
  obtain ⟨words, -, hwords, rfl⟩ := h
  intro c hc
  change (isWordChar c || c == '_') = true
  rcases mem_joinChars hc with hc | ⟨word, hword, hc⟩
  · rw [List.mem_singleton.1 hc]
    rfl
  · rw [(hwords word hword).plain c hc, Bool.true_or]

theorem isNameChar_of_mem_snakeCase {c : Char} (text : String) (hc : c ∈ (snakeCase text).toList) :
    isNameChar c = true := by
  rcases snakeCase_cases text with hempty | hwords
  · rw [hempty] at hc
    cases hc
  · exact isNameChar_of_inSnakeCase hwords c hc

theorem isDecimalDigit_of_isDigit {c : Char} (h : c.isDigit = true) : isDecimalDigit c = true := by
  have hrange : 48 ≤ c.toNat ∧ c.toNat ≤ 57 := by
    simpa [Char.isDigit, UInt32.le_iff_toNat_le, ← Char.toNat_val] using h
  refine List.any_eq_true.2 ⟨0x30, List.mem_cons_self, ?_⟩
  simp only [Bool.and_eq_true, decide_eq_true_eq]
  omega

/-- A stamp of fourteen digits follows the convention with any words behind it. -/
theorem followsConvention_append {stamp words : String} (hstamp : IsDigits 14 stamp)
    (hwords : ∀ c ∈ words.toList, isNameChar c = true) :
    followsConvention (stamp ++ "_" ++ words) = true ↔ words ≠ "" := by
  have hchars : (stamp ++ "_" ++ words).toList = stamp.toList ++ '_' :: words.toList := by simp
  have htake : (stamp ++ "_" ++ words).toList.take 14 = stamp.toList := by
    rw [hchars, List.take_left' hstamp.length_eq]
  have hdrop : (stamp ++ "_" ++ words).toList.drop 15 = words.toList := by
    rw [hchars, ← List.singleton_append, ← List.append_assoc,
      List.drop_left' (by simp [hstamp.length_eq])]
  have hunderscore : (stamp ++ "_" ++ words).toList[14]? = some '_' := by
    rw [hchars, List.getElem?_append_right (by simp [hstamp.length_eq]), hstamp.length_eq]
    rfl
  have hdigits : stamp.toList.all isDecimalDigit = true :=
    List.all_eq_true.2 fun c hc => isDecimalDigit_of_isDigit (hstamp.digits c hc)
  simp only [followsConvention, htake, hdrop, hunderscore, hdigits, hstamp.length_eq,
    List.all_eq_true.2 hwords]
  simp

namespace Scaffold

/-- The name of a new migration follows the convention just if its year has four digits and there
are words in it. -/
theorem followsConvention_name_iff (time : Instant) (text : String) :
    followsConvention (name time (snakeCase text)) = true ↔
      time.HasPlainYear ∧ snakeCase text ≠ "" := by
  by_cases hyear : time.HasPlainYear
  · rw [name, followsConvention_append (Instant.isDigits_stamp hyear)
      fun c => isNameChar_of_mem_snakeCase text]
    simp [hyear]
  · obtain ⟨sign, hhead, hsign⟩ := Instant.head?_stamp hyear
    obtain ⟨rest, hstamp⟩ := List.head?_eq_some_iff.1 hhead
    have hdigit : isDecimalDigit sign = false := by
      rcases hsign with rfl | rfl <;> rfl
    simp [followsConvention, name, hstamp, hdigit, hyear]

theorem isPlain_of_mem_name {time : Instant} {text : String} {c : Char}
    (h : c ∈ (name time (snakeCase text)).toList) :
    c.isDigit = true ∨ isNameChar c = true ∨ c = '-' ∨ c = '+' := by
  simp only [name, String.toList_append, List.mem_append] at h
  obtain (hstamp | hunderscore) | hwords := h
  · rcases Instant.isDigit_or_of_mem_stamp hstamp with hdigit | hsign
    · exact .inl hdigit
    · exact .inr (.inr hsign)
  · obtain rfl := List.mem_singleton.1 hunderscore
    exact .inr (.inl rfl)
  · exact .inr (.inl (isNameChar_of_mem_snakeCase text hwords))

theorem isName_file (time : Instant) (text : String) {extension : String}
    (hextension : '/' ∉ extension.toList) :
    IsName (name time (snakeCase text) ++ "." ++ extension) := by
  have hunderscore : '_' ∈ (name time (snakeCase text) ++ "." ++ extension).toList := by
    simp [name]
  have hne {other : String} (h : '_' ∉ other.toList) :
      name time (snakeCase text) ++ "." ++ extension ≠ other := by
    rintro rfl
    exact h hunderscore
  refine ⟨⟨hne (by simp), fun hslash => ?_⟩, hne (by decide), hne (by decide)⟩
  rw [String.toList_append, String.toList_append, List.mem_append, List.mem_append] at hslash
  obtain (hslash | hslash) | hslash := hslash
  · exact absurd (isPlain_of_mem_name hslash) (by decide)
  · exact absurd hslash (by decide)
  · exact hextension hslash

/-- The name of a new migration is read back off the path of its file. -/
theorem migrationName?_join (directory : String) (time : Instant) (text : String)
    {extension : String} (hslash : '/' ∉ extension.toList) (hpoint : '.' ∉ extension.toList) :
    migrationName? (Path.join directory (name time (snakeCase text) ++ "." ++ extension)) =
        some (name time (snakeCase text)) ∧
      Path.extension? (Path.join directory (name time (snakeCase text) ++ "." ++ extension)) =
        some extension := by
  refine Path.stem?_extension?_join_append directory (isName_file time text hslash) (fun h => ?_)
    hpoint
  have hnil := congrArg String.toList h
  simp [name] at hnil

end Scaffold

namespace Runner

/-- A text was written to a file in the first directory of migrations, which was made if it was not
there. -/
inductive Places (r : Runner) (name extension text path : String) (f f' : Files) : Prop where
  /-- The directory is there or was made, and the file was written. -/
  | intro (directory : String) (made : Files) (first : r.config.paths.head? = some directory)
      (makes : f.makeDirectories directory = (made, none))
      (path_eq : path = Path.join directory (name ++ "." ++ extension))
      (writes : made.write path text.toUTF8.toList = .ok f')

theorem exec_firstDirectory_eq_ok {directory : String} :
    r.firstDirectory.exec s = (.ok directory, s') ↔ r.config.paths.head? = some directory ∧
      ∃ made, s.files.makeDirectories directory = (made, none) ∧ s' = { s with files := made } := by
  unfold firstDirectory
  cases r.config.paths.head? with
  | none => simp
  | some first =>
    rcases hmade : s.files.makeDirectories first with ⟨made, _ | problem⟩
    · simp only [Action.exec_bind, Action.exec_makeDirectories, hmade, Action.exec_pure]
      constructor
      · rintro h
        cases h
        exact ⟨rfl, made, hmade, rfl⟩
      · rintro ⟨hfirst, made', hmade', rfl⟩
        cases hfirst
        rw [hmade] at hmade'
        cases hmade'
        rfl
    · simp only [Action.exec_bind, Action.exec_makeDirectories, hmade]
      constructor
      · rintro h
        cases h
      · rintro ⟨hfirst, made', hmade', -⟩
        cases hfirst
        rw [hmade] at hmade'
        cases hmade'

theorem exec_writeFile_eq_ok {text : String} {x : Unit} :
    (writeFile path text).exec s = (.ok x, s') ↔
      ∃ files, s.files.write path text.toUTF8.toList = .ok files ∧ s' = { s with files } := by
  rw [writeFile, Action.exec_changeFiles]
  cases s.files.write path text.toUTF8.toList with
  | error problem => simp
  | ok files => simp [eq_comm]

/-- A section file is made just if its title has words, a directory can be had and the file can be
written. -/
theorem exec_createMigration_eq_ok : (r.createMigration title).exec s = (.ok path, s') ↔
    snakeCase title ≠ "" ∧ ∃ files,
      Places r (Scaffold.name s.clock (snakeCase title)) "sql"
        (Scaffold.sections title (Scaffold.name s.clock (snakeCase title)) s.clock.next)
        path s.files files ∧
      s' = { s with files, clock := s.clock.next.next } := by
  unfold createMigration
  by_cases hwords : snakeCase title = ""
  · simp [hwords]
  have hnonempty : (snakeCase title).isEmpty = false := String.isEmpty_eq_false_iff.2 hwords
  have hfile (name : String) : name ++ ".sql" = name ++ "." ++ "sql" := by
    rw [String.append_assoc]
    rfl
  simp only [hnonempty, Bool.false_eq_true, if_false, Action.exec_bind_eq_ok,
    exec_firstDirectory_eq_ok, Action.exec_now, exec_writeFile_eq_ok, Action.exec_pure,
    Prod.mk.injEq, Except.ok.injEq, hfile]
  constructor
  · rintro ⟨directory, _, ⟨hfirst, made, hmade, rfl⟩, _, _, ⟨rfl, rfl⟩, _, _, ⟨rfl, rfl⟩, _, _,
      ⟨files, hwrites, rfl⟩, rfl, rfl⟩
    dsimp only at hwrites
    refine ⟨hwords, files, ⟨directory, made, hfirst, hmade, rfl, hwrites⟩, ?_⟩
    dsimp only
  · rintro ⟨-, files, ⟨directory, made, hfirst, hmade, rfl, hwrites⟩, rfl⟩
    refine ⟨directory, _, ⟨hfirst, made, hmade, rfl⟩, _, _, ⟨rfl, rfl⟩, _, _, ⟨rfl, rfl⟩, (), _,
      ⟨files, ?_, rfl⟩, rfl, ?_⟩ <;> dsimp only
    exact hwrites

/-- A section file whose title has no words is refused. -/
theorem exec_createMigration_of_no_words (h : snakeCase title = "") (s : Session) :
    (r.createMigration title).exec s =
      (.error (.failed (.validation (.unusableName title))), s) := by
  simp [createMigration, h]

/-- What stands for all tables but the tracking table. -/
theorem squash_eq_ok {title : Option String} {q : Squash}
    (h : (r.squash title write).exec s = (.ok q, s')) :
    q.tables = s.store.listTables.filter (· != r.config.table) ∧
      q.name = Scaffold.name s.clock (snakeCase (title.getD "squashed_schema")) ∧
      q.contents = Scaffold.source (snakeCase (title.getD "squashed_schema")) q.tables ∧
      ∀ path ∈ q.path, Places r q.name "rs" q.contents path s.files s'.files := by
  have hfile (name : String) : name ++ ".rs" = name ++ "." ++ "rs" := by
    rw [String.append_assoc]
    rfl
  cases write with
  | false =>
    simp only [squash, Action.exec_bind, Action.exec_get, Action.exec_now, Bool.false_eq_true,
      if_false, Action.exec_pure, Prod.mk.injEq, Except.ok.injEq] at h
    obtain ⟨rfl, rfl⟩ := h
    exact ⟨rfl, rfl, rfl, nofun⟩
  | true =>
    simp only [squash, if_true, Action.exec_bind_eq_ok, Action.exec_get, Action.exec_now,
      exec_firstDirectory_eq_ok, exec_writeFile_eq_ok, Action.exec_pure, Prod.mk.injEq,
      Except.ok.injEq, hfile] at h
    obtain ⟨_, _, ⟨rfl, rfl⟩, _, _, ⟨rfl, rfl⟩, directory, _, ⟨hfirst, made, hmade, rfl⟩, _, _,
      ⟨files, hwrites, rfl⟩, rfl, rfl⟩ := h
    refine ⟨rfl, rfl, rfl, fun path hpath => ?_⟩
    obtain rfl := Option.some.inj hpath
    exact ⟨directory, made, hfirst, hmade, rfl, hwrites⟩

theorem Places.migrationName? {time : Instant} {words extension text : String} {f f' : Files}
    (h : Places r (Scaffold.name time (snakeCase words)) extension text path f f')
    (hslash : '/' ∉ extension.toList) (hpoint : '.' ∉ extension.toList) :
    migrationName? path = some (Scaffold.name time (snakeCase words)) ∧
      Path.extension? path = some extension := by
  obtain ⟨directory, made, -, -, rfl, -⟩ := h
  exact Scaffold.migrationName?_join directory time words hslash hpoint

/-- The name of a new migration is read back off the path that is returned. It follows the convention
just if the year has four digits and, which is asked of section files only, the title has an ASCII
letter or a digit. -/
theorem new_names_follow_iff (r : Runner) (s : Session) :
    (∀ title path s', (r.createMigration title).exec s = (.ok path, s') →
      migrationName? path = some (Scaffold.name s.clock (snakeCase title)) ∧
        (followsConvention (Scaffold.name s.clock (snakeCase title)) = true ↔
          s.clock.HasPlainYear)) ∧
    (∀ title write q s', (r.squash title write).exec s = (.ok q, s') →
      (∀ path ∈ q.path, migrationName? path = some q.name) ∧
        (followsConvention q.name = true ↔ s.clock.HasPlainYear ∧
          ∃ c ∈ (title.getD "squashed_schema").toList, c.isAlphanum = true)) ∧
    ∀ title, (∀ c ∈ title.toList, c.isAlphanum = false) →
      (r.createMigration title).exec s =
        (.error (.failed (.validation (.unusableName title))), s) := by
  refine ⟨fun title path s' h => ?_, fun title write q s' h => ?_, fun title h => ?_⟩
  · obtain ⟨hwords, files, hplaces, -⟩ := exec_createMigration_eq_ok.1 h
    rw [Scaffold.followsConvention_name_iff, and_iff_left hwords]
    exact ⟨(hplaces.migrationName? (by decide) (by decide)).1, Iff.rfl⟩
  · obtain ⟨-, hname, -, hpath⟩ := squash_eq_ok h
    have hletters (text : String) :
        snakeCase text ≠ "" ↔ ∃ c ∈ text.toList, c.isAlphanum = true := by
      rw [Ne, snakeCase_eq_empty_iff]
      simp
    rw [← hletters, hname, Scaffold.followsConvention_name_iff]
    refine ⟨fun path hmem => ?_, Iff.rfl⟩
    have hplaces := hpath path hmem
    rw [hname] at hplaces
    exact (hplaces.migrationName? (by decide) (by decide)).1
  · exact exec_createMigration_of_no_words ((snakeCase_eq_empty_iff title).2 h) s

/-- A title of marks only is refused for a section file, but not for a migration that stands for all
tables, whose name then ends with the underscore behind the stamp. -/
theorem name_without_words_is_written :
    let r : Runner := { config := { paths := ["m"] } }
    let s : Session := { clock := ⟨1704067200, 0⟩ }
    (∃ s', (r.createMigration "Add Users").exec s = (.ok "m/20240101000000_add_users.sql", s') ∧
      migrationName? "m/20240101000000_add_users.sql" = some "20240101000000_add_users" ∧
      followsConvention "20240101000000_add_users" = true) ∧
    (∃ q s', (r.squash (some "!!!") true).exec s = (.ok q, s') ∧
      q.path = some "m/20240101000000_.rs" ∧ q.name = "20240101000000_" ∧
      migrationName? "m/20240101000000_.rs" = some q.name ∧ followsConvention q.name = false) ∧
    (∀ c ∈ "!!!".toList, c.isAlphanum = false) ∧
      (r.createMigration "!!!").exec s =
        (.error (.failed (.validation (.unusableName "!!!"))), s) := by
  -- The calls are carried out before the runner and the session get names.
  have hcreate : ∃ s', (Runner.createMigration { config := { paths := ["m"] } } "Add Users").exec
      { clock := ⟨1704067200, 0⟩ } = (.ok "m/20240101000000_add_users.sql", s') := ⟨_, rfl⟩
  have hsquash : ∃ s', (Runner.squash { config := { paths := ["m"] } } (some "!!!") true).exec
      { clock := ⟨1704067200, 0⟩ } =
        (.ok ⟨"20240101000000_", Scaffold.source "" [], [], some "m/20240101000000_.rs"⟩, s') :=
    ⟨_, rfl⟩
  have hname : Scaffold.name ⟨1704067200, 0⟩ (snakeCase "Add Users") =
      "20240101000000_add_users" := by
    decide +kernel
  have hyear : Instant.HasPlainYear ⟨1704067200, 0⟩ := by decide
  have hmarks : ∀ c ∈ "!!!".toList, c.isAlphanum = false := by simp [Char.isAlphanum]
  intro r s
  obtain ⟨hcreated, hsquashed, hrefused⟩ := new_names_follow_iff r s
  obtain ⟨created, hcreate⟩ := hcreate
  obtain ⟨hread, hfollows⟩ := hcreated _ _ _ hcreate
  rw [hname] at hread hfollows
  obtain ⟨squashed, hsquash⟩ := hsquash
  obtain ⟨hpath, hwords⟩ := hsquashed _ _ _ _ hsquash
  have hnot : followsConvention "20240101000000_" = false := by
    rw [← Bool.not_eq_true, hwords]
    rintro ⟨-, c, hc, hletter⟩
    cases (hmarks c hc).symm.trans hletter
  exact ⟨⟨created, hcreate, hread, hfollows.2 hyear⟩,
    ⟨_, squashed, hsquash, rfl, rfl, hpath _ rfl, hnot⟩, hmarks, hrefused "!!!" hmarks⟩

end Runner

end SchemaMigration

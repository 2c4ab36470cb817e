import Mathlib
import SchemaMigration.Proofs.Dict
import SchemaMigration.Proofs.Files.Tree
import SchemaMigration.Proofs.Text.Bytes
import SchemaMigration.Runner.Discovery

/-!
# Which file a migration is found in

A directory offers a file as that of a migration if the name of the file is that of the migration
with a point and a known extension. Of the directories the first one counts that offers any file, and
of the files that it offers the one with the least path, whatever the order in which a directory is
read.
-/

namespace SchemaMigration.Discovery

variable {f f' : Files} {extensions : List String} {directory name path : String}

/-- A directory offers the path of a file right inside it for the name that stands in front of a
known extension. -/
inductive Offers (f : Files) (extensions : List String) (directory : String) :
    String → String → Prop where
  /-- A file with a known extension. -/
  | file {entries : List (String × Node)} {content : List UInt8} {name extension : String}
      (listed : f.list directory = .ok entries)
      (regular : (name ++ "." ++ extension, .file content) ∈ entries)
      (nonempty : name ≠ "") (undivided : '.' ∉ extension.toList)
      (known : extension ∈ extensions) :
      Offers f extensions directory name (Path.join directory (name ++ "." ++ extension))

/-- The bytewise least path that a directory offers for a name. -/
structure OffersFirst (f : Files) (extensions : List String) (directory name path : String) :
    Prop where
  /-- The directory offers it. -/
  offers : Offers f extensions directory name path
  /-- Every other path comes later. -/
  least : ∀ other, Offers f extensions directory name other →
    Text.bytes path ≤ Text.bytes other

/-- The path that counts for a name: the least one in the first of some directories that offers any.
-/
def Counts (f : Files) (extensions directories : List String) (name path : String) : Prop :=
  ∃ before directory after, directories = before ++ directory :: after ∧
    (∀ earlier ∈ before, ∀ other, ¬Offers f extensions earlier name other) ∧
    OffersFirst f extensions directory name path

theorem ne_empty_of_list {entries : List (String × Node)} (h : f.list directory = .ok entries) :
    directory ≠ "" := by
  rintro rfl
  obtain ⟨place, hplace, -⟩ := Files.list_eq_ok.1 h
  cases hplace

namespace Offers

theorem exists? (h : Offers f extensions directory name path) : f.exists? directory = true := by
  obtain ⟨listed, -, -, -, -⟩ := h
  obtain ⟨place, hplace, hnode, -⟩ := Files.list_eq_ok.1 listed
  simp [Files.exists?, Files.find_eq_ok.2 ⟨place, hplace, hnode⟩]

theorem named_iff {entries : List (String × Node)} (hproper : f.Proper)
    (hlist : f.list directory = .ok entries) {file : String} {node : Node}
    (hfile : (file, node) ∈ entries) {stem extension : String} :
    Path.stem? (Path.join directory file) = some stem ∧
        Path.extension? (Path.join directory file) = some extension ↔
      file = stem ++ "." ++ extension ∧ stem ≠ "" ∧ '.' ∉ extension.toList :=
  Path.stem?_extension?_join (ne_empty_of_list hlist) (hproper.isName_of_mem_list hlist hfile)

/-- What is offered for a name has that name. -/
theorem migrationName? (hproper : f.Proper) (h : Offers f extensions directory name path) :
    migrationName? path = some name := by
  obtain ⟨listed, regular, nonempty, undivided, -⟩ := h
  exact ((named_iff hproper listed regular).2 ⟨rfl, nonempty, undivided⟩).1

end Offers

/-- The paths that a directory offers, in ascending order. -/
structure Finds (f : Files) (extensions : List String) (directory : String) (paths : List String) :
    Prop where
  /-- The paths ascend. -/
  ascending : paths.Pairwise (· ≤ ·)
  /-- They are those that the directory offers for their names. -/
  offers : ∀ {name path}, path ∈ paths ∧ SchemaMigration.migrationName? path = some name ↔
    Offers f extensions directory name path

/-- The names of the files among what lies in a directory, in ascending order. -/
def fileNames (entries : List (String × Node)) : List String :=
  ((entries.filter fun entry => entry.2 != .directory).map (·.1)).mergeSort fun a b => a ≤ b

theorem mem_fileNames {entries : List (String × Node)} {file : String} :
    file ∈ fileNames entries ↔ ∃ content, (file, .file content) ∈ entries := by
  simp only [fileNames, List.mem_mergeSort, List.mem_map, List.mem_filter, Prod.exists,
    exists_and_right, exists_eq_right, bne_iff_ne]
  constructor
  · rintro ⟨node, hnode, hfile⟩
    cases node with
    | file content => exact ⟨content, hnode⟩
    | directory => exact absurd rfl hfile
  · rintro ⟨content, hnode⟩
    exact ⟨_, hnode, nofun⟩

theorem pairwise_fileNames (entries : List (String × Node)) :
    (fileNames entries).Pairwise (· ≤ ·) := by
  have htrans (a b c : String) (hab : decide (a ≤ b) = true) (hbc : decide (b ≤ c) = true) :
      decide (a ≤ c) = true :=
    decide_eq_true (String.le_trans (of_decide_eq_true hab) (of_decide_eq_true hbc))
  have htotal (a b : String) : (decide (a ≤ b) || decide (b ≤ a)) = true := by
    simpa using String.le_total a b
  exact (List.pairwise_mergeSort htrans htotal _).imp of_decide_eq_true

theorem filesIn_of_missing (h : f.exists? directory = false) :
    filesIn f extensions directory = .ok [] := by
  simp [filesIn, h]

theorem filesIn_of_list {entries : List (String × Node)} (hlist : f.list directory = .ok entries)
    (hexists : f.exists? directory = true) :
    filesIn f extensions directory = .ok
      (((fileNames entries).map (Path.join directory)).filter (hasExtension extensions)) := by
  simp [filesIn, fileNames, hlist, hexists]

/-- What is found in a directory that is there is what it offers. -/
theorem finds_of_list (hproper : f.Proper) {entries : List (String × Node)}
    (hlist : f.list directory = .ok entries) :
    Finds f extensions directory
      (((fileNames entries).map (Path.join directory)).filter (hasExtension extensions)) := by
  have hname {file : String} (hfile : file ∈ fileNames entries) : Path.IsName file :=
    hproper.isName_of_mem_list hlist (mem_fileNames.1 hfile).choose_spec
  constructor
  · refine List.Pairwise.filter _ (List.pairwise_map.2 ?_)
    exact (pairwise_fileNames entries).imp_of_mem fun ha hb hle =>
      (Path.join_le_join (ne_empty_of_list hlist) (hname ha) (hname hb)).2 hle
  · intro name path
    rw [List.mem_filter, List.mem_map]
    constructor
    · rintro ⟨⟨⟨file, hfile, rfl⟩, hextension⟩, hname⟩
      obtain ⟨content, hfile⟩ := mem_fileNames.1 hfile
      unfold hasExtension at hextension
      cases hfound : Path.extension? (Path.join directory file) with
      | none => simp [hfound] at hextension
      | some extension =>
        obtain ⟨rfl, hnonempty, hundivided⟩ :=
          (Offers.named_iff hproper hlist hfile).1 ⟨hname, hfound⟩
        exact .file hlist hfile hnonempty hundivided (by simpa [hfound] using hextension)
    · rintro ⟨listed, regular, nonempty, undivided, known⟩
      obtain rfl := Except.ok.inj (hlist.symm.trans listed)
      obtain ⟨hstem, hextension⟩ :=
        (Offers.named_iff hproper hlist regular).2 ⟨rfl, nonempty, undivided⟩
      exact ⟨⟨⟨_, mem_fileNames.2 ⟨_, regular⟩, rfl⟩,
        by simpa [hasExtension, hextension] using known⟩, hstem⟩

/-- What is found in a directory is what it offers, and nothing if it is not there. -/
theorem exists_finds (extensions : List String) (hproper : f.Proper)
    (hreadable : f.exists? directory = true → f.find directory = .ok .directory) :
    ∃ paths, filesIn f extensions directory = .ok paths ∧ Finds f extensions directory paths := by
  cases hexists : f.exists? directory with
  | false =>
    refine ⟨[], filesIn_of_missing hexists, List.Pairwise.nil, fun {name path} => ?_⟩
    refine ⟨fun h => absurd h.1 List.not_mem_nil, fun h => ?_⟩
    exact absurd h.exists? (Bool.eq_false_iff.1 hexists)
  | true =>
    obtain ⟨entries, hlist⟩ := Files.exists_list (hreadable hexists)
    exact ⟨_, filesIn_of_list hlist hexists, finds_of_list hproper hlist⟩

namespace Finds

variable {paths : List String}

/-- Of the paths that are found for a name the first one is the one that is offered first. -/
theorem find?_eq_some (h : Finds f extensions directory paths) :
    (paths.find? fun path => SchemaMigration.migrationName? path == some name) = some path ↔
      OffersFirst f extensions directory name path := by
  have hfirst {path : String}
      (hfind : (paths.find? fun path => SchemaMigration.migrationName? path == some name) =
        some path) : OffersFirst f extensions directory name path := by
    obtain ⟨hname, before, after, rfl, hbefore⟩ := List.find?_eq_some_iff_append.1 hfind
    refine ⟨h.offers.1 ⟨by simp, by simpa using hname⟩, fun other hother => ?_⟩
    obtain ⟨hother, hothername⟩ := h.offers.2 hother
    rw [Text.bytes_le_bytes]
    rcases List.mem_append.1 hother with hother | hother
    · exact absurd (hbefore other hother) (by simp [hothername])
    · rcases List.mem_cons.1 hother with rfl | hother
      · exact String.le_refl _
      · exact (List.pairwise_cons.1 (List.pairwise_append.1 h.ascending).2.1).1 other hother
  refine ⟨hfirst, fun hoffers => ?_⟩
  obtain ⟨hpath, hname⟩ := h.offers.2 hoffers.offers
  cases hfind : paths.find? fun path => SchemaMigration.migrationName? path == some name with
  | none => exact absurd hname (by simpa using List.find?_eq_none.1 hfind path hpath)
  | some found =>
    have hfound := hfirst hfind
    exact congrArg some (String.le_antisymm
      (Text.bytes_le_bytes.1 (hfound.least path hoffers.offers))
      (Text.bytes_le_bytes.1 (hoffers.least found hfound.offers)))

theorem find?_eq_none (h : Finds f extensions directory paths) :
    (paths.find? fun path => SchemaMigration.migrationName? path == some name) = none ↔
      ∀ path, ¬Offers f extensions directory name path := by
  rw [List.find?_eq_none]
  refine forall_congr' fun path => ?_
  rw [← h.offers, not_and]
  simp

end Finds

/-- A path is added under its name unless that has one. -/
theorem get?_addFiles (known : Dict String) (paths : List String) (name : String) :
    (addFiles known paths).get? name =
      (known.get? name).or (paths.find? fun path => migrationName? path == some name) := by
  unfold addFiles
  induction paths generalizing known with
  | nil => exact (Option.or_none).symm
  | cons path paths ih =>
    rw [List.foldl_cons, ih]
    cases hname : migrationName? path with
    | none => rw [List.find?_cons_of_neg (by simp [hname])]
    | some found =>
      dsimp only
      rw [Dict.get?_insertIfNew, Option.or_assoc]
      by_cases h : found = name
      · rw [if_pos h, List.find?_cons_of_pos (by simp [hname, h])]
        rfl
      · rw [if_neg h, List.find?_cons_of_neg (by simp [hname, h])]
        rfl

section Counting

variable {directories : List String}

theorem not_counts_nil : ¬Counts f extensions [] name path := by
  rintro ⟨before, directory, after, h, -⟩
  exact absurd h (by simp)

/-- What counts is offered first by the first directory, or counts for the others if that one offers
nothing. -/
theorem counts_cons : Counts f extensions (directory :: directories) name path ↔
    OffersFirst f extensions directory name path ∨
      (∀ other, ¬Offers f extensions directory name other) ∧
        Counts f extensions directories name path := by
  constructor
  · rintro ⟨before, chosen, after, h, hbefore, hchosen⟩
    cases before with
    | nil =>
      obtain ⟨rfl, rfl⟩ := List.cons.inj h
      exact .inl hchosen
    | cons first before =>
      obtain ⟨rfl, rfl⟩ := List.cons.inj h
      obtain ⟨hfirst, hbefore⟩ := List.forall_mem_cons.1 hbefore
      exact .inr ⟨hfirst, before, chosen, after, rfl, hbefore, hchosen⟩
  · rintro (h | ⟨hfirst, before, chosen, after, rfl, hbefore, hchosen⟩)
    · exact ⟨[], directory, directories, rfl, nofun, h⟩
    · exact ⟨directory :: before, chosen, after, rfl,
        List.forall_mem_cons.2 ⟨hfirst, hbefore⟩, hchosen⟩

/-- A directory that offers nothing for a name has no influence on what counts for it. -/
theorem counts_filter {keep : String → Bool}
    (h : ∀ directory ∈ directories, keep directory = false →
      ∀ other, ¬Offers f extensions directory name other) :
    Counts f extensions (directories.filter keep) name path ↔
      Counts f extensions directories name path := by
  induction directories with
  | nil => rfl
  | cons first directories ih =>
    obtain ⟨hfirst, hrest⟩ := List.forall_mem_cons.1 h
    cases hkeep : keep first with
    | true => rw [List.filter_cons_of_pos hkeep, counts_cons, counts_cons, ih hrest]
    | false =>
      have hnothing := hfirst hkeep
      rw [List.filter_cons_of_neg (by simp [hkeep]), ih hrest, counts_cons]
      exact ⟨fun h => .inr ⟨hnothing, h⟩,
        fun h => h.elim (fun h => absurd h.offers (hnothing path)) (·.2)⟩

/-- Only the first mention of a directory has an influence on what counts. -/
theorem counts_eraseDups : ∀ directories : List String,
    Counts f extensions directories.eraseDups name path ↔
      Counts f extensions directories name path
  | [] => by rw [List.eraseDups_nil]
  | first :: directories => by
    have hshorter := List.length_filter_le (fun other => !other == first) directories
    rw [List.eraseDups_cons, counts_cons, counts_cons, counts_eraseDups]
    refine or_congr_right (and_congr_right fun hfirst => counts_filter fun other _ hother => ?_)
    obtain rfl : other = first := by simpa using hother
    exact hfirst
termination_by directories => directories.length

/-- Directories that are not there and repeated ones have no influence on what counts. -/
theorem counts_mentions :
    Counts f extensions (directories.filter (f.exists? ·)).eraseDups name path ↔
      Counts f extensions directories name path := by
  rw [counts_eraseDups]
  refine counts_filter fun directory _ hmissing other hother => ?_
  exact absurd hother.exists? (Bool.eq_false_iff.1 hmissing)

variable (hproper : f.Proper)
  (hreadable : ∀ directory ∈ directories,
    f.exists? directory = true → f.find directory = .ok .directory)
include hproper hreadable

/-- A path counts for every name that a directory offers one for. -/
theorem exists_counts : (∃ path, Counts f extensions directories name path) ↔
    ∃ directory ∈ directories, ∃ path, Offers f extensions directory name path := by
  induction directories with
  | nil => exact ⟨fun ⟨_, h⟩ => absurd h not_counts_nil, nofun⟩
  | cons first directories ih =>
    obtain ⟨hfirst, hrest⟩ := List.forall_mem_cons.1 hreadable
    obtain ⟨paths, -, hfinds⟩ := exists_finds extensions hproper hfirst
    rw [List.exists_mem_cons_iff, ← ih hrest]
    simp only [counts_cons, exists_or, exists_and_left]
    cases hfind : paths.find? fun path => migrationName? path == some name with
    | none =>
      have hnothing := hfinds.find?_eq_none.1 hfind
      constructor
      · rintro (⟨path, h⟩ | h)
        · exact absurd h.offers (hnothing path)
        · exact .inr h.2
      · rintro (⟨path, h⟩ | h)
        · exact absurd h (hnothing path)
        · exact .inr ⟨hnothing, h⟩
    | some path =>
      have hoffers := hfinds.find?_eq_some.1 hfind
      exact ⟨fun _ => .inl ⟨path, hoffers.offers⟩, fun _ => .inl ⟨path, hoffers⟩⟩

/-- The paths of directories that are added to what is known are those that count. -/
theorem exists_foldlM (extensions : List String) (known : Dict String) :
    ∃ result, directories.foldlM (fun known directory => do
        return addFiles known (← filesIn f extensions directory)) known = .ok result ∧
      ∀ name path, result.get? name = some path ↔
        known.get? name = some path ∨
          known.get? name = none ∧ Counts f extensions directories name path := by
  induction directories generalizing known with
  | nil =>
    refine ⟨known, rfl, fun name path => ⟨.inl, ?_⟩⟩
    rintro (h | ⟨-, h⟩)
    · exact h
    · exact absurd h not_counts_nil
  | cons first directories ih =>
    obtain ⟨hfirst, hrest⟩ := List.forall_mem_cons.1 hreadable
    obtain ⟨paths, hpaths, hfinds⟩ := exists_finds extensions hproper hfirst
    obtain ⟨result, hresult, hget⟩ := ih hrest (addFiles known paths)
    refine ⟨result, ?_, fun name path => ?_⟩
    · rw [List.foldlM_cons, hpaths]
      exact hresult
    · rw [hget, get?_addFiles, Option.or_eq_some_iff, Option.or_eq_none_iff, hfinds.find?_eq_some,
        hfinds.find?_eq_none, counts_cons]
      tauto

end Counting

theorem Offers.perm (h : Offers f extensions directory name path) (hproper : f.Proper)
    (hperm : f.nodes.Perm f'.nodes) : Offers f' extensions directory name path := by
  obtain ⟨listed, regular, nonempty, undivided, known⟩ := h
  obtain ⟨entries, hlisted, hentries⟩ := Files.list_perm hproper hperm listed
  exact .file hlisted (hentries.subset regular) nonempty undivided known

theorem Counts.perm {directories : List String} (h : Counts f extensions directories name path)
    (hproper : f.Proper) (hperm : f.nodes.Perm f'.nodes) :
    Counts f' extensions directories name path := by
  have hback {directory other : String} (h : Offers f' extensions directory name other) :
      Offers f extensions directory name other :=
    h.perm (hproper.perm hperm) hperm.symm
  obtain ⟨before, directory, after, hdirectories, hbefore, hfirst⟩ := h
  refine ⟨before, directory, after, hdirectories, fun earlier hearlier other hother => ?_, ?_⟩
  · exact hbefore earlier hearlier other (hback hother)
  · exact ⟨hfirst.offers.perm hproper hperm, fun other hother => hfirst.least other (hback hother)⟩

/-- A migration of a known name is loaded from what is registered under that name and nothing else.
-/
theorem load_of_migrationName? (h : migrationName? path = some name) (registry : Dict Migration) :
    load registry path f =
      match registry.get? name with
      | some m => .ok m
      | none => load ∅ path f := by
  unfold load
  rw [h]
  cases hregistered : registry.get? name with
  | some m => simp only [hregistered]
  | none => simp only [hregistered, Dict.get?_empty]

/-- What is discovered are the paths that count. -/
theorem exists_discover {c : Config} (hproper : f.Proper)
    (hreadable : ∀ directory ∈ c.paths,
      f.exists? directory = true → f.find directory = .ok .directory) :
    ∃ known, discover c f = .ok known ∧
      ∀ name path, known.get? name = some path ↔ Counts f c.extensions c.paths name path := by
  obtain ⟨known, hknown, hget⟩ := exists_foldlM hproper hreadable c.extensions ∅
  exact ⟨known, hknown, fun name path => by simp [hget]⟩

/-- If every configured path that is there is a directory, discovery finds exactly the
names that files with a known extension have in the directories that are there, in ascending order.
Under each name it finds the bytewise least path of the first directory that has such a file, and
the migration in it is the one that is registered under that very name. Neither the order in which
the nodes of the tree are listed nor missing or repeated directories have an influence. -/
theorem discovers_what_counts (c : Config) (f : Files) (hproper : f.Proper)
    (hreadable : ∀ directory ∈ c.paths,
      f.exists? directory = true → f.find directory = .ok .directory) :
    ∃ known, discover c f = .ok known ∧
      known.keys.Pairwise (fun a b => Text.bytes a < Text.bytes b) ∧
      (∀ name, name ∈ known.keys ↔
        ∃ directory ∈ c.paths, ∃ path, Offers f c.extensions directory name path) ∧
      (∀ name path, known.get? name = some path ↔ Counts f c.extensions c.paths name path) ∧
      (∀ name path, known.get? name = some path → migrationName? path = some name ∧
        ∀ registry, load registry path f =
          match registry.get? name with
          | some m => .ok m
          | none => load ∅ path f) ∧
      (∀ f' : Files, f.nodes.Perm f'.nodes → discover c f' = .ok known) ∧
      (∀ directories, (directories.filter (f.exists? ·)).eraseDups =
          (c.paths.filter (f.exists? ·)).eraseDups →
        discover { c with paths := directories } f = .ok known) := by
  obtain ⟨known, hknown, hget⟩ := exists_discover hproper hreadable
  refine ⟨known, hknown, ?_, fun name => ?_, hget, fun name path h => ?_, fun f' hperm => ?_,
    fun directories hmentions => ?_⟩
  · simp only [Text.bytes_lt_bytes]
    exact List.pairwise_map.2 known.ascending
  · rw [Dict.mem_keys, ← exists_counts hproper hreadable]
    exact exists_congr (hget name)
  · obtain ⟨before, directory, after, -, -, hfirst⟩ := (hget name path).1 h
    have hname := hfirst.offers.migrationName? hproper
    exact ⟨hname, load_of_migrationName? hname⟩
  · have hproper' := hproper.perm hperm
    have hreadable' : ∀ directory ∈ c.paths,
        f'.exists? directory = true → f'.find directory = .ok .directory := by
      have hnode := hproper.node?_perm hperm
      simpa only [Files.exists?_congr hnode, Files.find_congr hnode] using hreadable
    obtain ⟨known', hknown', hget'⟩ := exists_discover hproper' hreadable'
    rw [hknown']
    refine congrArg _ (Dict.ext_get? fun name => Option.ext fun path => ?_)
    rw [hget, hget']
    exact ⟨fun h => h.perm hproper' hperm.symm, fun h => h.perm hproper hperm⟩
  · have hreadable' : ∀ directory ∈ directories,
        f.exists? directory = true → f.find directory = .ok .directory := by
      intro directory hdirectory hexists
      have hmentioned : directory ∈ (directories.filter (f.exists? ·)).eraseDups :=
        List.mem_eraseDups.2 (List.mem_filter.2 ⟨hdirectory, hexists⟩)
      rw [hmentions, List.mem_eraseDups, List.mem_filter] at hmentioned
      exact hreadable directory hmentioned.1 hexists
    obtain ⟨known', hknown', hget'⟩ := exists_discover (c := { c with paths := directories })
      hproper hreadable'
    rw [hknown']
    refine congrArg _ (Dict.ext_get? fun name => Option.ext fun path => ?_)
    rw [hget, hget', ← counts_mentions, hmentions, counts_mentions]

/-- A file behind an earlier directory or an earlier extension does not count, nor does a directory
with the name of a file. -/
theorem shadowed_files_are_not_discovered :
    let c : Config := { paths := ["a", "b"] }
    let f : Files := { nodes := [(["b"], .directory), (["b", "y.rs"], .file []),
      (["b", "x.sql"], .file []), (["a"], .directory), (["a", "y.sql"], .file []),
      (["a", "y.rs"], .file []), (["a", "x.rs"], .directory)] }
    f.Proper ∧ (∀ directory ∈ c.paths,
        f.exists? directory = true → f.find directory = .ok .directory) ∧
      ∃ known, discover c f = .ok known ∧
        known.entries = [("x", "b/x.sql"), ("y", "a/y.rs")] ∧
        Counts f c.extensions c.paths "y" "a/y.rs" ∧
        discover c { nodes := f.nodes.reverse } = .ok known ∧
        discover { c with paths := ["a", "none", "b", "a"] } f = .ok known := by
  intro c f
  have hproper : f.Proper := ⟨by decide, by decide⟩
  have hreadable : ∀ directory ∈ c.paths,
      f.exists? directory = true → f.find directory = .ok .directory := by
    decide
  obtain ⟨known, hknown, -, -, hget, -, hperm, hmentions⟩ :=
    discovers_what_counts c f hproper hreadable
  have hfound : discover c f = .ok (Dict.ofList [("x", "b/x.sql"), ("y", "a/y.rs")]) := by cbv
  obtain rfl := Except.ok.inj (hknown.symm.trans hfound)
  exact ⟨hproper, hreadable, _, hknown, rfl, (hget _ _).1 rfl,
    hperm _ (List.reverse_perm _).symm, hmentions _ (by cbv)⟩

end SchemaMigration.Discovery

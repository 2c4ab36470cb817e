import Mathlib.Data.List.TakeWhile
import SchemaMigration.Files.Path

/-!
# Names and paths

What a directory holds has a name without slashes. The path of a name inside a directory ends in
that name, paths inside one directory are in the order of their names, and the stem and the extension
of a name are what stands in front of its last point and behind it.
-/

namespace SchemaMigration

namespace Text

theorem splitFrom_append_cons {cut : Char → Bool} {c : Char} (hc : cut c = true)
    (text rest : List Char) (read : List Char) :
    splitFrom cut read (text ++ c :: rest) =
      splitFrom cut read text ++ splitFrom cut [] rest := by
  induction text generalizing read with
  | nil => simp [splitFrom, hc]
  | cons d text ih =>
    simp only [List.cons_append, splitFrom]
    split
    · rw [ih, List.cons_append]
    · exact ih _

theorem splitFrom_of_forall {cut : Char → Bool} {text : List Char} (h : ∀ c ∈ text, cut c = false)
    (read : List Char) : splitFrom cut read text = [read.reverse ++ text] := by
  induction text generalizing read with
  | nil => simp [splitFrom]
  | cons c text ih =>
    obtain ⟨hc, htext⟩ := List.forall_mem_cons.1 h
    simp [splitFrom, hc, ih htext]

/-- The pieces on both sides of a separator. -/
theorem splitAt_append_cons (separator : Char) (text rest : List Char) :
    splitAt separator (text ++ separator :: rest) =
      splitAt separator text ++ splitAt separator rest :=
  splitFrom_append_cons (by simp) text rest []

theorem not_mem_of_mem_splitFrom {cut : Char → Bool} {text read : List Char}
    (hread : ∀ c ∈ read, cut c = false) {piece : List Char} (h : piece ∈ splitFrom cut read text) :
    ∀ c ∈ piece, cut c = false := by
  induction text generalizing read with
  | nil =>
    obtain rfl := List.mem_singleton.1 h
    simpa using hread
  | cons c text ih =>
    simp only [splitFrom] at h
    split at h
    · rcases List.mem_cons.1 h with rfl | h
      · simpa using hread
      · exact ih (fun c hc => absurd hc List.not_mem_nil) h
    · rename_i hc
      exact ih (List.forall_mem_cons.2 ⟨Bool.eq_false_iff.2 hc, hread⟩) h

theorem not_mem_of_mem_splitAt {separator : Char} {text piece : List Char}
    (h : piece ∈ splitAt separator text) : separator ∉ piece := fun hmem => by
  simpa using not_mem_of_mem_splitFrom (fun c hc => absurd hc List.not_mem_nil) h separator hmem

theorem splitAt_of_not_mem {separator : Char} {text : List Char} (h : separator ∉ text) :
    splitAt separator text = [text] := by
  refine splitFrom_of_forall (fun c hc => beq_false_of_ne fun heq => ?_) []
  exact h (heq ▸ hc)

end Text

namespace Path

open Text

/-- What can stand between two slashes of a path. -/
structure IsPart (part : String) : Prop where
  /-- Slashes side by side have nothing between them. -/
  nonempty : part ≠ ""
  /-- A slash divides parts. -/
  undivided : '/' ∉ part.toList

/-- A name that something in a directory can have. -/
structure IsName (name : String) : Prop extends IsPart name where
  /-- One point stands for the directory itself. -/
  ne_here : name ≠ "."
  /-- Two points stand for the directory around it. -/
  ne_above : name ≠ ".."

instance (name : String) : Decidable (IsName name) :=
  decidable_of_iff ((name ≠ "" ∧ '/' ∉ name.toList) ∧ name ≠ "." ∧ name ≠ "..")
    ⟨fun ⟨⟨h₁, h₂⟩, h₃, h₄⟩ => ⟨⟨h₁, h₂⟩, h₃, h₄⟩, fun ⟨⟨h₁, h₂⟩, h₃, h₄⟩ => ⟨⟨h₁, h₂⟩, h₃, h₄⟩⟩

variable {directory name : String}

/-- What the paths inside a directory start with. -/
def front (directory : String) : String :=
  if directory.toList.getLast? = some '/' then directory else directory ++ "/"

theorem IsName.isAbsolute_eq_false (h : IsName name) : isAbsolute name = false := by
  have hhead : name.toList.head? ≠ some '/' := fun hhead =>
    h.undivided (List.mem_of_mem_head? hhead)
  simpa [isAbsolute] using hhead

theorem join_eq (hdirectory : directory ≠ "") (hname : IsName name) :
    join directory name = front directory ++ name := by
  unfold join front
  rw [hname.isAbsolute_eq_false, String.isEmpty_eq_false_iff.2 hdirectory, if_neg (by simp)]
  split <;> rfl

/-- The parts on both sides of a slash. -/
theorem parts_append_slash (path rest : String) :
    parts (path ++ "/" ++ rest) = parts path ++ parts rest := by
  simp [parts, splitAt_append_cons]

theorem isPart_of_mem_parts {path part : String} (h : part ∈ parts path) : IsPart part := by
  obtain ⟨piece, hpiece, rfl⟩ := List.mem_map.1 h
  obtain ⟨hpiece, hnonempty⟩ := List.mem_filter.1 hpiece
  refine ⟨fun h => ?_, ?_⟩
  · rw [← String.toList_eq_nil_iff, String.toList_ofList] at h
    simp [h] at hnonempty
  · rw [String.toList_ofList]
    exact not_mem_of_mem_splitAt hpiece

theorem mem_of_mem_beginnings {α : Type} {l beginning : List α} {a : α}
    (h : beginning ∈ beginnings l) (ha : a ∈ beginning) : a ∈ l := by
  induction l generalizing beginning with
  | nil => cases h
  | cons b l ih =>
    simp only [beginnings, List.mem_append, List.mem_map, List.mem_singleton] at h
    rcases h with ⟨shorter, hshorter, rfl⟩ | rfl
    · exact (List.mem_cons.1 ha).elim (· ▸ List.mem_cons_self)
        fun ha => List.mem_cons_of_mem _ (ih hshorter ha)
    · exact List.mem_singleton.1 ha ▸ List.mem_cons_self

theorem isPart_of_mem_ancestors {path part : String} {ancestor : List String}
    (h : ancestor ∈ ancestors path) (hpart : part ∈ ancestor) : IsPart part :=
  isPart_of_mem_parts
    (List.mem_filter.1 (mem_of_mem_beginnings (List.mem_of_mem_drop h) hpart)).1

theorem IsName.parts_eq (h : IsName name) : parts name = [name] := by
  have hnonempty : name.toList ≠ [] := fun heq => h.nonempty (String.toList_eq_nil_iff.1 heq)
  simp [parts, splitAt_of_not_mem h.undivided, hnonempty]

theorem parts_join (hdirectory : directory ≠ "") (hname : IsName name) :
    parts (join directory name) = parts directory ++ [name] := by
  rw [join_eq hdirectory hname, front]
  split
  · rename_i hslash
    obtain ⟨text, htext⟩ := List.getLast?_eq_some_iff.1 hslash
    have hdirectory : directory = String.ofList text ++ "/" ++ "" :=
      String.toList_inj.1 (by simp [htext])
    have hempty : parts "" = [] := rfl
    rw [hdirectory, parts_append_slash, hempty, List.append_nil, String.append_empty,
      parts_append_slash, hname.parts_eq]
  · rw [parts_append_slash, hname.parts_eq]

/-- The path of a name inside a directory ends in that name. -/
theorem fileName?_join (hdirectory : directory ≠ "") (hname : IsName name) :
    fileName? (join directory name) = some name := by
  have hhere : (name == ".") = false := beq_false_of_ne hname.ne_here
  simp [fileName?, parts_join hdirectory hname, hhere, hname.ne_above]

theorem IsName.fileName?_eq (h : IsName name) : fileName? name = some name := by
  have hhere : (name == ".") = false := beq_false_of_ne h.ne_here
  simp [fileName?, h.parts_eq, hhere, h.ne_above]

theorem IsName.join_empty (h : IsName name) : join "" name = name := by
  rw [join, h.isAbsolute_eq_false]
  rfl

/-- A name divided at its last point: a stem that is not empty and an extension without points. -/
theorem divided_eq_iff {stem extension : List Char} :
    divided name = (stem, some extension) ↔
      name.toList = stem ++ '.' :: extension ∧ stem ≠ [] ∧ '.' ∉ extension := by
  constructor
  · intro h
    have hsplit := List.takeWhile_append_dropWhile (p := (· ≠ '.')) (l := name.toList.reverse)
    have hhead := List.head?_dropWhile_not (· ≠ '.') name.toList.reverse
    have hfree (c : Char) (hc : c ∈ name.toList.reverse.takeWhile (· ≠ '.')) : c ≠ '.' := by
      simpa using List.mem_takeWhile_imp hc
    unfold divided at h
    dsimp only at h
    generalize name.toList.reverse.takeWhile (· ≠ '.') = behind at h hsplit hfree
    generalize name.toList.reverse.dropWhile (· ≠ '.') = front at h hsplit hhead
    rcases front with _ | ⟨c, _ | ⟨d, rest⟩⟩
    · cases h
    · cases h
    · obtain rfl : c = '.' := by simpa using hhead
      cases h
      refine ⟨?_, by simp, fun hc => hfree _ (List.mem_reverse.1 hc) rfl⟩
      rw [← List.reverse_reverse name.toList, ← hsplit]
      simp
  · rintro ⟨hname, hstem, hextension⟩
    have hpoint : ∀ c ∈ extension.reverse, decide (c ≠ '.') = true := by
      intro c hc
      refine decide_eq_true fun heq => hextension ?_
      exact heq ▸ List.mem_reverse.1 hc
    have hreversed : name.toList.reverse = extension.reverse ++ '.' :: stem.reverse := by
      simp [hname]
    unfold divided
    dsimp only
    rw [hreversed, List.takeWhile_append_of_pos hpoint, List.dropWhile_append_of_pos hpoint]
    obtain ⟨c, rest, hrest⟩ := List.exists_cons_of_ne_nil (List.reverse_ne_nil_iff.2 hstem)
    have hstem : stem = (c :: rest).reverse := by rw [← hrest, List.reverse_reverse]
    simp [hstem]

/-- The stem and the extension of the path of a name inside a directory are those of the name. -/
theorem stem?_extension?_join (hdirectory : directory ≠ "") (hname : IsName name)
    {stem extension : String} :
    stem? (join directory name) = some stem ∧ extension? (join directory name) = some extension ↔
      name = stem ++ "." ++ extension ∧ stem ≠ "" ∧ '.' ∉ extension.toList := by
  have htext : name = stem ++ "." ++ extension ↔
      name.toList = stem.toList ++ '.' :: extension.toList := by
    simp [← String.toList_inj]
  have hstem : stem ≠ "" ↔ stem.toList ≠ [] := by simp
  have hofList (l : List Char) (text : String) : String.ofList l = text ↔ l = text.toList := by
    rw [← String.toList_inj, String.toList_ofList]
  rw [htext, hstem, ← divided_eq_iff, Prod.ext_iff]
  simp [stem?, extension?, fileName?_join hdirectory hname, hofList]

/-- A name of a stem and an extension keeps both in the path inside any directory, also if the
directory is not written out. -/
theorem stem?_extension?_join_append (directory : String) {stem extension : String}
    (hname : IsName (stem ++ "." ++ extension)) (hstem : stem ≠ "")
    (hextension : '.' ∉ extension.toList) :
    stem? (join directory (stem ++ "." ++ extension)) = some stem ∧
      extension? (join directory (stem ++ "." ++ extension)) = some extension := by
  by_cases hdirectory : directory = ""
  · have hdivided : divided (stem ++ "." ++ extension) = (stem.toList, some extension.toList) :=
      divided_eq_iff.2 ⟨by simp, by simpa using hstem, hextension⟩
    rw [hdirectory, hname.join_empty, stem?, extension?, hname.fileName?_eq]
    simp [hdivided]
  · exact (stem?_extension?_join hdirectory hname).2 ⟨rfl, hstem, hextension⟩

theorem append_lt_append_iff {start a b : String} : start ++ a < start ++ b ↔ a < b := by
  have hlists (l : List Char) : l ++ a.toList < l ++ b.toList ↔ a.toList < b.toList := by
    induction l with
    | nil => rfl
    | cons c l ih => simp [ih]
  rw [String.lt_iff, String.lt_iff, String.toList_append, String.toList_append, hlists]

/-- Paths inside one directory are in the order of their names. -/
theorem join_le_join {a b : String} (hdirectory : directory ≠ "") (ha : IsName a) (hb : IsName b) :
    join directory a ≤ join directory b ↔ a ≤ b := by
  rw [join_eq hdirectory ha, join_eq hdirectory hb, ← String.not_lt, append_lt_append_iff,
    String.not_lt]

end Path

end SchemaMigration

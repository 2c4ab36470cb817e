import Mathlib.Data.List.Nodup
import SchemaMigration.Files.Basic
import SchemaMigration.Proofs.Except
import SchemaMigration.Proofs.Files.Path

/-!
# Proper trees

In a proper tree no two nodes lie at one place, and what lies in a directory has a name. A tree
stays proper whatever is written, made and removed, and the order in which its nodes are listed has
no influence on where a path leads.
-/

namespace SchemaMigration.Files

open SchemaMigration.Path (IsName IsPart)

variable {f f' : Files} {path : String} {place : Place} {parts : List String}

/-- No two nodes lie at one place, and each of them has a name. -/
structure Proper (f : Files) : Prop where
  /-- The places of the nodes are different. -/
  distinct : (f.nodes.map (·.1)).Nodup
  /-- A place ends in a name. -/
  named : ∀ place ∈ f.nodes.map (·.1), ∀ name ∈ place.getLast?, IsName name

/-- The places on the way to which every directory has a name. -/
inductive IsPlace : Place → Prop where
  /-- The working directory. -/
  | here : IsPlace []
  /-- The root. -/
  | root : IsPlace root
  /-- What has a name inside a directory. -/
  | inside {place : Place} {name : String} : IsPlace place → IsName name → IsPlace (place ++ [name])

theorem IsPlace.dropLast (h : IsPlace place) : IsPlace place.dropLast := by
  cases h with
  | here => exact .here
  | root => exact .here
  | inside h _ =>
    rw [List.dropLast_concat]
    exact h

theorem IsPlace.isName_getLast? (h : IsPlace place) (hroot : place ≠ Files.root) {name : String}
    (hname : place.getLast? = some name) : IsName name := by
  cases h with
  | here => cases hname
  | root => exact absurd rfl hroot
  | inside _ h =>
    rw [List.getLast?_concat] at hname
    exact Option.some.inj hname ▸ h

theorem IsPlace.follow (h : IsPlace place) (hparts : ∀ part ∈ parts, IsPart part)
    {reached : Place} (hfollow : f.follow place parts = .ok reached) : IsPlace reached := by
  induction parts generalizing place with
  | nil =>
    cases hfollow
    exact h
  | cons part parts ih =>
    obtain ⟨hpart, hparts⟩ := List.forall_mem_cons.1 hparts
    simp only [Files.follow] at hfollow
    split at hfollow
    · cases hfollow
    · cases hfollow
    · split_ifs at hfollow with hhere habove hroot hsize
      · exact ih h hparts hfollow
      · exact ih h hparts hfollow
      · exact ih h.dropLast hparts hfollow
      · exact ih (h.inside ⟨hpart, hhere, habove⟩) hparts hfollow

theorem isPlace_start (path : String) : IsPlace (start path) := by
  unfold start
  split
  · exact .root
  · exact .here

theorem isPlace_locate (h : f.locate path = .ok place) : IsPlace place := by
  unfold locate at h
  split at h
  · cases h
  · refine (isPlace_start path).follow (fun part hpart => ?_) h
    rcases List.mem_append.1 hpart with hpart | hpart
    · exact Path.isPart_of_mem_parts hpart
    · split at hpart
      · obtain rfl := List.mem_singleton.1 hpart
        exact ⟨by decide, by decide⟩
      · cases hpart

theorem find_eq_ok {node : Node} :
    f.find path = .ok node ↔ ∃ place, f.locate path = .ok place ∧ f.node? place = some node := by
  unfold find
  rw [except_bind_eq_ok]
  refine exists_congr fun place => and_congr_right fun _ => ?_
  cases f.node? place with
  | none => exact ⟨nofun, nofun⟩
  | some found => exact ⟨fun h => by cases h; rfl, fun h => by cases h; rfl⟩

/-- The names and the nodes right inside a place. -/
def inside (f : Files) (place : Place) : List (String × Node) :=
  f.nodes.filterMap fun entry => (nameIn? place entry.1).map (·, entry.2)

theorem list_eq_ok {entries : List (String × Node)} :
    f.list path = .ok entries ↔
      ∃ place, f.locate path = .ok place ∧ f.node? place = some .directory ∧
        f.inside place = entries := by
  unfold list
  rw [except_bind_eq_ok]
  refine exists_congr fun place => and_congr_right fun _ => ?_
  cases f.node? place with
  | none => exact ⟨nofun, nofun⟩
  | some found =>
    cases found with
    | file content => exact ⟨nofun, nofun⟩
    | directory => exact ⟨fun h => by cases h; exact ⟨rfl, rfl⟩, fun h => by cases h.2; rfl⟩

theorem exists_list (h : f.find path = .ok .directory) : ∃ entries, f.list path = .ok entries := by
  obtain ⟨place, hplace, hnode⟩ := find_eq_ok.1 h
  exact ⟨_, list_eq_ok.2 ⟨place, hplace, hnode, rfl⟩⟩

theorem node?_root (f : Files) : f.node? root = some .directory := by
  simp [node?]

namespace Proper

theorem empty : Proper {} :=
  ⟨List.nodup_nil, nofun⟩

theorem put (h : f.Proper) (hplace : IsPlace place) (hroot : place ≠ root) (node : Node) :
    (f.put place node).Proper := by
  unfold Files.put
  split
  · have hplaces : (f.nodes.map fun entry => if entry.1 = place then (place, node) else entry).map
        (·.1) = f.nodes.map (·.1) := by
      rw [List.map_map]
      refine List.map_congr_left fun entry _ => ?_
      dsimp only [Function.comp_apply]
      split
      · rename_i heq
        exact heq.symm
      · rfl
    exact ⟨hplaces ▸ h.distinct, hplaces ▸ h.named⟩
  · rename_i hnew
    have hnew : ∀ entry ∈ f.nodes, place ≠ entry.1 := fun entry hentry heq =>
      hnew (List.lookup_isSome_iff.2 ⟨entry, hentry, beq_iff_eq.2 heq⟩)
    refine ⟨?_, ?_⟩
    · rw [List.map_append]
      refine h.distinct.append (List.nodup_singleton _) fun other hother hplace => ?_
      obtain ⟨entry, hentry, rfl⟩ := List.mem_map.1 hother
      exact hnew entry hentry (List.mem_singleton.1 hplace).symm
    · intro other hother name hname
      rw [List.map_append, List.mem_append] at hother
      rcases hother with hother | hother
      · exact h.named other hother name hname
      · obtain rfl := List.mem_singleton.1 hother
        exact hplace.isName_getLast? hroot hname

theorem removeAt (h : f.Proper) (place : Place) : (f.removeAt place).Proper := by
  have hsub : List.Sublist ((f.removeAt place).nodes.map (·.1)) (f.nodes.map (·.1)) :=
    List.filter_sublist.map _
  exact ⟨h.distinct.sublist hsub, fun other hother => h.named other (hsub.subset hother)⟩

theorem write (h : f.Proper) {content : List UInt8} (hwrite : f.write path content = .ok f') :
    f'.Proper := by
  obtain ⟨place, hplace, hwrite⟩ := except_bind_eq_ok.1 hwrite
  split at hwrite
  · cases hwrite
  · rename_i hnode
    cases hwrite
    exact h.put (isPlace_locate hplace) (fun hroot => hnode (hroot ▸ f.node?_root)) _

theorem makeDirectory (h : f.Proper) {start : Place} (hstart : IsPlace start)
    (hparts : ∀ part ∈ parts, IsPart part) (hmake : f.makeDirectory start parts = .ok f') :
    f'.Proper := by
  obtain ⟨place, hplace, hmake⟩ := except_bind_eq_ok.1 hmake
  split at hmake
  · cases hmake
  · rename_i hnode
    cases hmake
    refine h.put (hstart.follow hparts hplace) (fun hroot => ?_) _
    simp [hroot, node?_root] at hnode

theorem makeFirst (h : f.Proper) {start : Place} (hstart : IsPlace start)
    {directories : List (List String)}
    (hparts : ∀ parts ∈ directories, ∀ part ∈ parts, IsPart part) :
    (f.makeFirst start directories).1.Proper := by
  induction directories generalizing f with
  | nil => exact h
  | cons parts outer ih =>
    obtain ⟨hfirst, houter⟩ := List.forall_mem_cons.1 hparts
    have hmade := ih h houter
    unfold Files.makeFirst
    dsimp only
    split
    · rename_i hmake
      exact h.makeDirectory hstart hfirst hmake
    · split
      · rename_i hfirst
        exact hfirst ▸ hmade
      · rename_i hrest
        rw [hrest] at hmade
        split
        · rename_i hmake
          exact hmade.makeDirectory hstart hfirst hmake
        · exact hmade
    · exact h

theorem makeDirectories (h : f.Proper) (path : String) : (f.makeDirectories path).1.Proper := by
  unfold Files.makeDirectories
  split
  · exact h
  · refine h.makeFirst (isPlace_start path) (List.forall_mem_cons.2 ⟨fun part hpart => ?_, ?_⟩)
    · exact Path.isPart_of_mem_parts hpart
    · exact fun ancestor hancestor part => Path.isPart_of_mem_ancestors hancestor

theorem writeDeep (h : f.Proper) (path : String) (content : List UInt8) :
    (f.writeDeep path content).1.Proper := by
  have hmade : (f.makeFirst (start path) (Path.ancestors path)).1.Proper :=
    h.makeFirst (isPlace_start path) fun _ hancestor _ => Path.isPart_of_mem_ancestors hancestor
  unfold Files.writeDeep
  split
  · rename_i hfirst
    exact hfirst ▸ hmade
  · rename_i hfirst
    rw [hfirst] at hmade
    split
    · rename_i hwrite
      exact hmade.write hwrite
    · exact hmade

theorem remove (h : f.Proper) (hremove : f.remove path = .ok f') : f'.Proper := by
  obtain ⟨place, hplace, hremove⟩ := except_bind_eq_ok.1 hremove
  split at hremove
  · cases hremove
    exact h.removeAt place
  · cases hremove

theorem lookup_eq_some_iff (h : f.Proper) {node : Node} :
    f.nodes.lookup place = some node ↔ (place, node) ∈ f.nodes := by
  have hmem {found : Node} (hfound : f.nodes.lookup place = some found) :
      (place, found) ∈ f.nodes := by
    obtain ⟨before, after, hnodes, -⟩ := List.lookup_eq_some_iff.1 hfound
    simp [hnodes]
  refine ⟨hmem, fun hnode => ?_⟩
  obtain ⟨found, hfound⟩ := Option.isSome_iff_exists.1
    (List.lookup_isSome_iff.2 ⟨_, hnode, beq_self_eq_true place⟩)
  have heq := List.inj_on_of_nodup_map h.distinct (hmem hfound) hnode rfl
  rw [hfound]
  exact congrArg some (Prod.ext_iff.1 heq).2

theorem perm (h : f.Proper) (hperm : f.nodes.Perm f'.nodes) : f'.Proper where
  distinct := (hperm.map _).nodup_iff.1 h.distinct
  named place hplace := h.named place ((hperm.map _).mem_iff.2 hplace)

/-- The order of the nodes has no influence on what lies at a place. -/
theorem node?_perm (h : f.Proper) (hperm : f.nodes.Perm f'.nodes) (place : Place) :
    f'.node? place = f.node? place := by
  have hlookup : f'.nodes.lookup place = f.nodes.lookup place := by
    refine Option.ext fun node => ?_
    rw [(h.perm hperm).lookup_eq_some_iff, h.lookup_eq_some_iff, hperm.mem_iff]
  rw [node?, node?, hlookup]

theorem isName_of_mem_list (h : f.Proper) {entries : List (String × Node)}
    (hlist : f.list path = .ok entries) {entry : String × Node} (hentry : entry ∈ entries) :
    IsName entry.1 := by
  obtain ⟨place, -, -, rfl⟩ := list_eq_ok.1 hlist
  obtain ⟨⟨inside, node⟩, hnode, hentry⟩ := List.mem_filterMap.1 hentry
  obtain ⟨name, hname, rfl⟩ := Option.map_eq_some_iff.1 hentry
  unfold nameIn? at hname
  split at hname
  · exact h.named inside (List.mem_map_of_mem hnode) name hname
  · cases hname

end Proper

section Order

variable (hnode : ∀ place, f'.node? place = f.node? place)
include hnode

theorem follow_congr (place : Place) (parts : List String) :
    f'.follow place parts = f.follow place parts := by
  induction parts generalizing place with
  | nil => rfl
  | cons part parts ih => simp only [follow, hnode, ih]

theorem locate_congr (path : String) : f'.locate path = f.locate path := by
  simp only [locate, follow_congr hnode]

theorem find_congr (path : String) : f'.find path = f.find path := by
  simp only [find, locate_congr hnode, hnode]

theorem exists?_congr (path : String) : f'.exists? path = f.exists? path := by
  simp only [exists?, find_congr hnode]

end Order

/-- Nodes that are listed in another order are found in a directory in another order. -/
theorem list_perm (h : f.Proper) (hperm : f.nodes.Perm f'.nodes) {entries : List (String × Node)}
    (hlist : f.list path = .ok entries) :
    ∃ entries', f'.list path = .ok entries' ∧ entries.Perm entries' := by
  obtain ⟨place, hplace, hdirectory, rfl⟩ := list_eq_ok.1 hlist
  have hnode := h.node?_perm hperm
  refine ⟨f'.inside place, list_eq_ok.2 ⟨place, ?_, ?_, rfl⟩, hperm.filterMap _⟩
  · rw [locate_congr hnode, hplace]
  · rw [hnode, hdirectory]

end SchemaMigration.Files

import Mathlib
import SchemaMigration.Proofs.Tracking.Order

/-!
# Tracking tables as lists of records

Whatever sequence of calls is made on a tracking table, from its creation on, the table goes along
with a `Ledger`: a plain list of records, to which logging appends and from which deleting takes
away. The calls return what the ledger says, and the queries show the records of the ledger.
-/

namespace SchemaMigration

namespace Table.Tracks

variable {t : Table}

theorem identifies_iff (ht : t.Tracks) {row : Row} (hrow : row ∈ t.rows) (n : Int64) :
    t.identifies (.int64 n) row = true ↔ (Record.ofRow row).id = some n := by
  obtain ⟨record, m, rfl, -⟩ := ht.rows row hrow
  simp [ht.identifies_numbered]

/-- A number identifies at most one row, so deleting takes away one row or none. -/
theorem length_delete (ht : t.Tracks) (n : Int64) :
    (if t.rows.any (t.identifies (.int64 n)) then 1 else 0) + (t.delete (.int64 n)).rows.length =
      t.rows.length := by
  let ids := t.rows.map fun row => (Record.ofRow row).id
  have hany : t.rows.any (t.identifies (.int64 n)) = true ↔ some n ∈ ids := by
    rw [List.any_eq_true, List.mem_map]
    exact exists_congr fun row => and_congr_right fun hrow => ht.identifies_iff hrow n
  have hrest : ((t.delete (.int64 n)).rows.map fun row => (Record.ofRow row).id) =
      ids.erase (some n) := by
    rw [ht.distinct.erase_eq_filter, List.filter_map]
    congr 1
    apply List.filter_congr
    intro row hrow
    rw [Function.comp_apply, Bool.eq_iff_iff, bne_iff_ne, Bool.not_eq_true', Ne,
      ← ht.identifies_iff hrow, Bool.not_eq_true]
  have hlength := congrArg List.length hrest
  rw [List.length_map, List.length_erase] at hlength
  have htotal : ids.length = t.rows.length := List.length_map _
  by_cases hmem : some n ∈ ids
  · have hpos := List.length_pos_of_mem hmem
    rw [if_pos hmem] at hlength
    rw [if_pos (hany.2 hmem)]
    omega
  · rw [if_neg hmem] at hlength
    rw [if_neg fun h => hmem (hany.1 h)]
    omega

end Table.Tracks

namespace Tracking

variable {table : String} {s s' : Store} {t : Table}

/-- Deleting by numbers counts the rows that it takes away. -/
theorem length_rows_deleteIds {ids : List Value} (ht : s.tables.get? table = some t) (h : t.Tracks)
    (hids : ∀ id ∈ ids, ∃ n, id = Value.int64 n) {count : Nat}
    (hdelete : deleteIds table ids s = .ok (count, s')) :
    count + (s'.rows table).length = t.rows.length := by
  induction ids generalizing s t count with
  | nil =>
    obtain ⟨rfl, rfl⟩ := Prod.mk.inj (Except.ok.inj hdelete)
    rw [Store.rows_of_get? ht, Nat.zero_add]
  | cons id rest ih =>
    obtain ⟨n, rfl⟩ := hids id List.mem_cons_self
    obtain ⟨⟨found, s₁⟩, hfirst, hdelete⟩ := except_bind_eq_ok.1 hdelete
    obtain ⟨⟨others, s₂⟩, hrest, hdelete⟩ := except_bind_eq_ok.1 hdelete
    obtain ⟨rfl, rfl⟩ := Prod.mk.inj (Except.ok.inj hdelete)
    obtain ⟨t', ht', hfound, rfl⟩ := Store.delete_eq_ok.1 hfirst
    obtain rfl := Option.some.inj (ht.symm.trans ht')
    have hids' := fun id hid => hids id (List.mem_cons_of_mem _ hid)
    have hlength := h.length_delete n
    rw [← hfound] at hlength
    by_cases hf : found = true
    · rw [if_pos hf] at hrest hlength ⊢
      have hothers : others + (s₂.rows table).length = (t.delete (.int64 n)).rows.length :=
        ih (Dict.get?_insert_self _ _ _) (h.filter _) hids' hrest
      omega
    · rw [if_neg hf] at hrest hlength ⊢
      have hothers : others + (s₂.rows table).length = t.rows.length := ih ht h hids' hrest
      omega

/-- Deleting what a query selects takes away just the rows that it accepts. -/
theorem deleteSelected_of_tracks (ht : s.tables.get? table = some t) (h : t.Tracks) {q : Query}
    (hlimit : q.limit = none) (hoffset : q.offset = 0) :
    ∃ s', deleteSelected table q s = .ok ((t.rows.filter q.accepts).length, s') ∧
      s'.tables.get? table = some { t with rows := t.rows.filter fun row => !q.accepts row } := by
  obtain ⟨count, s', hdelete, hs', -⟩ := deleteSelected_eq_ok q ht
  rw [List.filter_congr fun row hrow => h.all_not_identifies_selected hlimit hoffset hrow] at hs'
  have hids : ∀ id ∈ selectedIds q t, ∃ n, id = Value.int64 n := by
    intro id hid
    obtain ⟨row, hrow, -, hid⟩ := (mem_selectedIds hlimit hoffset _).1 hid
    obtain ⟨record, n, rfl, -⟩ := h.rows row hrow
    exact ⟨n, Option.some.inj (hid.symm.trans (Record.get?_numbered_id record n))⟩
  have hdeleted : deleteIds table (selectedIds q t) s = .ok (count, s') := by
    rw [← hdelete, deleteSelected, select_of_get? ht]
    rfl
  have hcount := length_rows_deleteIds ht h hids hdeleted
  rw [Store.rows_of_get? hs'] at hcount
  have hsplit := List.length_eq_length_filter_add (l := t.rows) q.accepts
  obtain rfl : count = (t.rows.filter q.accepts).length := by
    simp only at hcount
    omega
  exact ⟨s', hdelete, hs'⟩

/-- A call on a tracking table. -/
inductive Call where
  | ensure
  | log (record : Record)
  | delete (migration : String)
  | deleteAll

/-- What a call returns. -/
inductive Reply where
  | done
  | logged (record : Record)
  | removed (count : Nat)

/-- The change that a call makes. -/
def Call.change (table : String) : Call → Change Reply
  | .ensure => do
    Tracking.ensure table
    return .done
  | .log record => return .logged (← Tracking.log table record)
  | .delete migration => return .removed (← Tracking.delete table migration)
  | .deleteAll => return .removed (← Tracking.deleteAll table)

/-- What a call returns and the store afterwards, the same as before if the call fails. -/
def Call.make (table : String) (call : Call) (s : Store) : Except Fault Reply × Store :=
  match call.change table s with
  | .ok (reply, s') => (.ok reply, s')
  | .error fault => (.error fault, s)

theorem Call.make_of_ok {call : Call} {reply : Reply} (h : call.change table s = .ok (reply, s')) :
    call.make table s = (.ok reply, s') := by
  rw [make, h]

theorem Call.make_of_error {call : Call} {fault : Fault} (h : call.change table s = .error fault) :
    call.make table s = (.error fault, s) := by
  rw [make, h]

/-- A list of records, and all records that were ever logged. -/
structure Ledger where
  records : List Record := []
  logged : List Record := []

/-- The ledger with one more record behind the others. -/
def Ledger.add (l : Ledger) (record : Record) : Ledger where
  records := l.records ++ [record]
  logged := l.logged ++ [record]

/-- What a call returns and does to a ledger. A new record has a number that none had before; there
are no more numbers when all of them but the greatest have been used. -/
inductive Ledger.Step (l : Ledger) : Call → Except Fault Reply → Ledger → Prop
  | ensure : Step l .ensure (.ok .done) l
  | reserved {record : Record} (h : record.batch.toInt < 1) :
    Step l (.log record)
      (.error (.failed (.validation (.reservedBatch record.migration record.batch.toInt)))) l
  | log {record : Record} {n : Int64} (h : 1 ≤ record.batch.toInt)
      (fresh : ∀ earlier ∈ l.logged, earlier.id ≠ some n) :
    Step l (.log record) (.ok (.logged { record with id := some n }))
      (l.add { record with id := some n })
  | full {record : Record} (h : 1 ≤ record.batch.toInt) (used : l.logged.length = 2 ^ 63 - 2) :
    Step l (.log record) (.error .overflow) l
  | delete {migration : String} :
    Step l (.delete migration)
      (.ok (.removed (l.records.filter fun record => record.migration == migration).length))
      { l with records := l.records.filter fun record => record.migration != migration }
  | deleteAll : Step l .deleteAll (.ok (.removed l.records.length)) { l with records := [] }

/-- The rows of a table hold the records of a ledger, and no number from its next one on was ever
used. -/
structure Ledger.Represents (l : Ledger) (t : Table) : Prop where
  tracks : t.Tracks
  records : t.rows.map Record.ofRow = l.records
  count : t.nextId.toInt = l.logged.length + 1
  used : ∀ earlier ∈ l.logged, ∃ n : Int64, earlier.id = some n ∧ n.toInt < t.nextId.toInt

/-- A call returns what it does on a ledger, and the table represents the ledger afterwards. -/
def Ledger.Follows (l : Ledger) (table : String) (s : Store) (call : Call) : Prop :=
  ∃ l' t', l.Step call (call.make table s).1 l' ∧
    (call.make table s).2.tables.get? table = some t' ∧ l'.Represents t'

namespace Ledger.Represents

variable {l : Ledger}

theorem empty (table : String) :
    Represents {} { columns := (blueprint table).columns } where
  tracks := .empty table
  records := rfl
  count := rfl
  used := by simp

theorem append (h : l.Represents t) {record : Record} {next : Int64}
    (hb : 1 ≤ record.batch.toInt) (hnext : successor? t.nextId = some next) :
    (l.add { record with id := some t.nextId }).Represents
      (t.append (record.numbered t.nextId) next) where
  tracks := h.tracks.append hb hnext
  records := by simp [Table.append, Ledger.add, h.records]
  count := by
    have hcount := h.count
    have := successor?_eq_some.1 hnext
    simp only [Table.append, Ledger.add, List.length_append, List.length_singleton]
    omega
  used := by
    have hlt : t.nextId.toInt < next.toInt := by
      rw [successor?_eq_some.1 hnext]
      omega
    intro earlier hearlier
    rcases List.mem_append.1 hearlier with hold | hnew
    · obtain ⟨n, hid, hn⟩ := h.used earlier hold
      exact ⟨n, hid, Int.lt_trans hn hlt⟩
    · obtain rfl := List.mem_singleton.1 hnew
      exact ⟨t.nextId, rfl, hlt⟩

theorem filter (h : l.Represents t) {p : Record → Bool} {q : Row → Bool}
    (hq : ∀ row ∈ t.rows, q row = p (Record.ofRow row)) :
    Represents { l with records := l.records.filter p } { t with rows := t.rows.filter q } where
  tracks := h.tracks.filter q
  records := by
    rw [← h.records, List.filter_map]
    exact congrArg _ (List.filter_congr hq)
  count := h.count
  used := h.used

/-- No record that was logged has the number that is next. -/
theorem fresh (h : l.Represents t) : ∀ earlier ∈ l.logged, earlier.id ≠ some t.nextId := by
  intro earlier hearlier heq
  obtain ⟨n, hid, hn⟩ := h.used earlier hearlier
  obtain rfl := Option.some.inj (hid.symm.trans heq)
  exact Int.lt_irrefl _ hn

/-- The number after the next one is missing only if all others were used. -/
theorem full (h : l.Represents t) (hnext : successor? t.nextId = none) :
    l.logged.length = 2 ^ 63 - 2 := by
  have hcount := h.count
  have hlast := toInt_of_successor?_eq_none hnext
  have hmax := Int64.toInt_maxValue
  omega

theorem follows_ensure (h : l.Represents t) (ht : s.tables.get? table = some t) :
    l.Follows table s .ensure := by
  have hmake : Call.make table .ensure s = (.ok .done, s) := by
    apply Call.make_of_ok
    simp only [Call.change, bind, StateT.bind, ensure_eq, ensured_of_get? ht]
    rfl
  rw [Follows, hmake]
  exact ⟨l, t, .ensure, ht, h⟩

theorem follows_log (h : l.Represents t) (ht : s.tables.get? table = some t) (record : Record) :
    l.Follows table s (.log record) := by
  by_cases hb : record.batch.toInt < 1
  · have hmake : Call.make table (.log record) s = (.error (.failed
        (.validation (.reservedBatch record.migration record.batch.toInt))), s) := by
      apply Call.make_of_error
      simp only [Call.change, bind, StateT.bind, log_of_reserved hb]
      rfl
    rw [Follows, hmake]
    exact ⟨l, t, .reserved hb, ht, h⟩
  · have hb := Int.not_lt.1 hb
    have hlog := log_of_tracks ht h.tracks hb
    cases hnext : successor? t.nextId with
    | none =>
      have hmake : Call.make table (.log record) s = (.error .overflow, s) := by
        apply Call.make_of_error
        simp only [Call.change, bind, StateT.bind, hlog, hnext]
        rfl
      rw [Follows, hmake]
      exact ⟨l, t, .full hb (h.full hnext), ht, h⟩
    | some next =>
      have hmake : Call.make table (.log record) s =
          (.ok (.logged { record with id := some t.nextId }),
            s.withTable table (t.append (record.numbered t.nextId) next)) := by
        apply Call.make_of_ok
        simp only [Call.change, bind, StateT.bind, hlog, hnext]
        rfl
      rw [Follows, hmake]
      exact ⟨_, _, .log hb h.fresh, Dict.get?_insert_self _ _ _, h.append hb hnext⟩

theorem follows_delete (h : l.Represents t) (ht : s.tables.get? table = some t)
    (migration : String) : l.Follows table s (.delete migration) := by
  let query := ({} : Query).whereEq "migration" (.string migration)
  have haccepts (row : Row) (hrow : row ∈ t.rows) :
      query.accepts row = ((Record.ofRow row).migration == migration) :=
    h.tracks.accepts_migration rfl migration hrow
  have hcount : (t.rows.filter query.accepts).length =
      (l.records.filter fun record => record.migration == migration).length := by
    rw [← h.records, List.filter_map, List.length_map]
    exact congrArg _ (List.filter_congr haccepts)
  have hleft (row : Row) (hrow : row ∈ t.rows) :
      (!query.accepts row) = ((Record.ofRow row).migration != migration) := by
    rw [haccepts row hrow]
    rfl
  obtain ⟨s', hdelete, hs'⟩ := deleteSelected_of_tracks ht h.tracks (q := query) rfl rfl
  rw [hcount] at hdelete
  have hmake : Call.make table (.delete migration) s = (.ok (.removed
      (l.records.filter fun record => record.migration == migration).length), s') := by
    apply Call.make_of_ok
    simp only [Call.change, bind, StateT.bind, delete]
    rw [hdelete]
    rfl
  rw [Follows, hmake]
  exact ⟨_, _, .delete, hs', h.filter hleft⟩

theorem follows_deleteAll (h : l.Represents t) (ht : s.tables.get? table = some t) :
    l.Follows table s .deleteAll := by
  have hall : t.rows.filter ({} : Query).accepts = t.rows :=
    List.filter_eq_self.2 fun _ _ => rfl
  have hnone : l.records.filter (fun _ => false) = [] := List.filter_false _
  obtain ⟨s', hdelete, hs'⟩ := deleteSelected_of_tracks ht h.tracks (q := {}) rfl rfl
  rw [hall] at hdelete
  have hmake : Call.make table .deleteAll s = (.ok (.removed l.records.length), s') := by
    apply Call.make_of_ok
    rw [← h.records, List.length_map]
    simp only [Call.change, bind, StateT.bind, deleteAll]
    rw [hdelete]
    rfl
  have hempty := h.filter (p := fun _ => false) fun _ _ => rfl
  rw [hnone] at hempty
  rw [Follows, hmake]
  exact ⟨_, _, .deleteAll, hs', hempty⟩

theorem follows (h : l.Represents t) (ht : s.tables.get? table = some t) (call : Call) :
    l.Follows table s call := by
  cases call with
  | ensure => exact h.follows_ensure ht
  | log record => exact h.follows_log ht record
  | delete migration => exact h.follows_delete ht migration
  | deleteAll => exact h.follows_deleteAll ht

end Ledger.Represents

/-- Calls on a tracking table from one store on, each with what it returned, and the store
afterwards. In between the store changes in any way that leaves the table as it is. -/
inductive Transcript (table : String) (s : Store) : List (Call × Except Fault Reply) → Store → Prop
  | start : Transcript table s [] s
  | call {calls : List (Call × Except Fault Reply)} {s' : Store} (call : Call)
      (earlier : Transcript table s calls s') :
    Transcript table s (calls ++ [(call, (call.make table s').1)]) (call.make table s').2
  | elsewhere {calls : List (Call × Except Fault Reply)} {s' s'' : Store}
      (earlier : Transcript table s calls s')
      (h : s''.tables.get? table = s'.tables.get? table) : Transcript table s calls s''

/-- The same calls on a ledger. -/
inductive Ledger.Steps (l : Ledger) : List (Call × Except Fault Reply) → Ledger → Prop
  | start : Steps l [] l
  | step {calls : List (Call × Except Fault Reply)} {l' l'' : Ledger} {call : Call}
      {reply : Except Fault Reply} (earlier : Steps l calls l') (h : l'.Step call reply l'') :
    Steps l (calls ++ [(call, reply)]) l''

/-- Every query on a tracking table finds what it should among some records. -/
structure Shows (table : String) (s : Store) (records : List Record) : Prop where
  all : Tracking.records table s = .ok (Record.inOrder records)
  lastBatch : ∃ last, Tracking.lastBatch table s = .ok last ∧ last.toInt = lastNumber records
  ofBatch (batch : Int64) : Tracking.ofBatch table batch s =
    .ok (Record.inOrder (records.filter fun record => record.batch = batch))
  fromBatch (batch : Int64) : Tracking.fromBatch table batch s =
    .ok (Record.inOrder (records.filter fun record => batch.toInt ≤ record.batch.toInt))
  lastBatches (count : Nat) : Tracking.lastBatches table count s =
    .ok (Record.inOrder (records.filter fun record => laterBatches records record.batch < count))
  find (migration : String) : Tracking.find table migration s =
    .ok (records.find? fun record => record.migration == migration)

theorem Ledger.Represents.shows {l : Ledger} (h : l.Represents t)
    (ht : s.tables.get? table = some t) : Shows table s l.records := by
  have hrecords : recorded table s = l.records := (recorded_of_get? ht).trans h.records
  rw [← hrecords]
  exact {
    all := records_eq_inOrder ht h.tracks
    lastBatch := lastBatch_of_tracks ht h.tracks
    ofBatch := ofBatch_eq_inOrder ht h.tracks
    fromBatch := fromBatch_eq_inOrder ht h.tracks
    lastBatches := lastBatches_eq_inOrder ht h.tracks
    find := find_eq_find? ht h.tracks }

theorem Transcript.reply {calls : List (Call × Except Fault Reply)}
    (earlier : Transcript table s calls s') (call : Call) (reply : Except Fault Reply)
    (h : (call.make table s').1 = reply) :
    Transcript table s (calls ++ [(call, reply)]) (call.make table s').2 :=
  h ▸ earlier.call call

/-- After any calls the table represents a ledger on which the same calls were made. -/
theorem Transcript.represents {calls : List (Call × Except Fault Reply)}
    (h : Transcript table s calls s') {l : Ledger} (hl : l.Represents t)
    (ht : s.tables.get? table = some t) :
    ∃ l' t', l.Steps calls l' ∧ s'.tables.get? table = some t' ∧ l'.Represents t' := by
  induction h with
  | start => exact ⟨l, t, .start, ht, hl⟩
  | call call earlier ih =>
    obtain ⟨l', t', hsteps, ht', hl'⟩ := ih
    obtain ⟨l'', t'', hstep, ht'', hl''⟩ := hl'.follows ht' call
    exact ⟨l'', t'', hsteps.step hstep, ht'', hl''⟩
  | elsewhere earlier hkept ih =>
    obtain ⟨l', t', hsteps, ht', hl'⟩ := ih
    exact ⟨l', t', hsteps, hkept.trans ht', hl'⟩

/-- A tracking table that is created goes along with an empty ledger from then on. -/
theorem keeps_ledger (h : s.tables.get? table = none) :
    ∃ created, ensure table s = .ok ((), created) ∧
      ∀ calls s', Transcript table created calls s' →
        ∃ l : Ledger, Ledger.Steps {} calls l ∧ Shows table s' l.records ∧
          (Record.inOrder l.records).Perm l.records ∧
          (Record.inOrder l.records).Pairwise Record.NotAfter := by
  have hensured : ensured table s = s.withTable table { columns := (blueprint table).columns } :=
    if_neg (by simp [h])
  refine ⟨ensured table s, ensure_eq table s, fun calls s' htranscript => ?_⟩
  have hempty : (ensured table s).tables.get? table =
      some { columns := (blueprint table).columns } := by
    rw [hensured]
    exact Dict.get?_insert_self _ _ _
  obtain ⟨l, t, hsteps, ht, hl⟩ := htranscript.represents (.empty table) hempty
  exact ⟨l, hsteps, hl.shows ht, Record.inOrder_perm _, Record.pairwise_inOrder _⟩

/-- A name that was logged twice is deleted twice, and its numbers are not used again. -/
theorem repeated_name_is_deleted :
    let alpha : Record := { migration := "alpha", batch := 1 }
    let calls : List (Call × Except Fault Reply) := [
      (.log alpha, .ok (.logged { alpha with id := some 1 })),
      (.log { alpha with batch := 2 }, .ok (.logged { alpha with id := some 2, batch := 2 })),
      (.delete "alpha", .ok (.removed 2)),
      (.log alpha, .ok (.logged { alpha with id := some 3 }))]
    ({} : Store).tables.get? "migrations" = none ∧
      ∃ created s' l, ensure "migrations" {} = .ok ((), created) ∧
        Transcript "migrations" created calls s' ∧ Ledger.Steps {} calls l ∧
        Shows "migrations" s' l.records := by
  intro alpha calls
  have hnone : ({} : Store).tables.get? "migrations" = none := rfl
  obtain ⟨created, hcreated, hledger⟩ := keeps_ledger hnone
  obtain rfl : ensured "migrations" {} = created := by
    have h := (ensure_eq "migrations" {}).symm.trans hcreated
    exact (Prod.mk.inj (Except.ok.inj h)).2
  have hstart : Transcript "migrations" (ensured "migrations" {}) [] (ensured "migrations" {}) :=
    .start
  have hfirst := hstart.reply (.log alpha) (.ok (.logged { alpha with id := some 1 })) (by cbv)
  have hsecond := hfirst.reply (.log { alpha with batch := 2 })
    (.ok (.logged { alpha with id := some 2, batch := 2 })) (by cbv)
  have hdeleted := hsecond.reply (.delete "alpha") (.ok (.removed 2)) (by cbv)
  have hthird := hdeleted.reply (.log alpha) (.ok (.logged { alpha with id := some 3 })) (by cbv)
  obtain ⟨l, hsteps, hshows, -⟩ := hledger calls _ hthird
  exact ⟨hnone, _, _, l, hcreated, hthird, hsteps, hshows⟩

end Tracking

end SchemaMigration

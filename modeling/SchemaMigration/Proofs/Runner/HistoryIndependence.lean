import SchemaMigration.Proofs.Runner.Alike
import SchemaMigration.Proofs.Runner.Emission
import SchemaMigration.Proofs.Runner.Fresh
import SchemaMigration.Proofs.Runner.Lock

/-!
# Starting afresh forgets the past

After `fresh`, nothing of the old tables makes a difference: it ends as a run does on a store
without tables that has the same features, rejects the same statements and holds the same locks, and
it leaves the same tables. Only the recorded times tell the two apart if the clocks do. The locks
belong to the condition, because dropping tables gives none up.
-/

namespace SchemaMigration

namespace BlindSpot

/-- Nothing is hidden. -/
def nothing (table : String) : BlindSpot where
  table := table
  columns := []

/-- The times that are recorded are hidden. -/
def times (table : String) : BlindSpot where
  table := table
  columns := ["execution_time_ms", "created_at"]

theorem hidesTimes_times (table : String) : (times table).HidesTimes := by
  simp [HidesTimes, times]

end BlindSpot

/-- A session like another one, whose store has no tables and no open transaction. -/
structure Session.Blanked (s blank : Session) : Prop where
  tables : blank.store.tables = ∅
  snapshot : blank.store.snapshot = none
  files : blank.files = s.files
  features : blank.store.features = s.store.features
  rejections : blank.store.rejections = s.store.rejections
  isLocked : ∀ lock, blank.store.isLocked lock = s.store.isLocked lock

/-- Sessions that are alike and in which no migration is recorded. -/
structure BlindSpot.UnrecordedSessions (b : BlindSpot) (ran ran' : List (String × Direction))
    (s s' : Session) : Prop extends b.AlikeSessions ran ran' s s' where
  recorded : Tracking.recorded b.table s.store = []
  recorded' : Tracking.recorded b.table s'.store = []

namespace Runner

open BlindSpot

variable {r : Runner} {b : BlindSpot} {ran ran' : List (String × Direction)} {o : RunOptions}
  {s blank : Session}

section Blank

variable (htable : r.config.table = b.table)

include htable

/-- Where nothing is recorded, a run makes sure of the tracking table and reads nothing. -/
theorem exec_recordsForRun_of_nothing (h : Tracking.recorded b.table s.store = []) :
    ∃ prepared, Tracking.ensure b.table s.store = .ok ((), prepared) ∧
      Tracking.recorded b.table prepared = [] ∧
      (r.recordsForRun false).exec s = (.ok [], { s with store := prepared }) := by
  obtain ⟨prepared, tracking, read, hensure, hget, hrows, -, hread, hmem⟩ :=
    exec_recordsForRun_false r s
  rw [htable] at hensure hget hrows hmem
  rw [h] at hmem
  obtain rfl : read = [] := List.eq_nil_iff_forall_not_mem.2 fun record hr =>
    List.not_mem_nil ((hmem record).1 hr)
  refine ⟨prepared, hensure, ?_, hread⟩
  rw [Tracking.recorded_of_get? hget, hrows]
  exact h

theorem inStep_recordsForRun : Action.InStep (b.UnrecordedSessions ran ran')
    (fun read read' => read = [] ∧ read' = []) (r.recordsForRun false)
    (r.recordsForRun false) := by
  intro s s' hs
  obtain ⟨prepared, hensure, hnone, hexec⟩ := exec_recordsForRun_of_nothing htable hs.recorded
  obtain ⟨prepared', hensure', hnone', hexec'⟩ := exec_recordsForRun_of_nothing htable hs.recorded'
  have hprepared := hs.store.ensure
  rw [hensure, hensure'] at hprepared
  cases hprepared with
  | ok related =>
    rw [hexec, hexec']
    exact ⟨.ok ⟨rfl, rfl⟩, hs.withStore related.2, hnone, hnone'⟩

/-- Where nothing is recorded, the same files are announced as the first batch. -/
theorem inStep_announce (hreal : o.pretend = false) :
    Action.InStep (b.UnrecordedSessions ran ran') Eq (r.announce o []) (r.announce o []) := by
  have hfiles (s s' : Session) (hs : b.UnrecordedSessions ran ran' s s') : s.files = s'.files :=
    hs.files
  have hemit (event : Event) : Action.InStep (b.UnrecordedSessions ran ran') Eq (r.emit event)
      (r.emit event) := by
    intro s s' hs
    obtain ⟨hend, hafter⟩ := inStep_emit event event s s' hs.toAlikeSessions
    rw [exec_emit, exec_emit] at hend hafter ⊢
    exact ⟨hend, hafter, hs.recorded, hs.recorded'⟩
  unfold announce
  refine (inStep_checkNames hfiles o).bind fun _ _ _ => ?_
  rw [hreal]
  refine (inStep_recordsForRun htable).bind fun read read' hread => ?_
  obtain ⟨rfl, rfl⟩ := hread
  refine Action.inStep_inspectFiles_bind hfiles fun _ files _ => ?_
  refine .ite (fun _ => Action.inStep_pure rfl) fun _ => ?_
  refine (Action.inStep_resume _).bind fun batch _ heq => ?_
  subst heq
  exact (hemit _).bind fun _ _ _ => Action.inStep_pure rfl

variable (hups : r.UpsOverlook b)
  (hseeder : ∀ program, r.seeders.get? defaultSeeder = some program → program.Overlooks b)
  (hreal : o.pretend = false)

include hups hseeder hreal

theorem runPending_alike (hs : b.UnrecordedSessions ran ran' s blank) :
    ((r.runPending o []).exec s).1 = ((r.runPending o []).exec blank).1 ∧
      b.AlikeSessions ran ran' ((r.runPending o []).exec s).2
        ((r.runPending o []).exec blank).2 := by
  have hannounced := inStep_announce htable hreal s blank hs
  have happlied (announced announced' : Option (Int64 × List (String × String)))
      (heq : announced = announced') : Action.InStep (b.AlikeSessions ran ran') Eq
        (r.applyAnnounced o announced) (r.applyAnnounced o announced') := by
    subst heq
    exact inStep_applyAnnounced htable hups hseeder hreal announced
  have hboth := Action.InStep.exec_bind_of ⟨hannounced.1, hannounced.2.toAlikeSessions⟩ happlied
  rw [runPending_eq_announce]
  exact ⟨hboth.1.eq, hboth.2⟩

/-- A call of `fresh` goes like a run on a store without tables. -/
theorem fresh_goAlike (hfree : r.IsFree s.store) (hclosed : s.store.snapshot = none)
    (hblank : s.Blanked blank) (hclock : b.AlikeClocks s.clock blank.clock) :
    GoAlike b s blank ((r.fresh o).exec s) ((r.run o).exec blank) := by
  obtain ⟨mutations, hdropped⟩ := exec_freshPending_of_real (r := r) hreal (r.locked s)
  let emptied : Session := { s with store := { s.store with tables := ∅, mutations } }
  have halike : b.AlikeSessions s.invocations blank.invocations emptied blank := by
    refine ⟨hblank.files.symm, ?_, hclock, [], (List.append_nil _).symm, (List.append_nil _).symm⟩
    refine ⟨fun name => ?_, ?_, fun lock => (hblank.isLocked lock).symm, hblank.rejections.symm,
      hblank.features.symm⟩
    · rw [hblank.tables]
      exact .none
    · have hnone : emptied.store.snapshot = none := hclosed
      rw [hblank.snapshot, hnone]
      exact .none
  -- The tables are dropped under the lock, but it may as well be taken afterwards.
  have hlocked : r.locked emptied = { r.locked s with
      store := { (r.locked s).store with tables := ∅, mutations } } := by
    have hheld : emptied.store.isLocked r.config.lockName =
        s.store.isLocked r.config.lockName := rfl
    simp only [locked, Store.acquire, hheld]
    cases r.config.advisoryLock && s.store.lockable <;>
      cases s.store.isLocked r.config.lockName <;> rfl
  have hstart : b.UnrecordedSessions s.invocations blank.invocations
      ((r.locked emptied).journaled (r.printout "Dropped all tables successfully."))
      (r.locked blank) := by
    have htold := halike.locked r
    rw [← Session.journaled_nil (r.locked blank)]
    replace htold := htold.journaled
      ((filterMap_invocation?_printout r "Dropped all tables successfully.").trans
        List.filterMap_nil.symm)
    refine ⟨htold, ?_, ?_⟩
    · simp [Tracking.recorded, Store.rows, emptied]
    · simp [Tracking.recorded, Store.rows, hblank.tables]
  obtain ⟨hresult, hafter⟩ := runPending_alike htable hups hseeder hreal hstart
  obtain ⟨locks, hfresh⟩ := exec_withLock_of_isFree hfree (r.freshPending o)
  obtain ⟨locks', hrun⟩ := exec_withLock_of_isFree (halike.store.isFree hfree) (r.runPending o [])
  rw [fresh, run, hfresh, hrun, hdropped, ← hlocked]
  exact ⟨hresult, hafter.store.tables, hafter.invocations⟩

end Blank

/-- With a free lock and no open transaction, `fresh` goes like a run on a store without tables. If
the clocks agree, the tables are the same afterwards. If they do not, the tables agree apart from
the recorded times, provided that no program depends on these. -/
theorem fresh_forgets_history (hreal : o.pretend = false) (hfree : r.IsFree s.store)
    (hclosed : s.store.snapshot = none) (hblank : s.Blanked blank) :
    let table := r.config.table
    let afresh := (r.fresh o).exec s
    let first := (r.run o).exec blank
    (s.clock = blank.clock → GoAlike (nothing table) s blank afresh first ∧
        afresh.2.store.tables = first.2.store.tables) ∧
      (r.UpsOverlook (times table) →
        (∀ program, r.seeders.get? defaultSeeder = some program → program.Overlooks (times table)) →
        GoAlike (times table) s blank afresh first) := by
  intro table afresh first
  constructor
  · intro hclock
    have halike : GoAlike (nothing table) s blank afresh first :=
      fresh_goAlike rfl (upsOverlook_of_nil rfl r)
        (fun program _ => program.overlooks_of_nil rfl) hreal hfree hclosed hblank (.inr hclock)
    exact ⟨halike, halike.tables.eq rfl⟩
  · intro hups hseeder
    exact fresh_goAlike rfl hups hseeder hreal hfree hclosed hblank
      (.inl (hidesTimes_times table))

/-- The second migration fails, before as well as after everything is dropped, and as it does on a
store without tables at another time. -/
theorem failing_fresh_goes_like_first_run :
    let a : Migration := { up := .request (.createTable "users" []), down := .pure () }
    let b : Migration := {
      up := (Program.request (.raw "BROKEN")).bind fun _ => .pure (), down := .pure () }
    let r : Runner := {
      config := { paths := ["m", "n"], table := "t" }
      migrations := Dict.ofList [("a", a), ("b", b)] }
    let nodes := [(["m"], .directory), (["n"], .directory), (["m", "a.rs"], .file []),
      (["n", "b.rs"], .file [])]
    let store : Store := { rejections := ["BROKEN"], locks := ["backup"] }
    let s := ((r.call (.run {})).exec { store, files := { nodes } }).2
    let blank : Session := { store, files := { nodes }, clock := ⟨7, 0⟩ }
    let afresh := (r.fresh {}).exec s
    let first := (r.run {}).exec blank
    r.IsFree s.store ∧ s.store.snapshot = none ∧ s.Blanked blank ∧
      s.store.listTables = ["t", "users"] ∧
      r.UpsOverlook (times "t") ∧ GoAlike (times "t") s blank afresh first ∧
      afresh.1 = .error (.failed (.execution "b" (.adapter (.rejected "BROKEN" "BROKEN")))) ∧
      afresh.2.store.listTables = ["t", "users"] := by
  intro a b r nodes store s blank afresh first
  have hruns : r.IsFree s.store ∧ s.store.snapshot = none ∧
      s.store.features = store.features ∧ s.store.rejections = store.rejections ∧
      s.store.locks = store.locks ∧ s.store.listTables = ["t", "users"] ∧
      first.1 = .error (.failed (.execution "b" (.adapter (.rejected "BROKEN" "BROKEN")))) ∧
      first.2.store.listTables = ["t", "users"] := by
    decide +kernel +revert
  obtain ⟨hfree, hclosed, hfeatures, hrejections, hlocks, htables, hresult, hleft⟩ := hruns
  have hfiles : s.files = { nodes } := preserves_call r (Session.ignoresNarration_files { nodes })
    (fun _ => r.sustains_files { nodes }) { store, files := { nodes } } rfl
  have hblank : s.Blanked blank :=
    ⟨rfl, rfl, hfiles.symm, hfeatures.symm, hrejections.symm, fun lock => by
      rw [Store.isLocked, Store.isLocked, hlocks]⟩
  have hups : r.UpsOverlook (times "t") := by
    apply BodiesRequest.upsOverlook
    apply BodiesRequest.of_ofList rfl
    intro entry h
    obtain rfl | rfl : entry = ("a", a) ∨ entry = ("b", b) := by simpa using h
    · exact ⟨Program.requests_request fun htable => by simp [times] at htable, trivial⟩
    · exact ⟨.bind (Program.requests_request trivial) fun _ => trivial, trivial⟩
  have halike : GoAlike (times "t") s blank afresh first :=
    (fresh_forgets_history rfl hfree hclosed hblank).2 hups fun _ h => by cases h
  refine ⟨hfree, hclosed, hblank, htables, hups, halike, halike.result.trans hresult, ?_⟩
  rw [← hleft]
  exact Dict.keys_congr halike.tables.contains

/-- What does make a difference. A lock that the first run left behind lets the program of the
migration wait until its time is over. And if a program asks for the time at which another migration
was recorded, it depends on the clock. -/
theorem locks_and_clock_outlive_fresh :
    let nodes := [(["m"], .directory), (["n"], .directory), (["m", "a.rs"], .file []),
      (["n", "b.rs"], .file [])]
    let waiting : Migration := {
      up := (Program.request (.acquire "x" 1000)).bind fun _ => .pure (), down := .pure () }
    let recordedAtSeven : Query := {
      conditions := [⟨"created_at", .eq, .datetime ⟨7, 2000⟩⟩] }
    let asking : Migration := {
      up := .perform (.select "t" recordedAtSeven) fun
        | .ok [] => .pure ()
        | _ => .fail (.adapter .serialization)
      down := .pure () }
    let holder : Runner := {
      config := { paths := ["m"], table := "t", timeout := some 100 }
      migrations := Dict.ofList [("a", waiting)] }
    let asker : Runner := {
      config := { paths := ["m", "n"], table := "t" }
      migrations := Dict.ofList [("a", { up := .pure (), down := .pure () }), ("b", asking)] }
    let held := ((holder.call (.run {})).exec { files := { nodes } }).2
    let asked := ((asker.call (.run {})).exec { files := { nodes } }).2
    let blank (clock : Instant) : Session := { files := { nodes }, clock }
    (holder.IsFree held.store ∧ held.store.snapshot = none ∧ held.files = { nodes } ∧
      held.store.features = (blank held.clock).store.features ∧ held.store.rejections = [] ∧
      ((holder.fresh {}).exec held).1 = .error (.failed (.timeout "a" 100)) ∧
      ((holder.run {}).exec (blank held.clock)).1 =
        .ok { batch := some 1, migrated := ["a"], pretend := false }) ∧
    asker.IsFree asked.store ∧ asked.store.snapshot = none ∧ asked.Blanked (blank ⟨7, 0⟩) ∧
      ((asker.fresh {}).exec asked).1 =
        .ok { batch := some 1, migrated := ["a", "b"], pretend := false } ∧
      ((asker.run {}).exec (blank ⟨7, 0⟩)).1 =
        .error (.failed (.execution "b" (.adapter .serialization))) := by
  intro nodes waiting recordedAtSeven asking holder asker held asked blank
  have hheld : holder.IsFree held.store ∧ held.store.snapshot = none ∧
      held.store.features = (blank held.clock).store.features ∧ held.store.rejections = [] ∧
      ((holder.fresh {}).exec held).1 = .error (.failed (.timeout "a" 100)) ∧
      ((holder.run {}).exec (blank held.clock)).1 =
        .ok { batch := some 1, migrated := ["a"], pretend := false } := by
    decide +kernel +revert
  have hasked : asker.IsFree asked.store ∧ asked.store.snapshot = none ∧
      asked.store.features = (blank ⟨7, 0⟩).store.features ∧ asked.store.rejections = [] ∧
      asked.store.locks = [] ∧
      ((asker.fresh {}).exec asked).1 =
        .ok { batch := some 1, migrated := ["a", "b"], pretend := false } ∧
      ((asker.run {}).exec (blank ⟨7, 0⟩)).1 =
        .error (.failed (.execution "b" (.adapter .serialization))) := by
    decide +kernel +revert
  obtain ⟨hfree, hclosed, hfeatures, hrejections, hdiffer⟩ := hheld
  obtain ⟨hfree', hclosed', hfeatures', hrejections', hlocks', hdiffer'⟩ := hasked
  have hfiles (r : Runner) (s : Session) (hs : s.files = { nodes }) :
      ((r.call (.run {})).exec s).2.files = { nodes } :=
    preserves_call r (Session.ignoresNarration_files { nodes })
      (fun _ => r.sustains_files { nodes }) s hs
  have hblank : asked.Blanked (blank ⟨7, 0⟩) :=
    ⟨rfl, rfl, (hfiles asker _ rfl).symm, hfeatures'.symm, hrejections'.symm, fun lock => by
      rw [Store.isLocked, Store.isLocked, hlocks']⟩
  exact ⟨⟨hfree, hclosed, hfiles holder _ rfl, hfeatures, hrejections, hdiffer⟩, hfree', hclosed',
    hblank, hdiffer'⟩

end Runner

end SchemaMigration

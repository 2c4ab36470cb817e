import SchemaMigration.Proofs.Runner.Fresh
import SchemaMigration.Proofs.Runner.Invariant
import SchemaMigration.Proofs.Runner.Lock
import SchemaMigration.Proofs.Runner.Revert

/-!
# What comes before a run

`refresh` reverts all batches and `fresh` drops all tables, and then both run. Reverting and
dropping take records away and change none of those that are left.
-/

namespace SchemaMigration

namespace Tracking

/-- The tracking table, if there is one, holds numbered records, all of them from a list. -/
structure Within (table : String) (records : List Record) (s : Store) : Prop where
  tracks : ∀ t, s.tables.get? table = some t → t.Tracks
  sublist : (recorded table s).Sublist records

variable {table : String} {records : List Record} {s s' : Store}

theorem Within.of_get?_eq (h : Within table records s)
    (hget : s'.tables.get? table = s.tables.get? table) : Within table records s' where
  tracks t ht := h.tracks t (hget ▸ ht)
  sublist := by
    rw [recorded_congr hget]
    exact h.sublist

theorem within_recorded (htracks : ∀ t, s.tables.get? table = some t → t.Tracks) :
    Within table (recorded table s) s where
  tracks := htracks
  sublist := List.Sublist.refl _

theorem within_of_missing (h : s.tables.get? table = none) : Within table records s where
  tracks t ht := by
    rw [h] at ht
    cases ht
  sublist := by
    rw [recorded, Store.rows, h]
    exact List.nil_sublist records

end Tracking

theorem Session.ignoresNarration_within (table : String) (records : List Record) :
    IgnoresNarration fun s => Tracking.Within table records s.store where
  journaled _ _ _ h := h
  progress _ _ h := h
  clock _ _ h := h
  locks _ _ _ h := h.of_get?_eq rfl

/-- The options of the run that is part of a call, if one is. -/
def Command.options? : Command → Option RunOptions
  | run o | refresh o | fresh o => some o
  | rollback _ | reset _ => none

namespace Runner

/-- What a call does before it runs, and which migrations are then taken to be reverted. -/
def prepare (r : Runner) : Command → Action (List String)
  | .run _ | .rollback _ | .reset _ => return []
  | .refresh o => do
    let result ← r.resetRecords o.pretend
    return if o.pretend then result.rolledBack else []
  | .fresh o => do
    if o.pretend then
      if (← get).store.hasTable r.config.table then Action.read (Tracking.ran r.config.table)
      else return []
    else
      dropTables (← get).store.listTables
      r.say "Dropped all tables successfully."
      return []

/-- The session in which the run of a call begins, and the migrations that are taken to be reverted,
if the call comes as far as that. -/
def runStart? (r : Runner) (c : Command) (s : Session) : Option (List String × Session) :=
  if c.options?.isSome ∧ r.IsFree s.store then
    match (r.prepare c).exec (r.locked s) with
    | (.ok reverted, start) => some (reverted, start)
    | (.error _, _) => none
  else none

variable {r : Runner} {c : Command} {o : RunOptions} {s : Session}

theorem call_eq_prepare (ho : c.options? = some o) :
    r.call c = Report.applied <$> r.withLock (r.prepare c >>= r.runPending o) := by
  cases c with
  | run o' =>
    obtain rfl := Option.some.inj ho
    rfl
  | rollback o' => cases ho
  | reset pretend => cases ho
  | refresh o' =>
    obtain rfl := Option.some.inj ho
    simp only [call, refresh, refreshPending, prepare, bind_assoc, pure_bind]
  | fresh o' =>
    obtain rfl := Option.some.inj ho
    simp only [call, fresh, freshPending, prepare]
    split
    · simp only [bind_assoc]
      refine congrArg _ (congrArg _ (bind_congr fun u => ?_))
      split
      · rfl
      · rfl
    · simp only [bind_assoc, pure_bind]

theorem runStart?_eq_some {reverted : List String} {start : Session} :
    r.runStart? c s = some (reverted, start) ↔
      c.options?.isSome = true ∧ r.IsFree s.store ∧
        (r.prepare c).exec (r.locked s) = (.ok reverted, start) := by
  unfold runStart?
  by_cases h : c.options?.isSome = true ∧ r.IsFree s.store
  · rw [if_pos h]
    cases (r.prepare c).exec (r.locked s) with
    | mk result u => cases result <;> simp [h]
  · rw [if_neg h]
    constructor
    · intro hstart
      cases hstart
    · intro hstart
      exact absurd ⟨hstart.1, hstart.2.1⟩ h

/-- A call goes as its run does, if it comes as far as that. -/
theorem exec_call_of_runStart? {reverted : List String} {start : Session}
    (ho : c.options? = some o) (h : r.runStart? c s = some (reverted, start)) :
    ∃ locks, (r.call c).exec s =
      (((r.runPending o reverted).exec start).1.map Report.applied,
        ((r.runPending o reverted).exec start).2.relocked locks) := by
  obtain ⟨-, hfree, hprepare⟩ := runStart?_eq_some.1 h
  obtain ⟨locks, hlocks⟩ := exec_withLock_of_isFree hfree (r.prepare c >>= r.runPending o)
  use locks
  rw [call_eq_prepare ho, Action.exec_map, hlocks, Action.exec_bind, hprepare]

/-- A real call takes no migrations to be reverted. -/
theorem reverted_eq_nil {reverted : List String} {start : Session} (ho : c.options? = some o)
    (hreal : o.pretend = false) (h : r.runStart? c s = some (reverted, start)) : reverted = [] := by
  obtain ⟨-, -, hprepare⟩ := runStart?_eq_some.1 h
  cases c with
  | run o' =>
    obtain ⟨hnames, -⟩ := Prod.mk.inj hprepare
    exact (Except.ok.inj hnames).symm
  | rollback o' => cases ho
  | reset pretend => cases ho
  | refresh o' =>
    obtain rfl := Option.some.inj ho
    obtain ⟨report, u, -, hpure⟩ := Action.exec_bind_eq_ok.1 hprepare
    rw [hreal] at hpure
    exact (Except.ok.inj (Prod.mk.inj hpure).1).symm
  | fresh o' =>
    obtain rfl := Option.some.inj ho
    simp only [prepare, hreal, Bool.false_eq_true, if_false] at hprepare
    obtain ⟨u, s₁, -, hdrop⟩ := Action.exec_bind_eq_ok.1 hprepare
    obtain ⟨-, s₂, -, hsay⟩ := Action.exec_bind_eq_ok.1 hdrop
    obtain ⟨-, s₃, -, hpure⟩ := Action.exec_bind_eq_ok.1 hsay
    exact (Except.ok.inj (Prod.mk.inj hpure).1).symm

/-- Narration keeps a tracking table that is there. -/
theorem ignoresNarration_present (r : Runner) (records : List Record) :
    Session.IgnoresNarration fun s => s.store.hasTable r.config.table = true ∧
      Tracking.Within r.config.table records s.store :=
  (Session.ignoresNarration_hasTable _).and (Session.ignoresNarration_within _ _)

section Preserves

variable {I : Session → Prop} (r : Runner) (hreset : ∀ pretend, (r.resetRecords pretend).Preserves I)
  (hdrop : ∀ tables, (dropTables tables).Preserves I)

include hreset hdrop

theorem preserves_prepare (hI : r.Tolerates I) (c : Command) : (r.prepare c).Preserves I := by
  cases c with
  | run | rollback | reset => exact Action.preserves_pure _
  | refresh o => exact .bind (hreset o.pretend) fun _ => Action.preserves_pure _
  | fresh o =>
    apply Action.Preserves.ite
    · intro _
      exact .bind Action.preserves_get fun _ =>
        .ite (fun _ => Action.preserves_read _) fun _ => Action.preserves_pure _
    · intro _
      exact .bind Action.preserves_get fun _ => .bind (hdrop _) fun _ =>
        .bind (hI.say _) fun _ => Action.preserves_pure _

/-- What holds before a call that does not come as far as its run holds afterwards, if reverting and
dropping preserve it. -/
theorem call_of_runStart?_eq_none (hI : Session.IgnoresNarration I)
    (hrollback : ∀ o, (r.rollbackRecords o).Preserves I)
    (h : r.runStart? c s = none) (hs : I s) : I ((r.call c).exec s).2 := by
  cases ho : c.options? with
  | none =>
    cases c with
    | run | refresh | fresh => cases ho
    | rollback o => exact Action.Preserves.map _ (preserves_withLock hI r (hrollback o)) s hs
    | reset pretend => exact Action.Preserves.map _ (preserves_withLock hI r (hreset pretend)) s hs
  | some o =>
    rw [call_eq_prepare ho, Action.exec_map]
    by_cases hfree : r.IsFree s.store
    · obtain ⟨locks, hlocks⟩ := exec_withLock_of_isFree hfree (r.prepare c >>= r.runPending o)
      have hlocked : I (r.locked s) := by
        obtain ⟨locks, n, hlocked⟩ := r.locked_eq s
        rw [hlocked]
        exact hI.locks s locks n hs
      have hprepared := preserves_prepare r hreset hdrop (tolerates hI r) c (r.locked s) hlocked
      rw [hlocks, Action.exec_bind]
      cases hprepare : (r.prepare c).exec (r.locked s) with
      | mk result u =>
        rw [hprepare] at hprepared
        cases result with
        | error fault => exact hI.locks u locks u.store.lockAcquisitions hprepared
        | ok reverted =>
          have hstart := runStart?_eq_some.2 ⟨by rw [ho]; rfl, hfree, hprepare⟩
          rw [h] at hstart
          cases hstart
    · rw [exec_withLock_of_not_isFree hfree]
      exact hs

end Preserves

theorem files_prepare (r : Runner) (c : Command) (s : Session) :
    ((r.prepare c).exec s).2.files = s.files := by
  have htold := tolerates (Session.ignoresNarration_files s.files) r
  have hreset (pretend : Bool) : (r.resetRecords pretend).Preserves fun u => u.files = s.files :=
    preserves_resetRecords r htold fun t _ _ u hu => (files_execute r t u).trans hu
  exact preserves_prepare r hreset
    (preserves_dropTables r (r.sustains_files s.files).toSustainsUnseeded) htold c s rfl

section Within

variable {records : List Record}

section Bodies

variable (hbodies : r.BodiesRequest (Operation.Spares r.config.table))

include hbodies

/-- Reverting a migration leaves the records of the others. -/
theorem execute_within {t : Task} (hdown : t.direction = .down) :
    (r.execute t).Preserves fun s => s.store.hasTable r.config.table = true ∧
      Tracking.Within r.config.table records s.store := by
  intro s hs
  cases hpretend : t.pretend with
  | true =>
    exact preserves_execute r (tolerates (ignoresNarration_present r records) r) (by simp) hpretend s hs
  | false =>
    obtain ⟨tracking, hget⟩ := Store.hasTable_eq_true.1 hs.1
    have htracks := hs.2.tracks tracking hget
    obtain ⟨result, s', hexec, -, hends, -⟩ :=
      execute_ends hbodies hpretend hget htracks fun hup => by simp [hdown] at hup
    rw [hexec]
    cases result with
    | error fault =>
      exact ⟨Store.hasTable_eq_true.2 ⟨tracking, hends.2.trans hget⟩, hs.2.of_get?_eq hends.2⟩
    | ok =>
      obtain ⟨tracking', hget', htracks', hrows⟩ := hends.table hbodies hget htracks
      rw [hdown] at hrows
      constructor
      · exact Store.hasTable_eq_true.2 ⟨tracking', hget'⟩
      · constructor
        · exact Tracking.tracks_of_get? hget' htracks'
        · have hsublist := hs.2.sublist
          rw [Tracking.recorded_of_get? hget] at hsublist
          rw [Tracking.recorded_of_get? hget', hrows]
          exact (List.filter_sublist.map _).trans hsublist

theorem rollbackRecords_within (o : RollbackOptions) :
    (r.rollbackRecords o).Preserves fun s => Tracking.Within r.config.table records s.store := by
  intro s hs
  cases htable : s.store.hasTable r.config.table with
  | false =>
    rw [exec_rollbackRecords_of_no_table (Store.hasTable_eq_false.1 htable)]
    exact hs
  | true =>
    exact (preserves_rollbackRecords r (tolerates (ignoresNarration_present r records) r)
      (fun _ hdown _ => execute_within hbodies hdown) rfl s ⟨htable, hs⟩).2

theorem resetRecords_within (pretend : Bool) :
    (r.resetRecords pretend).Preserves fun s =>
      Tracking.Within r.config.table records s.store := by
  intro s hs
  cases htable : s.store.hasTable r.config.table with
  | false =>
    rw [exec_resetRecords_of_no_table (Store.hasTable_eq_false.1 htable)]
    exact hs
  | true =>
    exact (preserves_resetRecords r (tolerates (ignoresNarration_present r records) r)
      (fun _ hdown _ => execute_within hbodies hdown) s ⟨htable, hs⟩).2

end Bodies

theorem dropTables_within (tables : List String) :
    (dropTables tables).Preserves fun s => Tracking.Within r.config.table records s.store := by
  intro s hs
  obtain ⟨after, mutations, hdrop, hget⟩ := exec_dropTables tables s
  rw [hdrop]
  by_cases hlisted : r.config.table ∈ tables
  · apply Tracking.within_of_missing
    exact (hget r.config.table).trans (if_pos hlisted)
  · apply hs.of_get?_eq
    exact (hget r.config.table).trans (if_neg hlisted)

/-- What comes before a run leaves no records but those that there were. -/
theorem prepare_within (hbodies : r.BodiesRequest (Operation.Spares r.config.table)) (c : Command) :
    (r.prepare c).Preserves fun s => Tracking.Within r.config.table records s.store :=
  preserves_prepare r (resetRecords_within hbodies) dropTables_within
    (tolerates (Session.ignoresNarration_within _ _) r) c

/-- A call that does not come as far as its run leaves no records but those that there were. -/
theorem call_within (hbodies : r.BodiesRequest (Operation.Spares r.config.table))
    (h : r.runStart? c s = none)
    (hs : Tracking.Within r.config.table records s.store) :
    Tracking.Within r.config.table records ((r.call c).exec s).2.store :=
  call_of_runStart?_eq_none r (resetRecords_within hbodies) dropTables_within
    (Session.ignoresNarration_within _ _) (rollbackRecords_within hbodies) h hs

end Within

end Runner

end SchemaMigration

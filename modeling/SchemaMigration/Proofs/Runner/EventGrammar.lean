import SchemaMigration.Proofs.Dict
import SchemaMigration.Proofs.Runner.Command
import SchemaMigration.Proofs.Runner.Emission
import SchemaMigration.Proofs.Runner.Revert

/-!
# The grammar of events

What a call tells: a run announces a batch, tells of each of its migrations in order up to the first
that fails, and says that the batch is over if none does; a rollback does the same with what is to be
reverted, and a refresh is a rollback and then a run. Each word of this grammar has the pretence of
the call, and in each an attempt is followed by how it ends, which is what the progress keeps.
-/

namespace SchemaMigration

namespace Task

variable (t : Task) (elapsed : Nat)

@[simp] theorem pretend_startEvent : t.startEvent.pretend = t.pretend := by
  rw [startEvent]
  cases t.direction <;> rfl

@[simp] theorem pretend_endEvent : (t.endEvent elapsed).pretend = t.pretend := by
  rw [endEvent]
  cases t.direction <;> rfl

@[simp] theorem attempt?_startEvent : t.startEvent.attempt? = some t.name := by
  rw [startEvent]
  cases t.direction <;> rfl

@[simp] theorem outcome?_startEvent : t.startEvent.outcome? = none := by
  rw [startEvent]
  cases t.direction <;> rfl

@[simp] theorem attempt?_endEvent : (t.endEvent elapsed).attempt? = none := by
  rw [endEvent]
  cases t.direction <;> rfl

@[simp] theorem outcome?_endEvent :
    (t.endEvent elapsed).outcome? = some (t.name, ⟨true, none⟩) := by
  rw [endEvent]
  cases t.direction <;> rfl

end Task

/-- What is told of a task, and how it ends. If a number leaves its range, no more is told. -/
inductive Task.Recounts (t : Task) : Except Fault Unit → List Event → Prop where
  /-- The task is done. -/
  | completed (elapsed : Nat) : t.Recounts (.ok ()) [t.startEvent, t.endEvent elapsed]
  /-- The task fails. -/
  | failed (e : Error) : t.Recounts (.error (.failed e))
      [t.startEvent, .error t.name t.direction e.message t.pretend]
  /-- A number leaves its range. -/
  | overflown : t.Recounts (.error .overflow) [t.startEvent]

/-- What is told of tasks that are carried out in order, up to the first that is not done. -/
inductive RecountsAll : List Task → Except Fault Unit → List Event → Prop where
  /-- All tasks are done. -/
  | nil : RecountsAll [] (.ok ()) []
  /-- A task is done, and then there are others. -/
  | cons {t : Task} {rest : List Task} {word later : List Event} {result : Except Fault Unit}
      (first : t.Recounts (.ok ()) word) (others : RecountsAll rest result later) :
      RecountsAll (t :: rest) result (word ++ later)
  /-- A task is not done. -/
  | stopped {t : Task} {rest : List Task} {word : List Event} {fault : Fault}
      (first : t.Recounts (.error fault) word) : RecountsAll (t :: rest) (.error fault) word

/-- The tasks of applying files as a batch. -/
def upTasks (batch : Int64) (pretend : Bool) (selected : List (String × String)) : List Task :=
  selected.map fun file => { Runner.applying batch file with pretend }

/-- The tasks of reverting the records that have a file. -/
def downTasks (files : Dict String) (pretend : Bool) (records : List Record) : List Task :=
  records.filterMap fun record => (files.get? record.migration).map fun path =>
    { Runner.reverting record path with pretend }

section

variable {files : Dict String} {record : Record}

theorem downTasks_of_none (h : files.get? record.migration = none) (pretend : Bool)
    (rest : List Record) :
    downTasks files pretend (record :: rest) = downTasks files pretend rest := by
  simp [downTasks, h]

theorem downTasks_of_some {path : String} (h : files.get? record.migration = some path)
    (pretend : Bool) (rest : List Record) :
    downTasks files pretend (record :: rest) =
      { Runner.reverting record path with pretend } :: downTasks files pretend rest := by
  simp [downTasks, h]

end

/-- What is told of reverting records is told of those that have a file; the report says which. -/
def RecountsReverts (files : Dict String) (pretend : Bool) (records : List Record)
    (result : Except Fault RollbackResult) (word : List Event) : Prop :=
  ∃ reverted, RecountsAll (downTasks files pretend records) reverted word ∧
    result = reverted.map fun _ => Runner.revertReport files pretend records

namespace RecountsReverts

variable {files : Dict String} {pretend : Bool} {record : Record} {rest : List Record}
  {result : Except Fault RollbackResult} {first word : List Event} {path : String}

theorem passOver (hfile : files.get? record.migration = none)
    (h : RecountsReverts files pretend rest result word) :
    RecountsReverts files pretend (record :: rest)
      ((fun report => { report with skippedMissing := record.migration :: report.skippedMissing })
        <$> result) word := by
  obtain ⟨reverted, hword, rfl⟩ := h
  refine ⟨reverted, downTasks_of_none hfile pretend rest ▸ hword, ?_⟩
  rw [Runner.revertReport_of_none hfile]
  cases reverted <;> rfl

theorem afterTask (hfile : files.get? record.migration = some path)
    (hfirst : Task.Recounts { Runner.reverting record path with pretend } (.ok ()) first)
    (h : RecountsReverts files pretend rest result word) :
    RecountsReverts files pretend (record :: rest)
      ((fun report => { report with rolledBack := record.migration :: report.rolledBack })
        <$> result) (first ++ word) := by
  obtain ⟨reverted, hword, rfl⟩ := h
  refine ⟨reverted, downTasks_of_some hfile pretend rest ▸ .cons hfirst hword, ?_⟩
  rw [Runner.revertReport_of_some hfile]
  cases reverted <;> rfl

theorem stopped {fault : Fault} (hfile : files.get? record.migration = some path)
    (hfirst : Task.Recounts { Runner.reverting record path with pretend } (.error fault) first) :
    RecountsReverts files pretend (record :: rest) (.error fault) first :=
  ⟨.error fault, downTasks_of_some hfile pretend rest ▸ .stopped hfirst, rfl⟩

theorem of_ok {report : RollbackResult} {records : List Record}
    (h : RecountsReverts files pretend records (.ok report) word) :
    report = Runner.revertReport files pretend records ∧
      RecountsAll (downTasks files pretend records) (.ok ()) word := by
  obtain ⟨_ | ⟨⟩, hword, hreport⟩ := h
  · cases hreport
  · exact ⟨Except.ok.inj hreport, hword⟩

theorem of_error {fault : Fault} {records : List Record}
    (h : RecountsReverts files pretend records (.error fault) word) :
    RecountsAll (downTasks files pretend records) (.error fault) word := by
  obtain ⟨_ | ⟨⟩, hword, hfault⟩ := h
  · rwa [Except.error.inj hfault]
  · cases hfault

end RecountsReverts

/-- What a run tells, and how it ends. -/
inductive RunTells (o : RunOptions) : Except Fault RunResult → List Event → Prop where
  /-- It applies nothing, or it fails before it applies anything. -/
  | nothing {result : Except Fault RunResult} (idle : ∀ report, result = .ok report →
      report = { batch := none, migrated := [], pretend := o.pretend }) : RunTells o result []
  /-- It applies a batch. After that only a seeder can fail. -/
  | completed {batch : Int64} {selected : List (String × String)} {word : List Event}
      {result : Except Fault RunResult} (due : selected ≠ [])
      (applied : RecountsAll (upTasks batch o.pretend selected) (.ok ()) word)
      (reported : ∀ report, result = .ok report → report =
        { batch := some batch, migrated := selected.map (·.1), pretend := o.pretend })
      (unseeded : ∀ fault, result = .error fault → o.seed = true ∧ o.pretend = false) :
      RunTells o result (.batchStarted batch (selected.map (·.1)) o.pretend ::
        (word ++ [.batchCompleted batch (selected.map (·.1)) o.pretend]))
  /-- It applies a batch up to a file that fails. -/
  | stopped {batch : Int64} {selected : List (String × String)} {word : List Event}
      {fault : Fault} (applied : RecountsAll (upTasks batch o.pretend selected) (.error fault) word) :
      RunTells o (.error fault) (.batchStarted batch (selected.map (·.1)) o.pretend :: word)

/-- A run that fails at once tells nothing. -/
theorem RunTells.refused {o : RunOptions} (fault : Fault) : RunTells o (.error fault) [] :=
  .nothing nofun

/-- What a rollback tells when files are found, and how it ends. -/
inductive RollbackTells (found : Except Error (Dict String)) (pretend : Bool) :
    Except Fault RollbackResult → List Event → Prop where
  /-- It reverts nothing, or it fails before it reverts anything. -/
  | nothing {result : Except Fault RollbackResult}
      (idle : ∀ report, result = .ok report → report = { pretend }) :
      RollbackTells found pretend result []
  /-- It reverts the records that have a file. -/
  | completed {files : Dict String} {records : List Record} {word : List Event}
      (discovered : found = .ok files) (chosen : records ≠ [])
      (reverted : RecountsAll (downTasks files pretend records) (.ok ()) word) :
      RollbackTells found pretend (.ok (Runner.revertReport files pretend records))
        (.rollbackStarted (records.map (·.migration)) pretend :: (word ++
          [.rollbackCompleted (Runner.revertReport files pretend records).rolledBack pretend]))
  /-- It reverts records up to one that fails. -/
  | stopped {files : Dict String} {records : List Record} {word : List Event} {fault : Fault}
      (discovered : found = .ok files)
      (reverted : RecountsAll (downTasks files pretend records) (.error fault) word) :
      RollbackTells found pretend (.error fault)
        (.rollbackStarted (records.map (·.migration)) pretend :: word)

/-- A rollback that fails at once tells nothing. -/
theorem RollbackTells.refused {found : Except Error (Dict String)} {pretend : Bool}
    (fault : Fault) : RollbackTells found pretend (.error fault) [] :=
  .nothing nofun

/-- What a call tells when files are found, and how it ends. -/
inductive Command.Tells (found : Except Error (Dict String)) :
    Command → Except Fault Report → List Event → Prop where
  /-- A run. -/
  | run {o : RunOptions} {result : Except Fault RunResult} {word : List Event}
      (told : RunTells o result word) : Tells found (.run o) (result.map .applied) word
  /-- A rollback. -/
  | rollback {o : RollbackOptions} {result : Except Fault RollbackResult} {word : List Event}
      (told : RollbackTells found o.pretend result word) :
      Tells found (.rollback o) (result.map .reverted) word
  /-- A reset tells what a rollback does. -/
  | reset {pretend : Bool} {result : Except Fault RollbackResult} {word : List Event}
      (told : RollbackTells found pretend result word) :
      Tells found (.reset pretend) (result.map .reverted) word
  /-- A refresh tells what a rollback does, and then what a run does. -/
  | refresh {o : RunOptions} {report : RollbackResult} {result : Except Fault RunResult}
      {word later : List Event} (reverted : RollbackTells found o.pretend (.ok report) word)
      (applied : RunTells o result later) :
      Tells found (.refresh o) (result.map .applied) (word ++ later)
  /-- If it cannot revert all, it does not run. -/
  | unreverted {o : RunOptions} {fault : Fault} {word : List Event}
      (told : RollbackTells found o.pretend (.error fault) word) :
      Tells found (.refresh o) (.error fault) word
  /-- Dropping tables tells nothing. -/
  | fresh {o : RunOptions} {result : Except Fault RunResult} {word : List Event}
      (told : RunTells o result word) : Tells found (.fresh o) (result.map .applied) word

/-! The pretence of what is told. -/

section Pretend

variable {p : Bool} {word : List Event}

theorem Task.Recounts.pretend {t : Task} {result : Except Fault Unit} (h : t.Recounts result word) :
    ∀ event ∈ word, event.pretend = t.pretend := by
  cases h with
  | completed elapsed => simp
  | failed e =>
    have herror : (Event.error t.name t.direction e.message t.pretend).pretend = t.pretend := rfl
    simp [herror]
  | overflown => simp

theorem RecountsAll.pretend {tasks : List Task} {result : Except Fault Unit}
    (h : RecountsAll tasks result word) (htasks : ∀ t ∈ tasks, t.pretend = p) :
    ∀ event ∈ word, event.pretend = p := by
  induction h with
  | nil => simp
  | cons first others ih =>
    have hfirst := first.pretend
    have hrest := ih fun t ht => htasks t (List.mem_cons_of_mem _ ht)
    rw [htasks _ List.mem_cons_self] at hfirst
    exact List.forall_mem_append.2 ⟨hfirst, hrest⟩
  | stopped first => exact htasks _ List.mem_cons_self ▸ first.pretend

theorem upTasks_pretend (batch : Int64) (selected : List (String × String)) :
    ∀ t ∈ upTasks batch p selected, t.pretend = p :=
  List.forall_mem_map.2 fun _ _ => rfl

theorem downTasks_pretend (files : Dict String) (records : List Record) :
    ∀ t ∈ downTasks files p records, t.pretend = p := by
  intro t ht
  obtain ⟨record, -, hrecord⟩ := List.mem_filterMap.1 ht
  obtain ⟨path, -, rfl⟩ := Option.map_eq_some_iff.1 hrecord
  rfl

theorem RunTells.pretend {o : RunOptions} {result : Except Fault RunResult}
    (h : RunTells o result word) : ∀ event ∈ word, event.pretend = o.pretend := by
  cases h with
  | nothing => simp
  | completed _ applied =>
    have happlied := applied.pretend (upTasks_pretend _ _)
    simpa [Event.pretend, or_imp, forall_and] using happlied
  | stopped applied =>
    have happlied := applied.pretend (upTasks_pretend _ _)
    simpa [Event.pretend] using happlied

theorem RollbackTells.pretend {found : Except Error (Dict String)}
    {result : Except Fault RollbackResult} (h : RollbackTells found p result word) :
    ∀ event ∈ word, event.pretend = p := by
  cases h with
  | nothing => simp
  | completed _ _ reverted =>
    have hreverted := reverted.pretend (downTasks_pretend _ _)
    simpa [Event.pretend, or_imp, forall_and] using hreverted
  | stopped _ reverted =>
    have hreverted := reverted.pretend (downTasks_pretend _ _)
    simpa [Event.pretend] using hreverted

/-- All that a call tells has the pretence of the call. -/
theorem Command.Tells.pretend {found : Except Error (Dict String)} {c : Command}
    {result : Except Fault Report} (h : c.Tells found result word) :
    ∀ event ∈ word, event.pretend = c.pretend := by
  cases h with
  | run told | fresh told => exact told.pretend
  | rollback told | reset told | unreverted told => exact told.pretend
  | refresh reverted applied => exact List.forall_mem_append.2 ⟨reverted.pretend, applied.pretend⟩

end Pretend

/-! Attempts and how they end. -/

/-- Words in which each attempt is followed by how it ends. -/
inductive Paired : List Event → Prop where
  /-- Nothing is told. -/
  | nil : Paired []
  /-- An event that is not about a single migration. -/
  | other {event : Event} {rest : List Event} (hattempt : event.attempt? = none)
      (houtcome : event.outcome? = none) (others : Paired rest) : Paired (event :: rest)
  /-- A migration is attempted, and this ends. -/
  | task {start stop : Event} {rest : List Event} {migration : String} {result : MigrationResult}
      (hstart : start.attempt? = some migration) (hopen : start.outcome? = none)
      (hattempt : stop.attempt? = none) (hstop : stop.outcome? = some (migration, result))
      (others : Paired rest) : Paired (start :: stop :: rest)

/-- How a migration ended the last time, as far as events say so. -/
def lastResult? (word : List Event) (migration : String) : Option MigrationResult :=
  ((word.filterMap Event.outcome?).reverse.find? fun outcome => outcome.1 == migration).map (·.2)

/-- No migration is being run. -/
def Progress.AtRest (p : Progress) : Prop :=
  p.isRunning = false ∧ p.current = none

/-- A progress keeps what events tell: no migration is being run, each that was attempted ended as it
did the last time, and the others as they did before. -/
structure Progress.Keeps (before : Progress) (word : List Event) (after : Progress) : Prop where
  atRest : before.AtRest ∨ word.filterMap Event.attempt? ≠ [] → after.AtRest
  attempted : ∀ migration ∈ word.filterMap Event.attempt?, ∃ result,
    lastResult? word migration = some result ∧ after.results.get? migration = some result
  others : ∀ migration ∉ word.filterMap Event.attempt?,
    after.results.get? migration = before.results.get? migration

namespace Paired

variable {word rest : List Event}

theorem append (h : Paired word) (hrest : Paired rest) : Paired (word ++ rest) := by
  induction h with
  | nil => exact hrest
  | other hattempt houtcome _ ih => exact .other hattempt houtcome ih
  | task hstart hopen hattempt hstop _ ih => exact .task hstart hopen hattempt hstop ih

/-- What ends is what was attempted. -/
theorem attempts (h : Paired word) :
    word.filterMap Event.attempt? = (word.filterMap Event.outcome?).map (·.1) := by
  induction h with
  | nil => rfl
  | other hattempt houtcome _ ih => simp [hattempt, houtcome, ih]
  | task hstart hopen hattempt hstop _ ih => simp [hstart, hopen, hattempt, hstop, ih]

theorem isSome_lastResult? (h : Paired word) (migration : String) :
    (lastResult? word migration).isSome ↔ migration ∈ word.filterMap Event.attempt? := by
  rw [h.attempts, lastResult?, Option.isSome_map, List.find?_isSome, List.mem_map]
  simp only [List.mem_reverse, beq_iff_eq]

theorem follow_task {start stop : Event} {migration : String} {result : MigrationResult}
    (hstart : start.attempt? = some migration) (hattempt : stop.attempt? = none)
    (hstop : stop.outcome? = some (migration, result)) (p : Progress) :
    (p.follow start).follow stop = (p.start migration).complete result := by
  simp only [Progress.follow, hstart, hattempt, hstop]

/-- How each migration ends is noted, one after the other. -/
theorem results (h : Paired word) (p : Progress) :
    (word.foldl Progress.follow p).results =
      (word.filterMap Event.outcome?).foldl (fun d e => d.insert e.1 e.2) p.results := by
  induction h generalizing p with
  | nil => rfl
  | other hattempt houtcome _ ih =>
    rw [List.foldl_cons, Progress.follow_of_none hattempt houtcome, ih,
      List.filterMap_cons_none houtcome]
  | task hstart hopen hattempt hstop _ ih =>
    rw [List.foldl_cons, List.foldl_cons, follow_task hstart hattempt hstop, ih,
      List.filterMap_cons_none hopen, List.filterMap_cons_some hstop]
    rfl

/-- What was at rest is at rest again, and so is what ran a migration. -/
theorem atRest (h : Paired word) {p : Progress}
    (hrest : p.AtRest ∨ word.filterMap Event.attempt? ≠ []) :
    (word.foldl Progress.follow p).AtRest := by
  induction h generalizing p with
  | nil => exact hrest.resolve_right fun hne => hne rfl
  | other hattempt houtcome _ ih =>
    rw [List.filterMap_cons_none hattempt] at hrest
    rw [List.foldl_cons, Progress.follow_of_none hattempt houtcome]
    exact ih hrest
  | @task _ _ _ migration result hstart _ hattempt hstop _ ih =>
    rw [List.foldl_cons, List.foldl_cons, follow_task hstart hattempt hstop]
    have hended : ((p.start migration).complete result).AtRest := by
      refine ⟨?_, rfl⟩
      unfold Progress.complete Progress.isRunning
      cases result.success <;> rfl
    exact ih (.inl hended)

theorem keeps (h : Paired word) (p : Progress) : p.Keeps word (word.foldl Progress.follow p) where
  atRest := h.atRest
  attempted migration hmem := by
    obtain ⟨result, hresult⟩ := Option.isSome_iff_exists.1 ((h.isSome_lastResult? migration).2 hmem)
    refine ⟨result, hresult, ?_⟩
    rw [h.results, Dict.get?_foldl_insert]
    change (lastResult? word migration).or _ = _
    rw [hresult, Option.some_or]
  others migration hmem := by
    have hnone := Option.not_isSome_iff_eq_none.1 (mt (h.isSome_lastResult? migration).1 hmem)
    rw [h.results, Dict.get?_foldl_insert]
    change (lastResult? word migration).or _ = _
    rw [hnone, Option.none_or]

end Paired

section Paired

variable {word : List Event}

theorem Task.Recounts.paired {t : Task} {result : Except Fault Unit} (h : t.Recounts result word)
    (hreturns : result ≠ .error .overflow) : Paired word := by
  cases h with
  | completed elapsed =>
    exact .task t.attempt?_startEvent t.outcome?_startEvent (t.attempt?_endEvent elapsed)
      (t.outcome?_endEvent elapsed) .nil
  | failed e => exact .task t.attempt?_startEvent t.outcome?_startEvent rfl rfl .nil
  | overflown => exact absurd rfl hreturns

theorem RecountsAll.paired {tasks : List Task} {result : Except Fault Unit}
    (h : RecountsAll tasks result word) (hreturns : result ≠ .error .overflow) : Paired word := by
  induction h with
  | nil => exact .nil
  | cons first _ ih => exact (first.paired nofun).append (ih hreturns)
  | stopped first => exact first.paired hreturns

theorem RunTells.paired {o : RunOptions} {result : Except Fault RunResult}
    (h : RunTells o result word) (hreturns : result ≠ .error .overflow) : Paired word := by
  cases h with
  | nothing => exact .nil
  | completed _ applied =>
    exact .other rfl rfl ((applied.paired nofun).append (.other rfl rfl .nil))
  | stopped applied =>
    apply Paired.other rfl rfl
    apply applied.paired
    rintro ⟨⟩
    exact hreturns rfl

theorem RollbackTells.paired {found : Except Error (Dict String)} {pretend : Bool}
    {result : Except Fault RollbackResult} (h : RollbackTells found pretend result word)
    (hreturns : result ≠ .error .overflow) : Paired word := by
  cases h with
  | nothing => exact .nil
  | completed _ _ reverted =>
    exact .other rfl rfl ((reverted.paired nofun).append (.other rfl rfl .nil))
  | stopped _ reverted =>
    apply Paired.other rfl rfl
    apply reverted.paired
    rintro ⟨⟩
    exact hreturns rfl

/-- If a call returns, it told how each attempt ended. -/
theorem Command.Tells.paired {found : Except Error (Dict String)} {c : Command}
    {result : Except Fault Report} (h : c.Tells found result word)
    (hreturns : result ≠ .error .overflow) : Paired word := by
  cases h with
  | run told | fresh told | rollback told | reset told =>
    apply told.paired
    rintro rfl
    exact hreturns rfl
  | refresh reverted applied =>
    apply (reverted.paired nofun).append
    apply applied.paired
    rintro rfl
    exact hreturns rfl
  | unreverted told =>
    apply told.paired
    rintro ⟨⟩
    exact hreturns rfl

end Paired

end SchemaMigration

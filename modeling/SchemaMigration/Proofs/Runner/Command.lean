import SchemaMigration.Runner.Rollback

/-!
# Commands

The five calls that apply or revert migrations, as one type, so that what holds of all of them can
be stated once. Each has a pretence, the same call in which nothing is really done.
-/

namespace SchemaMigration

/-- A call that applies or reverts migrations. -/
inductive Command where
  /-- Apply the pending migrations. -/
  | run (o : RunOptions)
  /-- Revert migrations. -/
  | rollback (o : RollbackOptions)
  /-- Revert all batches. -/
  | reset (pretend : Bool)
  /-- Revert all batches and apply all migrations. -/
  | refresh (o : RunOptions)
  /-- Drop all tables and apply all migrations. -/
  | fresh (o : RunOptions)
deriving DecidableEq

/-- What a call reports. -/
inductive Report where
  /-- What was applied. -/
  | applied (result : RunResult)
  /-- What was reverted. -/
  | reverted (result : RollbackResult)
deriving DecidableEq

namespace Command

/-- Whether nothing is really done. -/
def pretend : Command → Bool
  | run o | refresh o | fresh o => o.pretend
  | rollback o => o.pretend
  | reset pretend => pretend

/-- The same call, in which nothing is really done. -/
def pretence : Command → Command
  | run o => run { o with pretend := true }
  | rollback o => rollback { o with pretend := true }
  | reset _ => reset true
  | refresh o => refresh { o with pretend := true }
  | fresh o => fresh { o with pretend := true }

end Command

/-- The same report of a call in which nothing was really done. -/
def Report.pretence : Report → Report
  | applied result => applied { result with pretend := true }
  | reverted result => reverted { result with pretend := true }

/-- Carries a call out. -/
def Runner.call (r : Runner) : Command → Action Report
  | .run o => Report.applied <$> r.run o
  | .rollback o => Report.reverted <$> r.rollback o
  | .reset pretend => Report.reverted <$> r.reset pretend
  | .refresh o => Report.applied <$> r.refresh o
  | .fresh o => Report.applied <$> r.fresh o

end SchemaMigration

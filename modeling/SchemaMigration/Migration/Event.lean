import SchemaMigration.Error
import SchemaMigration.Migration.SectionFile

/-!
# Events

What happens while migrations are run is told to listeners. All listeners hear every event, and what
they return changes nothing.
-/

namespace SchemaMigration

/-- Something that happens while migrations are run. -/
inductive Event where
  /-- A batch begins. -/
  | batchStarted (batch : Int64) (migrations : List String) (pretend : Bool)
  /-- A migration is about to be applied. -/
  | migrating (migration : String) (batch : Int64) (pretend : Bool)
  /-- A migration was applied, in some milliseconds. -/
  | migrated (migration : String) (batch : Int64) (elapsed : Nat) (pretend : Bool)
  /-- A rollback begins. -/
  | rollbackStarted (migrations : List String) (pretend : Bool)
  /-- A migration is about to be reverted. -/
  | rollingBack (migration : String) (batch : Int64) (pretend : Bool)
  /-- A migration was reverted, in some milliseconds. -/
  | rolledBack (migration : String) (batch : Int64) (elapsed : Nat) (pretend : Bool)
  /-- A rollback is over. -/
  | rollbackCompleted (rolledBack : List String) (pretend : Bool)
  /-- A migration failed. -/
  | error (migration : String) (direction : Direction) (message : String) (pretend : Bool)
  /-- A batch is over. -/
  | batchCompleted (batch : Int64) (migrated : List String) (pretend : Bool)
deriving DecidableEq

namespace Event

/-- The name of an event. -/
def name : Event → String
  | batchStarted .. => "batch_started"
  | migrating .. => "migrating"
  | migrated .. => "migrated"
  | rollbackStarted .. => "rollback_started"
  | rollingBack .. => "rolling_back"
  | rolledBack .. => "rolled_back"
  | rollbackCompleted .. => "rollback_completed"
  | error .. => "error"
  | batchCompleted .. => "batch_completed"

/-- Whether nothing is really done. -/
def pretend : Event → Bool
  | batchStarted _ _ p | migrating _ _ p | migrated _ _ _ p | rollbackStarted _ p
  | rollingBack _ _ p | rolledBack _ _ _ p | rollbackCompleted _ p | error _ _ _ p
  | batchCompleted _ _ p => p

/-- The migration that an event is about, if it is about one. -/
def migration? : Event → Option String
  | migrating m _ _ | migrated m _ _ _ | rollingBack m _ _ | rolledBack m _ _ _
  | error m _ _ _ => some m
  | _ => none

end Event

/-- A listener, which may fail to take an event in. -/
abbrev Listener := Event → Except Error Unit

/-- An event in the ears of one listener. -/
structure Delivery where
  /-- The index of the listener. -/
  listener : Nat
  /-- The event. -/
  event : Event
  /-- What the listener returned. -/
  result : Except Error Unit

/-- The deliveries of an event to the listeners from an index on. -/
def deliverFrom (index : Nat) (event : Event) : List Listener → List Delivery
  | [] => []
  | listener :: rest => ⟨index, event, listener event⟩ :: deliverFrom (index + 1) event rest

/-- The deliveries of an event to all listeners in order. -/
def deliver (listeners : List Listener) (event : Event) : List Delivery :=
  deliverFrom 0 event listeners

end SchemaMigration

import SchemaMigration.Value.Basic

/-!
# The order of values

`Value.compare?` orders two values if they are of comparable kinds: an absent value comes first,
numbers compare by their value, and texts that spell a number compare with numbers but not with each
other as numbers. A `Comparison` says which outcomes a condition accepts.
-/

namespace SchemaMigration

namespace Value

/-- The order of two whole numbers if both values have one. -/
def compareInts? (a b : Value) : Option Ordering := do
  return compare (← a.toInt64?).toInt (← b.toInt64?).toInt

/-- The order of two values, if they are comparable. -/
def compare? : Value → Value → Option Ordering
  | null, null => some .eq
  | null, _ => some .lt
  | _, null => some .gt
  | bool a, bool b => some (compare a b)
  | string a, string b => some (compare a b)
  | uuid a, uuid b => some (compare a.bits.toNat b.bits.toNat)
  | datetime a, datetime b => some (a.order b)
  | float64 a, float64 b => a.compare? b
  | float64 a, b => b.toInt64?.bind (fun n => a.compare? (Binary64.ofInt n.toInt))
  | a, float64 b => a.toInt64?.bind (fun n => (Binary64.ofInt n.toInt).compare? b)
  | a, b => compareInts? a b

end Value

/-- A condition on the order of two values. -/
inductive Comparison where
  /-- They are equal. -/
  | eq
  /-- They differ. -/
  | ne
  /-- The first is less. -/
  | lt
  /-- The first is not greater. -/
  | le
  /-- The first is greater. -/
  | gt
  /-- The first is not less. -/
  | ge
deriving DecidableEq

namespace Comparison

/-- Every condition. -/
def all : List Comparison := [eq, ne, lt, le, gt, ge]

/-- The operator that states a condition. -/
def symbol : Comparison → String
  | eq => "="
  | ne => "<>"
  | lt => "<"
  | le => "<="
  | gt => ">"
  | ge => ">="

/-- Whether an order meets a condition. -/
def accepts : Comparison → Ordering → Bool
  | eq, o => o == .eq
  | ne, o => o != .eq
  | lt, o => o == .lt
  | le, o => o != .gt
  | gt, o => o == .gt
  | ge, o => o != .lt

end Comparison

end SchemaMigration

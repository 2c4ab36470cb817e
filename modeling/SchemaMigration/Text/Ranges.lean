/-!
# Sets of code points

A set of code points is written as its closed ranges, in ascending order.
-/

namespace SchemaMigration.Text

/-- Closed ranges of code points, in ascending order. -/
abbrev Ranges := List (Nat × Nat)

/-- Whether a character lies in one of the ranges. -/
def Ranges.includes (ranges : Ranges) (c : Char) : Bool :=
  ranges.any (fun range => range.1 ≤ c.toNat && c.toNat ≤ range.2)

end SchemaMigration.Text

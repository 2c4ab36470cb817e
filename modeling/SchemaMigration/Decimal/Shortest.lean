import SchemaMigration.Decimal.Binary64

/-!
# The shortest decimal of a number

Among the decimals that lie nearer to a number than to any other one, `shortest` finds those with
the fewest digits, and of two such the nearer one.
-/

namespace SchemaMigration

/-- The decimal number `digits * 10 ^ exponent`. -/
structure Decimal where
  /-- The digits as one natural number. -/
  digits : Nat
  /-- The power of ten. -/
  exponent : Int
deriving DecidableEq

/-- Which of two equally near decimals is taken. -/
inductive Tie where
  /-- The one with the greater size. -/
  | up
  /-- The one whose last digit is even. -/
  | even
deriving DecidableEq

namespace Decimal

/-- The order of `a * 10 ^ i` and `b * 2 ^ j`. -/
def compareScaled (a : Nat) (i : Int) (b : Nat) (j : Int) : Ordering :=
  compare (a * tenTo i.toNat * twoTo (-j).toNat) (b * twoTo j.toNat * tenTo (-i).toNat)

/-- Whether a decimal lies in the interval of reals whose nearest number is `x`. Below a power of
two the interval reaches half as far. -/
def readsBack (x : Binary64) (d : Decimal) : Bool :=
  let m := x.significand
  let below := if x.fraction = 0 ∧ 1 < x.exponentField then 1 else 2
  let low := compareScaled d.digits d.exponent (4 * m - below) (x.exponent - 2)
  let high := compareScaled d.digits d.exponent (4 * m + 2) (x.exponent - 2)
  let closed := m % 2 == 0
  (low == .gt || (closed && low == .eq)) && (high == .lt || (closed && high == .eq))

/-- The number of decimal digits of a natural number. -/
def digitCount (n : Nat) : Nat :=
  (Nat.toDigits 10 n).length

/-- The least `k` with `significand * 2 ^ exponent < 10 ^ k`, for a number that is not zero. -/
def magnitude (x : Binary64) : Int :=
  let num := x.significand * twoTo x.exponent.toNat
  let den := twoTo (-x.exponent).toNat
  if den ≤ num then digitCount (num / den) else 1 - (digitCount (den / num) : Int)

/-- The decimal just below a number on a grid of powers of ten, or on it. -/
def floorOn (x : Binary64) (grid : Int) : Decimal :=
  let num := x.significand * twoTo x.exponent.toNat * tenTo (-grid).toNat
  let den := twoTo (-x.exponent).toNat * tenTo grid.toNat
  ⟨num / den, grid⟩

/-- The nearer of two neighbours on a grid, the lower of which is given. -/
def nearer (tie : Tie) (x : Binary64) (lower : Decimal) : Decimal :=
  let upper : Decimal := ⟨lower.digits + 1, lower.exponent⟩
  match compareScaled (2 * lower.digits + 1) lower.exponent (2 * x.significand) x.exponent with
  | .lt => upper
  | .gt => lower
  | .eq => if tie = .up ∨ lower.digits % 2 = 1 then upper else lower

/-- The decimal on a grid that reads back to a number, if there is one. -/
def onGrid? (tie : Tie) (x : Binary64) (grid : Int) : Option Decimal :=
  let lower := floorOn x grid
  let upper : Decimal := ⟨lower.digits + 1, grid⟩
  if readsBack x lower then some (if readsBack x upper then nearer tie x lower else lower)
  else if readsBack x upper then some upper
  else none

/-- Moves zeros at the end of the digits into the exponent. -/
def stripZeros (d : Decimal) : Decimal :=
  if h : d.digits ≠ 0 ∧ d.digits % 10 = 0 then stripZeros ⟨d.digits / 10, d.exponent + 1⟩ else d
termination_by d.digits
decreasing_by exact Nat.div_lt_self (Nat.pos_of_ne_zero h.1) (by decide)

/-- The decimal with the fewest digits that reads back to a finite number, and of two such the
nearer one. Seventeen digits always suffice. -/
def shortest (tie : Tie) (x : Binary64) : Decimal :=
  if x.significand = 0 then ⟨0, 0⟩
  else
    let k := magnitude x
    let found := (List.range 17).findSome? (fun (n : Nat) => onGrid? tie x (k - (n + 1)))
    stripZeros (found.getD (floorOn x (min x.exponent 0)))

end Decimal

end SchemaMigration

import SchemaMigration.Decimal.Power

/-!
# Double-precision numbers

A `Binary64` is the bit pattern of a double-precision number. Everything about it is integer
arithmetic on its sign, exponent and fraction: `compare?` orders numbers by their value, and
`ofRatio` is the number nearest to a ratio, with ties to the even fraction.
-/

namespace SchemaMigration

/-- A double-precision number, as its bits. -/
structure Binary64 where
  /-- Sign, eleven exponent bits and fifty-two fraction bits. -/
  bits : UInt64
deriving DecidableEq, Inhabited

namespace Binary64

/-- Whether the sign bit is set. -/
def negative (x : Binary64) : Bool :=
  twoTo 63 ≤ x.bits.toNat

/-- The bits without the sign. -/
def magnitudeBits (x : Binary64) : Nat :=
  x.bits.toNat % twoTo 63

/-- The exponent field. -/
def exponentField (x : Binary64) : Nat :=
  x.magnitudeBits / twoTo 52

/-- The fraction field. -/
def fraction (x : Binary64) : Nat :=
  x.magnitudeBits % twoTo 52

/-- Whether the bits stand for no number. -/
def isNaN (x : Binary64) : Bool :=
  x.exponentField == 2047 && x.fraction != 0

/-- Whether the bits stand for an infinity. -/
def isInfinite (x : Binary64) : Bool :=
  x.exponentField == 2047 && x.fraction == 0

/-- Whether the bits stand for a real number. -/
def isFinite (x : Binary64) : Bool :=
  x.exponentField != 2047

/-- The significand of a finite number, whose size is `significand * 2 ^ exponent`. -/
def significand (x : Binary64) : Nat :=
  if x.exponentField = 0 then x.fraction else twoTo 52 + x.fraction

/-- The exponent of a finite number, whose size is `significand * 2 ^ exponent`. -/
def exponent (x : Binary64) : Int :=
  (max x.exponentField 1 : Nat) - 1075

/-- The number with a sign and the other bits. -/
def ofFields (negative : Bool) (magnitude : Nat) : Binary64 :=
  ⟨UInt64.ofNat (magnitude + if negative then twoTo 63 else 0)⟩

/-- An infinity. -/
def infinity (negative : Bool) : Binary64 :=
  ofFields negative (2047 * twoTo 52)

/-- The bits that stand for no number. -/
def nan : Binary64 :=
  ofFields false (2047 * twoTo 52 + twoTo 51)

/-- The integer nearest to a quotient; a tie goes to the even one. -/
def roundQuotient (num den : Nat) : Nat :=
  let quotient := num / den
  let rest := 2 * (num % den)
  if den < rest ∨ rest = den ∧ quotient % 2 = 1 then quotient + 1 else quotient

/-- The number nearest to `num / den * 2 ^ shift` for a shift at which the quotient has at most
fifty-three bits. -/
def ofShifted (negative : Bool) (num den : Nat) (shift : Int) : Binary64 :=
  let rounded := roundQuotient (num * twoTo (-shift).toNat) (den * twoTo shift.toNat)
  let carried := rounded = twoTo 53
  let significand := if carried then twoTo 52 else rounded
  let field := (shift + (if carried then 1 else 0) + 1075).toNat
  if significand < twoTo 52 then ofFields negative significand
  else if 2047 ≤ field then infinity negative
  else ofFields negative (field * twoTo 52 + (significand - twoTo 52))

/-- The number nearest to a ratio of naturals with a sign; a tie goes to the even fraction, and a
ratio beyond the greatest number goes to infinity. -/
def ofRatio (negative : Bool) (num den : Nat) : Binary64 :=
  if num = 0 then ofFields negative 0
  else
    let guess : Int := (num.log2 : Int) - den.log2 - 52
    let fits := num * twoTo (-guess).toNat < den * twoTo guess.toNat * twoTo 52
    let shift := if fits then guess - 1 else guess
    ofShifted negative num den (max shift (-1074))

/-- The number nearest to `value * 2 ^ exponent`. -/
def ofScaled (negative : Bool) (value : Nat) (exponent : Int) : Binary64 :=
  ofRatio negative (value * twoTo exponent.toNat) (twoTo (-exponent).toNat)

/-- The number nearest to `digits * 10 ^ exponent`. -/
def ofDecimal (negative : Bool) (digits : Nat) (exponent : Int) : Binary64 :=
  ofRatio negative (digits * tenTo exponent.toNat) (tenTo (-exponent).toNat)

/-- The number nearest to an integer. -/
def ofInt (n : Int) : Binary64 :=
  ofRatio (n < 0) n.natAbs 1

/-- The product of two finite numbers, rounded once. -/
def mul (x y : Binary64) : Binary64 :=
  ofScaled (x.negative != y.negative) (x.significand * y.significand) (x.exponent + y.exponent)

/-- The quotient of two finite numbers, the second of them not zero, rounded once. -/
def div (x y : Binary64) : Binary64 :=
  let shift := x.exponent - y.exponent
  ofRatio (x.negative != y.negative) (x.significand * twoTo shift.toNat)
    (y.significand * twoTo (-shift).toNat)

/-- An integer that orders numbers as their values do; both zeros have the same. -/
def orderKey (x : Binary64) : Int :=
  if x.negative then -(x.magnitudeBits : Int) else x.magnitudeBits

/-- The order of two numbers, if both are numbers. -/
def compare? (x y : Binary64) : Option Ordering :=
  if x.isNaN || y.isNaN then none else some (compare x.orderKey y.orderKey)

end Binary64

end SchemaMigration

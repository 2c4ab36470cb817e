import SchemaMigration.Value.Order

/-!
# Numbers in values

Numbers of 64 bits as integers: when an integer has one and what the number after another one is.
An identifier compares with a number in the same way from either side, and with the number that it
is or spells as that number does.
-/

namespace SchemaMigration

/-- A number of 64 bits stands for an integer if it has its value. -/
theorem int64?_eq_some {n : Int} {m : Int64} : int64? n = some m ↔ m.toInt = n := by
  unfold int64?
  constructor
  · intro h
    split at h
    · rename_i hn
      obtain rfl := Option.some.inj h
      have hmax := Int64.toInt_maxValue
      have hmin := Int64.toInt_minValue
      exact Int64.toInt_ofInt_of_le (by omega) (by omega)
    · cases h
  · rintro rfl
    rw [if_pos ⟨m.minValue_le_toInt, m.toInt_le⟩, Int64.ofInt_toInt]

theorem successor?_eq_some {n m : Int64} : successor? n = some m ↔ m.toInt = n.toInt + 1 :=
  int64?_eq_some

theorem toInt_of_successor?_eq_none {n : Int64} (h : successor? n = none) :
    n.toInt = Int64.maxValue.toInt := by
  have hle := n.toInt_le
  have hmax := Int64.toInt_maxValue
  refine Decidable.byContradiction fun hne => ?_
  have hnext : (Int64.ofInt (n.toInt + 1)).toInt = n.toInt + 1 := by
    have hge := n.minValue_le_toInt
    have hmin := Int64.toInt_minValue
    exact Int64.toInt_ofInt_of_le (by omega) (by omega)
  rw [successor?_eq_some.2 hnext] at h
  cases h

theorem le_toInt_max (n m : Int64) :
    n.toInt ≤ (max n m).toInt ∧ m.toInt ≤ (max n m).toInt := by
  have hmax : max n m = if n ≤ m then m else n := rfl
  rw [hmax]
  split
  · rename_i h
    exact ⟨Int64.le_iff_toInt_le.1 h, Int.le_refl _⟩
  · rename_i h
    have := mt Int64.le_iff_toInt_le.2 h
    omega

theorem compare_eq_comm (n m : Int) : compare n m = .eq ↔ compare m n = .eq := by
  simp only [Std.LawfulEqCmp.compare_eq_iff_eq]
  exact eq_comm

namespace Binary64

theorem compare?_eq_comm {x y : Binary64} : x.compare? y = some .eq ↔ y.compare? x = some .eq := by
  unfold compare?
  rw [Bool.or_comm y.isNaN]
  split
  · rfl
  · rw [Option.some.injEq, Option.some.injEq, compare_eq_comm]

end Binary64

namespace Value

/-- A value equals a number from the one side if it does from the other. -/
theorem int64_compare?_eq_comm {n : Int64} {value : Value} :
    (int64 n).compare? value = some .eq ↔ value.compare? (int64 n) = some .eq := by
  have hnumber : (int64 n).toInt64? = some n := rfl
  have hints : compareInts? (int64 n) value = some .eq ↔
      compareInts? value (int64 n) = some .eq := by
    cases h : value.toInt64? with
    | none => simp [compareInts?, h]
    | some m => simp [compareInts?, h, hnumber, compare_eq_comm n.toInt]
  cases value with
  | null => simp [compare?]
  | float64 x => simpa [compare?, toInt64?] using Binary64.compare?_eq_comm
  | _ => exact hints

/-- A value that is or spells a number equals no other one. -/
theorem compare?_int64_of_toInt64? {value : Value} {m : Int64} (h : value.toInt64? = some m)
    (n : Int64) : value.compare? (.int64 n) = some (compare m.toInt n.toInt) := by
  cases value with
  | int32 | int64 | string =>
    simp only [compare?, compareInts?, h]
    rfl
  | _ => cases h

end Value

end SchemaMigration

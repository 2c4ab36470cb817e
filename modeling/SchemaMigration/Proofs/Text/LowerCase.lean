import Mathlib.Tactic.SplitIfs
import SchemaMigration.Text.LowerCase

/-!
# Hyphens in lower case

A hyphen has no case, and it is the lower case of nothing but itself. So a text in lower case begins
with hyphens just as the text does.
-/

namespace SchemaMigration.Text

/-- The lower case of a character beyond ASCII is a character beyond the hyphen. -/
theorem lt_lowerCaseShift : ∀ shift ∈ lowerCaseShifts, 45 < (shift.first : Int) + shift.delta := by
  decide +kernel

theorem ofNat_ne_hyphen {n : Nat} (h : 45 < n) : Char.ofNat n ≠ '-' := by
  by_cases hvalid : n.isValidChar
  · have hvalue : (Char.ofNat n).toNat = n := by
      rw [Char.ofNat, dif_pos hvalid]
      rfl
    intro hyphen
    rw [hyphen] at hvalue
    have hfortyFive : 45 = n := hvalue
    omega
  · rw [Char.ofNat, dif_neg hvalid]
    decide

theorem eq_hyphen_of_toLower {c : Char} (h : c.toLower = '-') : c = '-' := by
  unfold Char.toLower at h
  split at h
  · next hupper =>
    -- The lower case of an ASCII capital is at least `a`.
    have hvalue := congrArg (fun c => c.val.toNat) h
    have hge : 'A'.val.toNat ≤ c.val.toNat := UInt32.le_iff_toNat_le.1 hupper.1
    have hle : c.val.toNat ≤ 'Z'.val.toNat := UInt32.le_iff_toNat_le.1 hupper.2
    simp only [Char.reduceVal, UInt32.reduceSub, UInt32.toNat_add, UInt32.reduceToNat] at *
    omega
  · exact h

theorem lowerChar_ne_nil (c : Char) : lowerChar c ≠ [] := by
  unfold lowerChar
  split_ifs
  · nofun
  · nofun
  · split <;> nofun

/-- Only a hyphen is a hyphen in lower case. -/
theorem eq_hyphen_of_lowerChar {c : Char} {rest : List Char} (h : lowerChar c = '-' :: rest) :
    c = '-' ∧ rest = [] := by
  unfold lowerChar at h
  split_ifs at h with hascii hdotted
  · obtain ⟨hlower, rfl⟩ := List.cons.inj h
    exact ⟨eq_hyphen_of_toLower hlower, rfl⟩
  · exact absurd (List.cons.inj h).1 (by decide)
  · cases hfind : lowerCaseShifts.find? (·.applies c.toNat) with
    | none =>
      rw [hfind] at h
      obtain ⟨rfl, rfl⟩ := List.cons.inj h
      exact ⟨rfl, rfl⟩
    | some shift =>
      rw [hfind] at h
      have hfirst : shift.first ≤ c.toNat := by
        have happlies := List.find?_some hfind
        simp only [CaseShift.applies, Bool.and_eq_true, decide_eq_true_eq] at happlies
        exact happlies.1.1
      have hlt := lt_lowerCaseShift shift (List.mem_of_find?_eq_some hfind)
      exact absurd (List.cons.inj h).1 (ofNat_ne_hyphen (by omega))

/-- A text whose lower case begins with a hyphen begins with one, which is passed over. -/
theorem lowerFrom_eq_hyphen {before text rest : List Char}
    (h : lowerFrom before text = '-' :: rest) :
    ∃ text', text = '-' :: text' ∧ lowerFrom ('-' :: before) text' = rest := by
  cases text with
  | nil => cases h
  | cons c text =>
    rw [lowerFrom] at h
    split at h
    · exact absurd (List.cons.inj h).1 (by split <;> decide)
    · cases hlower : lowerChar c with
      | nil => exact absurd hlower (lowerChar_ne_nil c)
      | cons first others =>
        rw [hlower] at h
        obtain ⟨rfl, hrest⟩ := List.cons.inj h
        obtain ⟨rfl, rfl⟩ := eq_hyphen_of_lowerChar hlower
        exact ⟨text, rfl, hrest⟩

/-- The lower case of a text begins with two hyphens only if the text does. -/
theorem hyphens_of_lowerChars {text rest : List Char} (h : lowerChars text = '-' :: '-' :: rest) :
    ['-', '-'] <+: text := by
  obtain ⟨text₁, rfl, h₁⟩ := lowerFrom_eq_hyphen h
  obtain ⟨text₂, rfl, -⟩ := lowerFrom_eq_hyphen h₁
  exact ⟨text₂, rfl⟩

end SchemaMigration.Text

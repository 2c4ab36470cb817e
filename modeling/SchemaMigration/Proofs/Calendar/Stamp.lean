import Mathlib.Data.Nat.Digits.Defs
import SchemaMigration.Calendar.Instant

/-!
# Stamps of instants

The stamp of an instant is fourteen digits long if its year is written in four digits. Any other
year has a sign in front.
-/

namespace SchemaMigration

open Text

/-- A text of so many ASCII digits. -/
structure IsDigits (length : Nat) (text : String) : Prop where
  length_eq : text.toList.length = length
  digits : ∀ c ∈ text.toList, c.isDigit = true

theorem IsDigits.append {m n : Nat} {a b : String} (ha : IsDigits m a) (hb : IsDigits n b) :
    IsDigits (m + n) (a ++ b) := by
  constructor
  · rw [String.toList_append, List.length_append, ha.length_eq, hb.length_eq]
  · intro c hc
    rw [String.toList_append, List.mem_append] at hc
    exact hc.elim (ha.digits c) (hb.digits c)

theorem isDigit_of_mem_padded {width n : Nat} {c : Char} (h : c ∈ (padded width n).toList) :
    c.isDigit = true := by
  rw [padded, String.toList_ofList, List.mem_append] at h
  rcases h with hzero | hdigit
  · rw [List.eq_of_mem_replicate hzero]
    rfl
  · exact Nat.isDigit_of_mem_toDigits (by decide) (by decide) hdigit

theorem isDigits_padded {width n : Nat} (hwidth : 0 < width) (h : n < 10 ^ width) :
    IsDigits width (padded width n) := by
  have hlength : (natDigits n).length ≤ width := Nat.toDigits_length 10 n width hwidth h
  refine ⟨?_, fun c => isDigit_of_mem_padded⟩
  rw [padded, String.toList_ofList, List.length_append, List.length_replicate]
  omega

/-- Months and days have two digits. -/
theorem Date.lt_ofDays (days : Int) : (ofDays days).month < 100 ∧ (ofDays days).day < 100 := by
  simp only [ofDays, Int.fdiv_eq_ediv_of_nonneg _ (show (0 : Int) ≤ 146097 by decide)]
  generalize hday : days + 719468 - (days + 719468) / 146097 * 146097 = dayOfEra
  have hlow : 0 ≤ dayOfEra := by omega
  have hhigh : dayOfEra < 146097 := by omega
  clear hday
  split <;> constructor <;> omega

namespace Instant

/-- Whether the year of an instant is written in four digits. -/
def HasPlainYear (i : Instant) : Prop :=
  0 ≤ i.date.year ∧ i.date.year ≤ 9999

instance : DecidablePred HasPlainYear := fun i =>
  inferInstanceAs (Decidable (0 ≤ i.date.year ∧ i.date.year ≤ 9999))

theorem isDigits_stamp {i : Instant} (h : i.HasPlainYear) : IsDigits 14 i.stamp := by
  have hday := Date.lt_ofDays (i.seconds.fdiv 86400)
  have hseconds : i.secondOfDay < 86400 := by
    rw [secondOfDay, Int.fmod_eq_emod_of_nonneg _ (by decide)]
    omega
  have hsecond : i.second < 100 := by
    unfold second
    split <;> omega
  have hyear : IsDigits 4 (yearText i.date.year) := by
    obtain ⟨hfirst, hlast⟩ := h
    rw [yearText, if_pos ⟨hfirst, hlast⟩]
    exact isDigits_padded (by decide) (by omega)
  have htwo {n : Nat} (hn : n < 100) : IsDigits 2 (padded 2 n) := isDigits_padded (by decide) hn
  exact ((((hyear.append (htwo hday.1)).append (htwo hday.2)).append
    (htwo (by unfold hour; omega))).append (htwo (by unfold minute; omega))).append (htwo hsecond)

/-- A year that is not written in four digits is written with a sign. -/
theorem head?_stamp {i : Instant} (h : ¬i.HasPlainYear) :
    ∃ sign, i.stamp.toList.head? = some sign ∧ (sign = '-' ∨ sign = '+') := by
  have hyear : yearText i.date.year =
      (if i.date.year < 0 then "-" else "+") ++ padded 4 i.date.year.natAbs := if_neg h
  have hhead (a b : String) (sign : Char) (ha : a.toList.head? = some sign) :
      (a ++ b).toList.head? = some sign := by
    rw [String.toList_append, List.head?_append, ha, Option.some_or]
  refine ⟨if i.date.year < 0 then '-' else '+', ?_, ?_⟩
  · simp only [stamp, hyear, String.append_assoc]
    apply hhead
    split <;> rfl
  · split <;> simp

theorem isDigit_or_of_mem_yearText {year : Int} {c : Char} (h : c ∈ (yearText year).toList) :
    c.isDigit = true ∨ c = '-' ∨ c = '+' := by
  unfold yearText at h
  split at h
  · exact .inl (isDigit_of_mem_padded h)
  · rw [String.toList_append, List.mem_append] at h
    rcases h with hsign | hdigit
    · split at hsign
      · exact .inr (.inl (List.mem_singleton.1 hsign))
      · exact .inr (.inr (List.mem_singleton.1 hsign))
    · exact .inl (isDigit_of_mem_padded hdigit)

/-- There are only digits and signs in a stamp. -/
theorem isDigit_or_of_mem_stamp {i : Instant} {c : Char} (h : c ∈ i.stamp.toList) :
    c.isDigit = true ∨ c = '-' ∨ c = '+' := by
  simp only [stamp, String.toList_append, List.mem_append] at h
  obtain ((((h | h) | h) | h) | h) | h := h
  · exact isDigit_or_of_mem_yearText h
  all_goals exact .inl (isDigit_of_mem_padded h)

/-- A date and a time are written on one line. -/
theorem feed_not_mem_dateText_timeText (i : Instant) :
    '\n' ∉ i.dateText.toList ∧ '\n' ∉ i.timeText.toList := by
  have hpadded (width n : Nat) : '\n' ∉ (padded width n).toList := fun h =>
    absurd (isDigit_of_mem_padded h) (by decide)
  have hyear : '\n' ∉ (yearText i.date.year).toList := fun h => by
    rcases isDigit_or_of_mem_yearText h with h | h | h <;> cases h
  simp [dateText, timeText, hpadded, hyear]

end Instant

end SchemaMigration

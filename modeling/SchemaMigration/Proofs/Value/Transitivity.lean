import Mathlib.Data.String.Basic
import Mathlib.Order.Compare
import SchemaMigration.Proofs.Value

/-!
# Where the order of values is transitive

Values are compared on scales: truth values, whole numbers, texts, identifiers and instants, each
with absent values in front. On one scale the order is transitive. Whole numbers also compare with
texts that spell numbers, as numbers, while two texts compare as texts. So three values can lead
round: a first text before a second one, which spells no greater number than a third value is, which
is no greater than the number that the first text spells. Apart from floating-point numbers these
are the only values on which the order is not transitive.
-/

namespace SchemaMigration

/-- The kinds of values that are compared with each other. -/
inductive Scale where
  /-- Truth values. -/
  | truth
  /-- Whole numbers of either width. -/
  | whole
  /-- Texts. -/
  | text
  /-- Identifiers. -/
  | uuid
  /-- Instants. -/
  | instant
deriving DecidableEq

instance : Ord Instant := ⟨Instant.order⟩

instance : Std.TransOrd Instant :=
  inferInstanceAs (Std.TransCmp (compareLex (compareOn Instant.seconds) (compareOn Instant.nanos)))

namespace Value

/-- The scale of a value, if there is one. -/
def scale? : Value → Option Scale
  | bool _ => some .truth
  | int32 _ | int64 _ => some .whole
  | string _ => some .text
  | uuid _ => some .uuid
  | datetime _ => some .instant
  | _ => none

/-- A value is absent or has a certain scale. -/
def IsOn (scale : Scale) (value : Value) : Prop :=
  value = null ∨ value.scale? = some scale

/-- Whether a value is a floating-point number. -/
def isFloat64 : Value → Bool
  | float64 _ => true
  | _ => false

/-- The order is transitive from one value over another one to a third, as far as they are
comparable: if neither step leads down, nor does the whole way, which leads up if one step does. -/
def TransitiveAt (a b c : Value) : Prop :=
  ∀ ab bc ac, a.compare? b = some ab → b.compare? c = some bc → a.compare? c = some ac →
    ab.isLE = true → bc.isLE = true → ac.isLE = true ∧ (ab = .lt ∨ bc = .lt → ac = .lt)

/-- Two texts and a whole number lead round: the first text stands before the second one, which
spells a number not greater than the whole number, which is not greater than what the first text
spells. -/
inductive LeadsRound : Value → Value → Value → Prop where
  /-- The texts differ in their order as texts and as numbers, and the number lies between them. -/
  | intro {first second : String} {number : Value} {m n k : Int64} (texts : first < second)
      (spelled : (string first).toInt64? = some m) (spelled' : (string second).toInt64? = some n)
      (whole : number.scale? = some .whole) (value : number.toInt64? = some k)
      (lower : n.toInt ≤ k.toInt) (upper : k.toInt ≤ m.toInt) :
      LeadsRound (string first) (string second) number

variable {a b c : Value} {scale : Scale} {m n k : Int64}

section Absent

theorem null_compare? (b : Value) : null.compare? b = some (if b.isNull then .eq else .lt) := by
  cases b <;> rfl

theorem compare?_null (a : Value) : a.compare? null = some (if a.isNull then .eq else .gt) := by
  cases a <;> rfl

theorem isNull_eq_true : a.isNull = true ↔ a = null := by
  cases a <;> simp [isNull]

theorem isNull_of_scale? (h : a.scale? = some scale) : a.isNull = false := by
  cases a with
  | null => cases h
  | _ => rfl

/-- From an absent value it leads up to all others. -/
theorem transitiveAt_null (b c : Value) : TransitiveAt null b c := by
  intro ab bc ac hab hbc hac _ hbc'
  rw [null_compare?, Option.some.injEq] at hab hac
  subst hab hac
  cases hc : c.isNull with
  | false => simp
  | true =>
    rw [isNull_eq_true.1 hc, compare?_null, Option.some.injEq] at hbc
    subst hbc
    cases hb : b.isNull <;> simp [hb] at hbc' ⊢

/-- Only an absent value leads up to an absent one. -/
theorem eq_null_of_compare?_null {ab : Ordering} (h : a.compare? null = some ab)
    (hle : ab.isLE = true) : a = null := by
  rw [compare?_null, Option.some.injEq] at h
  subst h
  cases ha : a.isNull with
  | true => exact isNull_eq_true.1 ha
  | false => simp [ha] at hle

theorem transitiveAt_of_null (h : a = null ∨ b = null ∨ c = null) : TransitiveAt a b c := by
  intro ab bc ac hab hbc hac hab' hbc'
  have ha : a = null := by
    rcases h with h | rfl | rfl
    · exact h
    · exact eq_null_of_compare?_null hab hab'
    · obtain rfl := eq_null_of_compare?_null hbc hbc'
      exact eq_null_of_compare?_null hab hab'
  subst ha
  exact transitiveAt_null b c ab bc ac hab hbc hac hab' hbc'

end Absent

section Keys

/-- Values of a scale that compare by keys, which absent values do not have, compare with these as
if they had a key that comes first. -/
theorem exists_key_of {α : Type} [Ord α] [Std.TransOrd α] (key : Value → Option α)
    (hnull : key null = none)
    (hkey : ∀ a b : Value, a.scale? = some scale → b.scale? = some scale →
      ∃ x y, key a = some x ∧ key b = some y ∧ a.compare? b = some (compare x y)) :
    ∃ (α : Type) (_ : Ord α) (_ : Std.TransOrd α) (key : Value → Option α), ∀ a b : Value,
      a.IsOn scale → b.IsOn scale → a.compare? b = some (compare (key a) (key b)) := by
  refine ⟨α, inferInstance, inferInstance, key, ?_⟩
  rintro a b (rfl | ha) (rfl | hb)
  · rw [hnull]
    rfl
  · obtain ⟨x, -, hx, -, -⟩ := hkey b b hb hb
    rw [null_compare?, isNull_of_scale? hb, hnull, hx]
    rfl
  · obtain ⟨x, -, hx, -, -⟩ := hkey a a ha ha
    rw [compare?_null, isNull_of_scale? ha, hnull, hx]
    rfl
  · obtain ⟨x, y, hx, hy, hcompare⟩ := hkey a b ha hb
    rw [hcompare, hx, hy]
    rfl

/-- On one scale values compare by keys in an order. -/
theorem exists_key (scale : Scale) :
    ∃ (α : Type) (_ : Ord α) (_ : Std.TransOrd α) (key : Value → Option α), ∀ a b : Value,
      a.IsOn scale → b.IsOn scale → a.compare? b = some (compare (key a) (key b)) := by
  cases scale with
  | truth =>
    refine exists_key_of (fun | bool x => some x | _ => none) rfl fun a b ha hb => ?_
    cases a <;> cases ha
    cases b <;> cases hb
    exact ⟨_, _, rfl, rfl, rfl⟩
  | whole =>
    refine exists_key_of (fun a => a.toInt64?.map Int64.toInt) rfl fun a b ha hb => ?_
    cases a <;> cases ha <;> cases b <;> cases hb <;> exact ⟨_, _, rfl, rfl, rfl⟩
  | text =>
    refine exists_key_of toText? rfl fun a b ha hb => ?_
    cases a <;> cases ha
    cases b <;> cases hb
    exact ⟨_, _, rfl, rfl, rfl⟩
  | uuid =>
    refine exists_key_of (fun | uuid id => some id.bits.toNat | _ => none) rfl
      fun a b ha hb => ?_
    cases a <;> cases ha
    cases b <;> cases hb
    exact ⟨_, _, rfl, rfl, rfl⟩
  | instant =>
    refine exists_key_of toInstant? rfl fun a b ha hb => ?_
    cases a <;> cases ha
    cases b <;> cases hb
    exact ⟨_, _, rfl, rfl, rfl⟩

/-- On one scale the order is transitive. -/
theorem transitiveAt_of_isOn (ha : a.IsOn scale) (hb : b.IsOn scale) (hc : c.IsOn scale) :
    TransitiveAt a b c := by
  obtain ⟨α, _, _, key, hkey⟩ := exists_key scale
  intro ab bc ac hab hbc hac hab' hbc'
  rw [hkey _ _ ‹_› ‹_›, Option.some.injEq] at hab hbc hac
  subst hab hbc hac
  refine ⟨Std.TransOrd.isLE_trans hab' hbc', ?_⟩
  rintro (h | h)
  · exact Std.TransCmp.lt_of_lt_of_isLE h hbc'
  · exact Std.TransCmp.lt_of_isLE_of_lt hab' h

end Keys

/-- Values that are or spell numbers compare as numbers if one of them is a whole number. -/
theorem compare?_of_numbers (ha : a.toInt64? = some m) (hb : b.toInt64? = some n)
    (h : a.scale? = some .whole ∨ b.scale? = some .whole) :
    a.compare? b = some (compare m.toInt n.toInt) := by
  have hints : compareInts? a b = some (compare m.toInt n.toInt) := by
    rw [compareInts?, ha, hb]
    rfl
  cases a with
  | int32 | int64 | string =>
    cases b with
    | int32 | int64 => exact hints
    | string => first | exact hints | simp [scale?] at h
    | _ => cases hb
  | _ => cases ha

theorem scale?_of_toInt64? (h : a.toInt64? = some m) :
    a.scale? = some .whole ∨ a.scale? = some .text := by
  cases a with
  | int32 | int64 => exact .inl rfl
  | string => exact .inr rfl
  | _ => cases h

/-- Two values are on one scale, or one is a whole number and the other a text that spells one. -/
def Together (a b : Value) : Prop :=
  (∃ scale, a.scale? = some scale ∧ b.scale? = some scale) ∨
    (∃ m n, a.toInt64? = some m ∧ b.toInt64? = some n) ∧ a.scale? ≠ b.scale?

/-- Values that compare, and are neither absent nor floating-point numbers, are on one scale, or
they are a whole number and a text that spells one. -/
theorem together_of_compare? {ab : Ordering} (hab : a.compare? b = some ab) (ha : a.isNull = false)
    (hb : b.isNull = false) (ha' : a.isFloat64 = false) (hb' : b.isFloat64 = false) :
    Together a b := by
  unfold compare? at hab
  split at hab
  case h_1 | h_2 => cases ha
  case h_3 => cases hb
  case h_4 | h_5 | h_6 | h_7 => exact .inl ⟨_, rfl, rfl⟩
  case h_8 | h_9 => cases ha'
  case h_10 => cases hb'
  case h_11 =>
    obtain ⟨m, hm, hab⟩ := Option.bind_eq_some_iff.1 hab
    obtain ⟨n, hn, -⟩ := Option.bind_eq_some_iff.1 hab
    by_cases hsame : a.scale? = b.scale?
    · rcases scale?_of_toInt64? hm with hscale | hscale <;>
        exact .inl ⟨_, hscale, hsame.symm.trans hscale⟩
    · exact .inr ⟨⟨m, n, hm, hn⟩, hsame⟩

/-- Three values that compare are all on one scale, or all are or spell numbers. -/
theorem oneScale_or_numbers (hab : Together a b) (hbc : Together b c) (hac : Together a c) :
    (∃ scale, a.scale? = some scale ∧ b.scale? = some scale ∧ c.scale? = some scale) ∨
      ∃ m n k, a.toInt64? = some m ∧ b.toInt64? = some n ∧ c.toInt64? = some k := by
  rcases hab with ⟨scale, ha, hb⟩ | ⟨⟨m, n, hm, hn⟩, hne⟩
  · rcases hac with ⟨scale', ha', hc⟩ | ⟨⟨m, k, hm, hk⟩, hne⟩
    · exact .inl ⟨scale, ha, hb, by rw [hc, ← ha', ha]⟩
    · rcases hbc with ⟨scale', hb', hc⟩ | ⟨⟨n, -, hn, -⟩, -⟩
      · exact absurd (by rw [ha, ← hb, hb', hc]) hne
      · exact .inr ⟨m, n, k, hm, hn, hk⟩
  · rcases hac with ⟨scale, ha, hc⟩ | ⟨⟨-, k, -, hk⟩, -⟩
    · rcases hbc with ⟨scale', hb, hc'⟩ | ⟨⟨-, k, -, hk⟩, -⟩
      · exact absurd (by rw [ha, ← hc, hc', hb]) hne
      · exact .inr ⟨m, n, k, hm, hn, hk⟩
    · exact .inr ⟨m, n, k, hm, hn, hk⟩

theorem eq_string_of_scale? (h : a.scale? = some .text) : ∃ text, a = string text := by
  cases a with
  | string text => exact ⟨text, rfl⟩
  | _ => cases h

/-- Where one of three numbers may be spelled by a text, they compare as numbers throughout. -/
theorem transitiveAt_of_numbers (ha : a.toInt64? = some m) (hb : b.toInt64? = some n)
    (hc : c.toInt64? = some k) (hab : a.scale? = some .whole ∨ b.scale? = some .whole)
    (hbc : b.scale? = some .whole ∨ c.scale? = some .whole)
    (hac : a.scale? = some .whole ∨ c.scale? = some .whole) : TransitiveAt a b c := by
  intro ab bc ac hab' hbc' hac' hle hle'
  rw [compare?_of_numbers ‹_› ‹_› ‹_›, Option.some.injEq] at hab' hbc' hac'
  subst hab' hbc' hac'
  simp only [Int.isLE_compare, Int.compare_eq_lt] at *
  omega

/-- How three values that lead round compare. -/
theorem LeadsRound.exists_compare? (h : LeadsRound a b c) : ∃ m n k : Int, n ≤ k ∧ k ≤ m ∧
    a.compare? b = some .lt ∧ b.compare? a = some .gt ∧
    a.compare? c = some (compare m k) ∧ c.compare? a = some (compare k m) ∧
    b.compare? c = some (compare n k) ∧ c.compare? b = some (compare k n) := by
  obtain ⟨texts, spelled, spelled', whole, value, lower, upper⟩ := h
  exact ⟨_, _, _, lower, upper, congrArg some (compare_lt_iff_lt.2 texts),
    congrArg some (compare_gt_iff_gt.2 texts),
    compare?_of_numbers spelled value (.inr whole), compare?_of_numbers value spelled (.inl whole),
    compare?_of_numbers spelled' value (.inr whole),
    compare?_of_numbers value spelled' (.inl whole)⟩

/-- Where three values lead round, the order is not transitive from any of them. -/
theorem LeadsRound.not_transitiveAt (h : LeadsRound a b c) :
    ¬TransitiveAt a b c ∧ ¬TransitiveAt b c a ∧ ¬TransitiveAt c a b := by
  obtain ⟨m, n, k, lower, upper, hab, hba, hac, hca, hbc, hcb⟩ := h.exists_compare?
  refine ⟨fun htrans => ?_, fun htrans => ?_, fun htrans => ?_⟩
  · have hlt := (htrans _ _ _ hab hbc hac rfl (Int.isLE_compare.2 lower)).2 (.inl rfl)
    have := Int.compare_eq_lt.1 hlt
    omega
  · have hle := (htrans _ _ _ hbc hca hba (Int.isLE_compare.2 lower) (Int.isLE_compare.2 upper)).1
    cases hle
  · have hlt := (htrans _ _ _ hca hab hcb (Int.isLE_compare.2 upper) rfl).2 (.inr rfl)
    have := Int.compare_eq_lt.1 hlt
    omega

theorem compare?_string (first second : String) :
    (string first).compare? (string second) = some (compare first second) := rfl

theorem isLE_compare_string {first second : String} :
    (compare first second).isLE = true ↔ first ≤ second := by
  rw [Ordering.isLE_iff_ne_gt, ← Ne, compare_le_iff_le]

section Texts

variable {first second : String} (h : ¬LeadsRound (string first) (string second) c)
  (hfirst : (string first).toInt64? = some m) (hsecond : (string second).toInt64? = some n)
  (hwhole : c.scale? = some .whole) (hc : c.toInt64? = some k)

include h hfirst hsecond hwhole hc

/-- Two texts in order that do not lead round with a whole number have it not between them, and
equal texts spell equal numbers. -/
theorem number_of_le (hle : first ≤ second) :
    first < second ∧ ¬(n.toInt ≤ k.toInt ∧ k.toInt ≤ m.toInt) ∨ first = second ∧ m = n := by
  rcases lt_or_eq_of_le hle with hlt | rfl
  · exact .inl ⟨hlt, fun ⟨lower, upper⟩ => h (.intro hlt hfirst hsecond hwhole hc lower upper)⟩
  · exact .inr ⟨rfl, Option.some.inj (hfirst.symm.trans hsecond)⟩

theorem transitiveAt_texts_whole : TransitiveAt (string first) (string second) c := by
  intro ab bc ac hab hbc hac hle hle'
  rw [compare?_string, Option.some.injEq] at hab
  rw [compare?_of_numbers ‹_› hc (.inr hwhole), Option.some.injEq] at hbc hac
  subst hab hbc hac
  simp only [isLE_compare_string, Int.isLE_compare, compare_lt_iff_lt] at *
  rcases number_of_le h hfirst hsecond hwhole hc hle with ⟨-, hbetween⟩ | ⟨rfl, rfl⟩
  · omega
  · simp only [lt_irrefl, false_or]
    exact ⟨hle', id⟩

theorem transitiveAt_whole_texts : TransitiveAt c (string first) (string second) := by
  intro ab bc ac hab hbc hac hle hle'
  rw [compare?_string, Option.some.injEq] at hbc
  rw [compare?_of_numbers hc ‹_› (.inl hwhole), Option.some.injEq] at hab hac
  subst hab hbc hac
  simp only [isLE_compare_string, Int.isLE_compare, compare_lt_iff_lt] at *
  rcases number_of_le h hfirst hsecond hwhole hc hle' with ⟨-, hbetween⟩ | ⟨rfl, rfl⟩
  · omega
  · simp only [lt_irrefl, or_false]
    exact ⟨hle, id⟩

theorem transitiveAt_text_whole_text : TransitiveAt (string second) c (string first) := by
  intro ab bc ac hab hbc hac hle hle'
  rw [compare?_string, Option.some.injEq] at hac
  rw [compare?_of_numbers hsecond hc (.inr hwhole), Option.some.injEq] at hab
  rw [compare?_of_numbers hc hfirst (.inl hwhole), Option.some.injEq] at hbc
  subst hab hbc hac
  simp only [isLE_compare_string, Int.isLE_compare, compare_lt_iff_lt] at *
  rcases le_total first second with hle'' | hle''
  · rcases number_of_le h hfirst hsecond hwhole hc hle'' with ⟨-, hbetween⟩ | ⟨rfl, rfl⟩
    · omega
    · exact ⟨le_rfl, by omega⟩
  · refine ⟨hle'', fun hlt => lt_of_le_of_ne hle'' ?_⟩
    rintro rfl
    obtain rfl := Option.some.inj (hfirst.symm.trans hsecond)
    omega

end Texts

/-- Of three values that are or spell numbers, two texts and a whole number may lead round, and
nothing else. -/
theorem transitiveAt_of_not_leadsRound (hm : a.toInt64? = some m) (hn : b.toInt64? = some n)
    (hk : c.toInt64? = some k) (habc : ¬LeadsRound a b c) (hbca : ¬LeadsRound b c a)
    (hcab : ¬LeadsRound c a b) : TransitiveAt a b c := by
  rcases scale?_of_toInt64? hm with ha | ha <;> rcases scale?_of_toInt64? hn with hb | hb <;>
    rcases scale?_of_toInt64? hk with hc | hc
  · exact transitiveAt_of_numbers hm hn hk (.inl ha) (.inl hb) (.inl ha)
  · exact transitiveAt_of_numbers hm hn hk (.inl ha) (.inl hb) (.inl ha)
  · exact transitiveAt_of_numbers hm hn hk (.inl ha) (.inr hc) (.inl ha)
  · obtain ⟨first, rfl⟩ := eq_string_of_scale? hb
    obtain ⟨second, rfl⟩ := eq_string_of_scale? hc
    exact transitiveAt_whole_texts hbca hn hk ha hm
  · exact transitiveAt_of_numbers hm hn hk (.inr hb) (.inl hb) (.inr hc)
  · obtain ⟨first, rfl⟩ := eq_string_of_scale? hc
    obtain ⟨second, rfl⟩ := eq_string_of_scale? ha
    exact transitiveAt_text_whole_text hcab hk hm hb hn
  · obtain ⟨first, rfl⟩ := eq_string_of_scale? ha
    obtain ⟨second, rfl⟩ := eq_string_of_scale? hb
    exact transitiveAt_texts_whole habc hm hn hc hk
  · exact transitiveAt_of_isOn (.inr ha) (.inr hb) (.inr hc)

/-- Apart from floating-point numbers, the order is transitive wherever values are comparable,
unless they are, from one of them on, two texts and a whole number that lead round. -/
theorem transitiveAt_iff (ha : a.isFloat64 = false) (hb : b.isFloat64 = false)
    (hc : c.isFloat64 = false) :
    TransitiveAt a b c ↔ ¬LeadsRound a b c ∧ ¬LeadsRound b c a ∧ ¬LeadsRound c a b := by
  constructor
  · intro htrans
    exact ⟨fun h => h.not_transitiveAt.1 htrans, fun h => h.not_transitiveAt.2.2 htrans,
      fun h => h.not_transitiveAt.2.1 htrans⟩
  · rintro ⟨habc, hbca, hcab⟩ ab bc ac hab hbc hac
    suffices h : TransitiveAt a b c from h ab bc ac hab hbc hac
    by_cases hnull : a = null ∨ b = null ∨ c = null
    · exact transitiveAt_of_null hnull
    simp only [not_or, ← isNull_eq_true, Bool.not_eq_true] at hnull
    obtain ⟨ha', hb', hc'⟩ := hnull
    rcases oneScale_or_numbers (together_of_compare? hab ha' hb' ha hb)
      (together_of_compare? hbc hb' hc' hb hc) (together_of_compare? hac ha' hc' ha hc) with
      ⟨scale, hsa, hsb, hsc⟩ | ⟨m, n, k, hm, hn, hk⟩
    · exact transitiveAt_of_isOn (.inr hsa) (.inr hsb) (.inr hsc)
    · exact transitiveAt_of_not_leadsRound hm hn hk habc hbca hcab

/-- As texts 10 stands before 9, as numbers it does not: the order is not transitive from the text
10 over the text 9 to the number 9. -/
theorem ten_before_nine :
    let a : Value := string "10"
    let b : Value := string "9"
    let c : Value := int64 9
    a.compare? b = some .lt ∧ b.compare? c = some .eq ∧ a.compare? c = some .gt ∧
      a.isFloat64 = false ∧ b.isFloat64 = false ∧ c.isFloat64 = false ∧
      LeadsRound a b c ∧ ¬TransitiveAt a b c := by
  intro a b c
  have hten : a.toInt64? = some 10 := by decide
  have hnine : b.toInt64? = some 9 := by decide
  have hround : LeadsRound a b c :=
    .intro (by decide) hten hnine rfl rfl (by decide) (by decide)
  exact ⟨by decide, by decide, by decide, rfl, rfl, rfl, hround,
    fun htrans => ((transitiveAt_iff rfl rfl rfl).1 htrans).1 hround⟩

end Value

end SchemaMigration

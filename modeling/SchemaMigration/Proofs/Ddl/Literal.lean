import SchemaMigration.Proofs.Ddl.Skeleton

/-!
# Skeletons of identifiers and literals

Of an identifier in quotes and of a text as a literal one mark is left, whatever they hold. Numbers,
truth values and the absent value are words; every other value is in single quotes.
-/

namespace SchemaMigration

open Text

namespace Skeleton

variable {d : Dialect}

/-! ### Numbers -/

theorem Bare.of_subset {part text : List Char} (h : Bare text) (hsub : part ⊆ text) : Bare part :=
  fun c hc => h c (hsub hc)

theorem bare_plainChars (pointZero : Bool) {digits : List Char} (h : Bare digits) (leading : Int) :
    Bare (Decimal.plainChars pointZero digits leading) := by
  have hpoint : Bare ['0', '.'] := by decide
  unfold Decimal.plainChars
  split
  · exact hpoint.append ((bare_replicate_zero _).append h)
  · dsimp only
    split
    · refine (h.append (bare_replicate_zero _)).append ?_
      split
      · decide
      · exact nofun
    · have hdot : Bare ['.'] := by decide
      exact (h.of_subset (List.take_subset _ _)).append
        (hdot.append (h.of_subset (List.drop_subset _ _)))

/-- Without an exponent a number has digits and at most a point. -/
theorem bare_layOut {layout : Decimal.Layout} (hplain : layout.plain = none) (n : Decimal) :
    Bare (Decimal.layOut layout n) := by
  rw [Decimal.layOut, hplain]
  exact bare_plainChars _ (bare_natDigits _) _

theorem bare_write (x : Binary64) : Bare (x.write Value.literalLayout).toList := by
  unfold Binary64.write
  split
  · decide
  · rw [String.toList_ofList]
    refine Bare.append ?_ ?_
    · split <;> decide
    · split
      · decide
      · exact bare_layOut rfl _

/-! ### Quoted texts -/

theorem toList_quoteLiteral (text : String) :
    (quoteLiteral text).toList = enclosed '\x27' text.toList :=
  String.toList_ofList

theorem toList_quoted (d : Dialect) (identifier : String) :
    (d.quoted identifier).toList = enclosed d.quote identifier.toList :=
  String.toList_ofList

theorem skeleton_quoteLiteral (text : String) :
    SchemaMigration.skeleton (quoteLiteral text).toList = [.literal] := by
  rw [toList_quoteLiteral, skeleton_enclosed rfl]
  rfl

theorem closes_quoteLiteral (text : String) : Closes (quoteLiteral text).toList := by
  rw [toList_quoteLiteral]
  exact closes_enclosed rfl _

/-- Two dialects have the double quote, which begins an identifier. -/
theorem quote_eq (hd : d ≠ .mysql) : d.quote = '"' := by
  cases d with
  | postgresql | sqlite => rfl
  | mysql => exact absurd rfl hd

theorem skeleton_quoted (hd : d ≠ .mysql) (identifier : String) :
    SchemaMigration.skeleton (d.quoted identifier).toList = [.identifier] := by
  rw [toList_quoted, quote_eq hd, skeleton_enclosed rfl]
  rfl

theorem closes_quoted (hd : d ≠ .mysql) (identifier : String) :
    Closes (d.quoted identifier).toList := by
  rw [toList_quoted, quote_eq hd]
  exact closes_enclosed rfl _

/-! ### Values -/

theorem double_of_not_mem {c : Char} {text : List Char} (h : c ∉ text) : double c text = text := by
  induction text with
  | nil => rfl
  | cons x text ih =>
    rw [List.mem_cons, not_or] at h
    have hcons : double c (x :: text) = x :: double c text := by simp [double, Ne.symm h.1]
    rw [hcons, ih h.2]

/-- The digits of bytes stand in quotes behind a letter; there is no quote among them to be written
twice. -/
theorem toList_literal_bytes (data : List UInt8) :
    (Value.bytes data).literal.toList = ['X'] ++ enclosed '\x27' (hexChars data) := by
  have hquote : '\x27' ∉ hexChars data := fun h => nomatch bare_hexChars data _ h
  have hdouble : double '\x27' (hexChars data) = hexChars data := double_of_not_mem hquote
  simp [Value.literal, enclosed, hdouble, hex]

/-- No value leaves a quote open. -/
theorem closes_literal (v : Value) : Closes v.literal.toList := by
  cases v with
  | null => exact Bare.closes (by decide)
  | bool b => cases b <;> exact Bare.closes (by decide)
  | int32 n | int64 n => exact (bare_toString_int _).closes
  | float64 x => exact (bare_write x).closes
  | string _ | uuid _ | datetime _ | json _ | array _ => exact closes_quoteLiteral _
  | bytes data =>
    rw [toList_literal_bytes]
    exact Bare.append_closes (by decide) (closes_enclosed rfl _)

end Skeleton

end SchemaMigration

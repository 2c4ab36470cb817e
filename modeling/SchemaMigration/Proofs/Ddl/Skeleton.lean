import SchemaMigration.Ddl.Piece

/-!
# Skeletons of statements

The skeleton of a statement is what is left of it when every quoted identifier and every quoted
literal is replaced by a mark of its sort. It is read off the characters alone: a quote begins
something quoted, which ends at the next quote of the same sort that is not written twice. What a
statement quotes does not show in its skeleton, as long as no quote stands in its words and no two
quoted pieces touch.
-/

namespace SchemaMigration

open Text

/-- What is left of a statement. -/
inductive Mark where
  /-- A character outside of quotes. -/
  | char (c : Char)
  /-- An identifier in double quotes. -/
  | identifier
  /-- A literal in single quotes. -/
  | literal
  /-- Something quoted does not end. -/
  | unterminated
deriving DecidableEq

/-- Where a reader of a statement is. -/
inductive Reading where
  /-- Outside of quotes. -/
  | outside
  /-- Behind the first of two quotes. -/
  | inside (quote : Char)
  /-- Behind a quote that ends something quoted, unless another one follows. -/
  | closing (quote : Char)

namespace Skeleton

/-- Whether something quoted begins at a character. -/
def isQuote (c : Char) : Bool :=
  c == '"' || c == '\x27'

/-- The mark for something quoted. -/
def markOf (quote : Char) : Mark :=
  if quote = '"' then .identifier else .literal

/-- The marks that are left from where a reader is. -/
def readFrom : Reading → List Char → List Mark
  | .inside _, [] => [.unterminated]
  | _, [] => []
  | .inside quote, c :: rest =>
    if c = quote then readFrom (.closing quote) rest else readFrom (.inside quote) rest
  | .outside, c :: rest =>
    if isQuote c then markOf c :: readFrom (.inside c) rest else .char c :: readFrom .outside rest
  | .closing quote, c :: rest =>
    if c = quote then readFrom (.inside quote) rest
    else if isQuote c then markOf c :: readFrom (.inside c) rest
    else .char c :: readFrom .outside rest

end Skeleton

/-- The skeleton of a statement. -/
def skeleton (statement : List Char) : List Mark :=
  Skeleton.readFrom .outside statement

namespace Skeleton

variable {text rest : List Char} {quote : Char}

/-- No quote stands in a text. -/
def Bare (text : List Char) : Prop :=
  ∀ c ∈ text, isQuote c = false

instance (text : List Char) : Decidable (Bare text) :=
  List.decidableBAll (fun c => isQuote c = false) text

/-- A text does not begin with a quote. -/
def Apart (text : List Char) : Prop :=
  ∀ c ∈ text.head?, isQuote c = false

/-- A text leaves the reader outside of quotes. -/
structure Closes (text : List Char) : Prop where
  /-- What follows is read on its own if it does not begin with a quote. -/
  append (rest : List Char) : Apart rest → skeleton (text ++ rest) = skeleton text ++ skeleton rest
  /-- Everything that is quoted ends. -/
  ended : .unterminated ∉ skeleton text

theorem Bare.skeleton_append (h : Bare text) (rest : List Char) :
    skeleton (text ++ rest) = text.map .char ++ skeleton rest := by
  induction text with
  | nil => rfl
  | cons c text ih =>
    have hc : isQuote c = false := h c List.mem_cons_self
    rw [List.cons_append, skeleton, readFrom, if_neg (by simp [hc]), List.map_cons,
      List.cons_append]
    exact congrArg _ (ih fun d hd => h d (List.mem_cons_of_mem c hd))

theorem Bare.skeleton (h : Bare text) : SchemaMigration.skeleton text = text.map .char := by
  simpa [SchemaMigration.skeleton, readFrom] using h.skeleton_append []

theorem Bare.closes (h : Bare text) : Closes text where
  append rest _ := by rw [h.skeleton_append, h.skeleton]
  ended := by simp [h.skeleton]

theorem Bare.append (h : Bare text) (hrest : Bare rest) : Bare (text ++ rest) :=
  List.forall_mem_append.2 ⟨h, hrest⟩

theorem Bare.append_closes (h : Bare text) (hrest : Closes rest) : Closes (text ++ rest) where
  append behind hbehind := by
    rw [List.append_assoc, h.skeleton_append, hrest.append behind hbehind, h.skeleton_append,
      List.append_assoc]
  ended := by simp [h.skeleton_append, hrest.ended]

/-- If no quote follows, something quoted has ended. -/
theorem readFrom_closing (h : Apart rest) (hquote : isQuote quote = true) :
    readFrom (.closing quote) rest = SchemaMigration.skeleton rest := by
  cases rest with
  | nil => rfl
  | cons c rest =>
    have hc : isQuote c = false := h c rfl
    have hne : c ≠ quote := by
      rintro rfl
      rw [hc] at hquote
      cases hquote
    rw [SchemaMigration.skeleton, readFrom, readFrom, if_neg hne]

/-- Whatever is quoted, the reader gets to the quote at its end. -/
theorem readFrom_double (content rest : List Char) :
    readFrom (.inside quote) (double quote content ++ quote :: rest) =
      readFrom (.closing quote) rest := by
  induction content with
  | nil => exact if_pos rfl
  | cons c content ih =>
    by_cases hc : c = quote
    · -- The first of the two quotes is read as the end, and the second one takes that back.
      subst hc
      have hdouble : double c (c :: content) = c :: c :: double c content := by
        simp [double]
      rw [hdouble, List.cons_append, List.cons_append, readFrom, if_pos rfl, readFrom, if_pos rfl,
        ih]
    · have hdouble : double quote (c :: content) = c :: double quote content := by
        simp [double, hc]
      rw [hdouble, List.cons_append, readFrom, if_neg hc, ih]

/-- Something quoted, with the quotes inside written twice. -/
def enclosed (quote : Char) (content : List Char) : List Char :=
  quote :: (double quote content ++ [quote])

/-- Whatever is quoted, a mark is left of it. -/
theorem skeleton_enclosed_append (hquote : isQuote quote = true) (content : List Char)
    (h : Apart rest) : SchemaMigration.skeleton (enclosed quote content ++ rest) =
      markOf quote :: SchemaMigration.skeleton rest := by
  have hsplit : enclosed quote content ++ rest =
      quote :: (double quote content ++ quote :: rest) := by
    simp [enclosed]
  rw [hsplit, SchemaMigration.skeleton, readFrom, if_pos hquote, readFrom_double,
    readFrom_closing h hquote]

theorem skeleton_enclosed (hquote : isQuote quote = true) (content : List Char) :
    SchemaMigration.skeleton (enclosed quote content) = [markOf quote] := by
  have hapart : Apart [] := nofun
  have h := skeleton_enclosed_append hquote content hapart
  rwa [List.append_nil] at h

example : SchemaMigration.skeleton "\"a\" = 'b''\"c'".toList =
    [.identifier, .char ' ', .char '=', .char ' ', .literal] := by decide

theorem closes_enclosed (hquote : isQuote quote = true) (content : List Char) :
    Closes (enclosed quote content) where
  append rest hrest := by
    rw [skeleton_enclosed_append hquote content hrest, skeleton_enclosed hquote,
      List.singleton_append]
  ended := by
    rw [skeleton_enclosed hquote, markOf]
    split <;> decide

section Words

theorem bare_of_isDigit (h : ∀ c ∈ text, c.isDigit = true) : Bare text := by
  intro c hc
  have hdigit := h c hc
  rw [isQuote, Bool.or_eq_false_iff, beq_eq_false_iff_ne, beq_eq_false_iff_ne]
  constructor
  · rintro rfl
    cases hdigit
  · rintro rfl
    cases hdigit

theorem bare_natDigits (n : Nat) : Bare (natDigits n) :=
  bare_of_isDigit fun _ h => Nat.isDigit_of_mem_toDigits (by decide) (by decide) h

theorem bare_toString_nat (n : Nat) : Bare (toString n).toList := by
  have htext : (toString n).toList = natDigits n := by simp [toString, Nat.repr, natDigits]
  rw [htext]
  exact bare_natDigits n

theorem bare_toString_int (n : Int) : Bare (toString n).toList := by
  cases n with
  | ofNat n => exact bare_toString_nat n
  | negSucc n =>
    have htext : (toString (Int.negSucc n)).toList = ['-'] ++ natDigits (n + 1) := by
      simp [toString, Int.repr, Nat.repr, natDigits]
    rw [htext]
    exact Bare.append (by decide) (bare_natDigits _)

theorem bare_text_append {first second : String} (hfirst : Bare first.toList)
    (hsecond : Bare second.toList) : Bare (first ++ second).toList := by
  rw [String.toList_append]
  exact hfirst.append hsecond

/-- A number between words. -/
theorem bare_number {first second : String} (n : Nat) (hfirst : Bare first.toList)
    (hsecond : Bare second.toList) : Bare (first ++ toString n ++ second).toList :=
  bare_text_append (bare_text_append hfirst (bare_toString_nat n)) hsecond

theorem bare_replicate_zero (n : Nat) : Bare (List.replicate n '0') := by
  intro c hc
  rw [List.eq_of_mem_replicate hc]
  rfl

theorem bare_hexChars (data : List UInt8) : Bare (hexChars data) := by
  have hdigit : ∀ n : Fin 16, isQuote (hexDigit n) = false := by decide
  intro c hc
  obtain ⟨b, -, hc⟩ := List.mem_flatMap.1 hc
  have hb := b.toNat_lt
  rcases List.mem_cons.1 hc with rfl | hc
  · exact hdigit ⟨b.toNat / 16, by omega⟩
  · obtain rfl := List.mem_singleton.1 hc
    exact hdigit ⟨b.toNat % 16, by omega⟩

end Words

end Skeleton

end SchemaMigration

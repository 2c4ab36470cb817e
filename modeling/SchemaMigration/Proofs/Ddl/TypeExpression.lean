import SchemaMigration.Proofs.Ddl.Names
import SchemaMigration.Proofs.Text.Words

/-!
# Types of arrays in PostgreSQL

A type is a name with brackets behind it, one pair for each level of an array. The name is made of
words and perhaps arguments. All arrays have types except for those of an enumeration, whose texts
are a condition on the column: the brackets stand behind the condition.
-/

namespace SchemaMigration

open Text

/-! ### Type expressions -/

/-- The words by which a condition on a column begins. -/
def conditionWords : List String :=
  ["CHECK", "COLLATE", "CONSTRAINT", "DEFAULT", "GENERATED", "NOT", "NULL", "PRIMARY",
    "REFERENCES", "UNIQUE"]

/-- Whether a character can stand in a word of a type. -/
def isTypeChar (c : Char) : Bool :=
  c.isUpper || c.isDigit

/-- A word of a type begins with a capital and begins no condition. -/
def IsTypeWord (word : List Char) : Prop :=
  word.head?.any Char.isUpper = true ∧ word.all isTypeChar = true ∧
    word ∉ conditionWords.map String.toList

instance : DecidablePred IsTypeWord := fun _ => inferInstanceAs (Decidable (_ ∧ _ ∧ _))

/-- An argument of a type is a word or a number. -/
def IsTypeArgument (argument : List Char) : Prop :=
  argument ≠ [] ∧ argument.all isTypeChar = true

instance : DecidablePred IsTypeArgument := fun _ => inferInstanceAs (Decidable (_ ∧ _))

/-- A name of a type: words, perhaps arguments, and perhaps more words. -/
structure TypeName where
  /-- The words in front of the arguments. -/
  words : List (List Char)
  /-- The arguments. -/
  arguments : List (List Char) := []
  /-- The words behind the arguments. -/
  qualifiers : List (List Char) := []
  /-- There is a word. -/
  words_ne_nil : words ≠ []
  /-- The words are words. -/
  isTypeWord : ∀ word ∈ words ++ qualifiers, IsTypeWord word
  /-- The arguments are words or numbers. -/
  isTypeArgument : ∀ argument ∈ arguments, IsTypeArgument argument

/-- Arguments in parentheses, if there are any. -/
def argumentsText : List (List Char) → List Char
  | [] => []
  | arguments => '(' :: (joinChars ", ".toList arguments ++ [')'])

/-- The text of a name. -/
def TypeName.text (n : TypeName) : List Char :=
  joinChars [' '] n.words ++ argumentsText n.arguments ++ n.qualifiers.flatMap (' ' :: ·)

/-- A text is a type with some levels of arrays. -/
inductive IsTypeExpression : Nat → List Char → Prop where
  /-- A name. -/
  | name (n : TypeName) : IsTypeExpression 0 n.text
  /-- An array. -/
  | array {levels : Nat} {text : List Char} (h : IsTypeExpression levels text) :
    IsTypeExpression (levels + 1) (text ++ "[]".toList)

theorem quote_not_mem_of_all {word : List Char} (h : word.all isTypeChar = true) : '"' ∉ word := by
  intro hquote
  exact absurd (List.all_eq_true.1 h '"' hquote) (by decide)

/-- No identifier in quotes stands in a name. -/
theorem TypeName.quote_not_mem_text (n : TypeName) : '"' ∉ n.text := by
  have hword (word : List Char) (hword : word ∈ n.words ++ n.qualifiers) : '"' ∉ word :=
    quote_not_mem_of_all (n.isTypeWord word hword).2.1
  have harguments : '"' ∉ argumentsText n.arguments := by
    unfold argumentsText
    split
    · exact List.not_mem_nil
    · intro h
      simp only [List.mem_cons, List.mem_append, Char.reduceEq, List.not_mem_nil, or_false,
        false_or] at h
      rcases mem_joinChars h with h | ⟨argument, hargument, h⟩
      · exact absurd h (by decide)
      · exact quote_not_mem_of_all (n.isTypeArgument argument hargument).2 h
  intro h
  rw [text, List.mem_append, List.mem_append] at h
  rcases h with (h | h) | h
  · rcases mem_joinChars h with h | ⟨word, hmem, h⟩
    · exact absurd h (by decide)
    · exact hword word (List.mem_append_left _ hmem) h
  · exact harguments h
  · obtain ⟨word, hmem, h⟩ := List.mem_flatMap.1 h
    rcases List.mem_cons.1 h with h | h
    · cases h
    · exact hword word (List.mem_append_right _ hmem) h

namespace IsTypeExpression

variable {levels : Nat} {text : List Char}

theorem quote_not_mem (h : IsTypeExpression levels text) : '"' ∉ text := by
  induction h with
  | name n => exact n.quote_not_mem_text
  | array h ih => simpa using ih

/-- Words with blanks between them are a type. -/
theorem of_words {text : String} (h : ∀ word ∈ splitAt ' ' text.toList, IsTypeWord word) :
    IsTypeExpression 0 text.toList := by
  have htext := IsTypeExpression.name
    { words := splitAt ' ' text.toList, words_ne_nil := splitFrom_ne_nil _ _ _,
      isTypeWord := by simpa using h,
      isTypeArgument := fun _ h => absurd h List.not_mem_nil }
  simpa [TypeName.text, argumentsText, joinChars_splitAt] using htext

/-- A word with arguments, and perhaps with more words, is a type. -/
theorem of_arguments {word : List Char} {arguments qualifiers : List (List Char)}
    (hwords : ∀ w ∈ word :: qualifiers, IsTypeWord w)
    (harguments : ∀ a ∈ arguments, IsTypeArgument a) :
    IsTypeExpression 0 (word ++ argumentsText arguments ++ qualifiers.flatMap (' ' :: ·)) :=
  .name { words := [word], arguments, qualifiers, words_ne_nil := List.cons_ne_nil _ _,
          isTypeWord := hwords, isTypeArgument := harguments }

end IsTypeExpression

/-! ### Kinds -/

theorem isTypeArgument_toDigits (n : Nat) : IsTypeArgument (Nat.toDigits 10 n) := by
  refine ⟨Nat.toDigits_ne_nil, List.all_eq_true.2 fun c hc => ?_⟩
  rw [isTypeChar, Nat.isDigit_of_mem_toDigits (by decide) (by decide) hc, Bool.or_true]

theorem isTypeArgument_sqlName (shape : Shape) : IsTypeArgument shape.sqlName.toList := by
  cases shape <;> decide

namespace ColumnKind

open Piece

/-- The number of levels of an array. A set is an array of texts. -/
def levels : ColumnKind → Nat
  | array element => element.levels + 1
  | set _ => 1
  | _ => 0

/-- What an array of any number of levels holds. -/
def innermost : ColumnKind → ColumnKind
  | array element => element.innermost
  | kind => kind

theorem toString_text (text : String) : toString text = text := rfl

theorem toList_render_code (text : String) :
    (render .postgresql [.code text]).toList = text.toList := by
  simp [render, Piece.text]

/-- Code is a type if it has words and arguments as a type has. -/
theorem isTypeExpression_code {text : String} (word : String) (arguments qualifiers : List String)
    (hwords : ∀ w ∈ word :: qualifiers, IsTypeWord w.toList)
    (harguments : ∀ a ∈ arguments, IsTypeArgument a.toList)
    (htext : text.toList = word.toList ++ argumentsText (arguments.map String.toList) ++
      (qualifiers.map String.toList).flatMap (' ' :: ·)) :
    IsTypeExpression 0 (render .postgresql [.code text]).toList := by
  rw [toList_render_code, htext]
  apply IsTypeExpression.of_arguments
  · simpa using hwords
  · simpa using harguments

theorem isTypeExpression_precision (type : String) (htype : IsTypeWord type.toList)
    (precision : Option Nat) (zone : Bool) :
    IsTypeExpression 0 (render .postgresql
      [.code (type ++ precisionText precision ++ timezoneText zone)]).toList := by
  have hzone : ∀ w ∈ [if zone then "WITH" else "WITHOUT", "TIME", "ZONE"], IsTypeWord w.toList := by
    cases zone <;> decide
  apply isTypeExpression_code type (precision.toList.map toString)
    [if zone then "WITH" else "WITHOUT", "TIME", "ZONE"]
  · exact List.forall_mem_cons.2 ⟨htype, hzone⟩
  · simp [isTypeArgument_toDigits]
  · cases precision <;> cases zone <;>
      simp [precisionText, timezoneText, argumentsText, joinChars, toString_text]

theorem isTypeExpression_shape (type : String) (htype : IsTypeWord type.toList) (shape : Shape)
    (srid : Option Nat) : IsTypeExpression 0
      (render .postgresql [.code (spatialText type shape srid)]).toList := by
  apply isTypeExpression_code type (shape.sqlName :: srid.toList.map toString) []
  · simpa using htype
  · simp [isTypeArgument_toDigits, isTypeArgument_sqlName]
  · cases srid <;> simp [spatialText, argumentsText, joinChars, toString_text]

theorem isTypeExpression_length (type : String) (htype : IsTypeWord type.toList) (length : Nat) :
    IsTypeExpression 0 (render .postgresql [.code s!"{type}({length})"]).toList := by
  apply isTypeExpression_code type [toString length] []
  · simpa using htype
  · simp [isTypeArgument_toDigits]
  · simp [argumentsText, joinChars, toString_text]

/-- Every kind but an enumeration, and arrays of one, has a type. -/
theorem isTypeExpression_postgresql (column : String) {kind : ColumnKind}
    (henum : ∀ values, kind.innermost ≠ .enum values) :
    IsTypeExpression kind.levels (render .postgresql (kind.postgresql column)).toList := by
  have hplain (text : String) (h : ∀ word ∈ splitAt ' ' text.toList, IsTypeWord word) :
      IsTypeExpression 0 (render .postgresql [.code text]).toList := by
    rw [toList_render_code]
    exact .of_words h
  induction kind with
  | array element ih =>
    rw [postgresql, toList_render_append, toList_render_code]
    exact .array (ih henum)
  | enum values => exact absurd rfl (henum values)
  | set values =>
    have hset : (render .postgresql [.code "TEXT[]"]).toList =
        (render .postgresql [.code "TEXT"]).toList ++ "[]".toList := by decide
    rw [postgresql, hset]
    exact .array (hplain "TEXT" (by decide))
  | decimal precision scale =>
    apply isTypeExpression_code "DECIMAL" [toString precision, toString scale] []
    · decide
    · simp [isTypeArgument_toDigits]
    · simp [argumentsText, joinChars, toString_text]
  | float precision =>
    cases precision with
    | none => exact hplain _ (by decide)
    | some precision => exact isTypeExpression_length "FLOAT" (by decide) precision
  | char length => exact isTypeExpression_length "CHAR" (by decide) length
  | string length => exact isTypeExpression_length "VARCHAR" (by decide) length
  | bit length => exact isTypeExpression_length "BIT" (by decide) length
  | time precision zone => exact isTypeExpression_precision "TIME" (by decide) precision zone
  | dateTime precision zone | timestamp precision zone =>
    exact isTypeExpression_precision "TIMESTAMP" (by decide) precision zone
  | geometry shape srid => exact isTypeExpression_shape "GEOMETRY" (by decide) shape srid
  | geography shape srid => exact isTypeExpression_shape "GEOGRAPHY" (by decide) shape srid
  | ulid => exact isTypeExpression_code "CHAR" ["26"] [] (by decide) (by decide) (by decide)
  | objectId => exact isTypeExpression_code "CHAR" ["24"] [] (by decide) (by decide) (by decide)
  | tinyInteger | smallInteger | mediumInteger | integer | bigInteger | double | money | boolean
  | tinyText | text | mediumText | longText | citext | binary | tinyBlob | blob | mediumBlob
  | longBlob | date | year | interval | json | jsonb | xml | hstore | uuid | int4Range | int8Range
  | numRange | tsRange | tstzRange | dateRange | inet | cidr | macAddress | macAddress8 | tsVector
  | tsQuery | computed => exact hplain _ (by decide)

/-- The texts of an enumeration are a condition on the column, behind which the brackets stand. -/
theorem toList_render_postgresql_of_enum (column : String) {kind : ColumnKind}
    {values : List String} (henum : kind.innermost = .enum values) :
    (render .postgresql (kind.postgresql column)).toList = "VARCHAR(255) CHECK (".toList ++
      ((Dialect.postgresql.quoted column).toList ++ (" IN (".toList ++
        ((render .postgresql (literals values)).toList ++ ("))".toList ++
          (List.replicate kind.levels "[]".toList).flatten)))) := by
  induction kind with
  | array element ih =>
    rw [postgresql, toList_render_append, toList_render_code, ih henum, levels,
      List.replicate_succ', List.flatten_append, List.flatten_singleton]
    simp only [List.append_assoc]
  | enum texts =>
    obtain rfl := ColumnKind.enum.inj henum
    rw [postgresql, toList_render_cons, toList_render_cons, toList_render_cons,
      toList_render_append, toList_render_code]
    simp only [Piece.text, levels, List.replicate_zero, List.flatten_nil, List.append_nil]
  | _ => cases henum

end ColumnKind

/-- The type of an array in PostgreSQL is a name with brackets for its levels, unless it holds texts
of an enumeration at its innermost level. Then a condition with the name of the column stands in
front of the brackets. -/
theorem Column.array_is_type_iff (c : Column) (element : ColumnKind) :
    let kind := ColumnKind.array element
    let text := (({ c with kind } : Column).typeText .postgresql).toList
    (IsTypeExpression kind.levels text ↔ ∀ values, element.innermost ≠ .enum values) ∧
      ∀ values, element.innermost = .enum values → text = "VARCHAR(255) CHECK (".toList ++
        ((Dialect.postgresql.quoted c.name).toList ++ (" IN (".toList ++
          ((Piece.render .postgresql (Piece.literals values)).toList ++ ("))".toList ++
            (List.replicate kind.levels "[]".toList).flatten)))) := by
  intro kind text
  have htext : text = (Piece.render .postgresql (kind.postgresql c.name)).toList := by
    have hserial : (if c.autoIncrement then kind.serial? else none) = none := ite_self none
    have hpieces : ({ c with kind } : Column).typePieces .postgresql = kind.postgresql c.name := by
      rw [typePieces, hserial]
    exact congrArg (fun pieces => (Piece.render .postgresql pieces).toList) hpieces
  have hinnermost : kind.innermost = element.innermost := rfl
  rw [htext, ← hinnermost]
  refine ⟨⟨fun htype values henum => htype.quote_not_mem ?_,
    ColumnKind.isTypeExpression_postgresql c.name⟩,
    fun values henum => ColumnKind.toList_render_postgresql_of_enum c.name henum⟩
  rw [ColumnKind.toList_render_postgresql_of_enum c.name henum, Skeleton.toList_quoted]
  exact List.mem_append_right _ (List.mem_append_left _ List.mem_cons_self)

example : ({ name := "c", kind := .array (.enum ["x", "y"]) } : Column).typeText .postgresql =
    "VARCHAR(255) CHECK (\"c\" IN ('x', 'y'))[]" := by decide

end SchemaMigration

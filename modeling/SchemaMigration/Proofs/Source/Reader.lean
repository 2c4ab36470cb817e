import Mathlib.Data.List.Basic
import Mathlib.Tactic.SplitIfs

/-!
# Reading source texts

A source text is read character by character into words, marks and quoted texts, without blanks and
comments. A backslash in a quoted text begins an escape, a line feed behind a backslash is left out
with the blanks that follow, and a carriage return has to stand in front of a line feed and does not
count. What else is written with quotes, such as single characters and raw texts, is not read.

A text between quotes is read back as it is written if it has neither quotes nor backslashes nor
carriage returns. Any other one is read back as something else, or not at all, whatever follows it.
-/

namespace SchemaMigration.Source

/-- What a source text consists of. -/
inductive Token where
  /-- A run of letters, digits and underscores. -/
  | word (text : String)
  /-- Any other character. -/
  | mark (c : Char)
  /-- A quoted text, with its escapes resolved. -/
  | quoted (content : String)
deriving DecidableEq

/-- How far an escape in a quoted text is read. -/
inductive Escape where
  /-- There is none. -/
  | none
  /-- A backslash. -/
  | begun
  /-- A backslash and the letter for two hexadecimal digits. -/
  | byte
  /-- The first of the two digits as well. -/
  | halfByte (high : Nat)
  /-- A backslash and the letter for a character in braces. -/
  | character
  /-- The opening brace as well, and some digits. -/
  | digits (count value : Nat)
  /-- A backslash and a line feed, and perhaps blanks. -/
  | wrapped
  /-- A carriage return. -/
  | returned
  /-- A backslash and a carriage return. -/
  | wrappedReturn
deriving DecidableEq

/-- How far a source text is read. -/
inductive Mode where
  /-- Between tokens. -/
  | code
  /-- In a word. -/
  | word (read : List Char)
  /-- Behind a slash. -/
  | slash
  /-- In a comment that ends with the line. -/
  | comment
  /-- In a comment between slashes and asterisks, and others around it. -/
  | block (depth : Nat) (last : Char)
  /-- In a quoted text. -/
  | quoted (read : List Char) (escape : Escape)
  /-- Behind what is not read. -/
  | stuck
deriving DecidableEq

/-- Whether a character may stand in a word. -/
def isWordPart (c : Char) : Bool :=
  c.isAlphanum || c == '_'

/-- Whether a character ends a word in front of it. With some characters it begins something else. -/
def endsWord (c : Char) : Bool :=
  !isWordPart c && c != '"' && c != '\x27' && c != '#'

/-- Whether a character only separates tokens. -/
def isSpace (c : Char) : Bool :=
  let n := c.toNat
  (9 ≤ n && n ≤ 13) || n == 0x20 || n == 0x85 || n == 0x200E || n == 0x200F || n == 0x2028 ||
    n == 0x2029

/-- The character that a letter behind a backslash stands for. -/
def escaped? (c : Char) : Option Char :=
  match c with
  | 'n' => some '\n'
  | 'r' => some '\r'
  | 't' => some '\t'
  | '0' => some '\x00'
  | '\\' => some '\\'
  | '"' => some '"'
  | '\x27' => some '\x27'
  | _ => none

/-- The value of a hexadecimal digit. -/
def hexDigit? (c : Char) : Option Nat :=
  if '0' ≤ c ∧ c ≤ '9' then some (c.toNat - 48)
  else if 'a' ≤ c ∧ c ≤ 'f' then some (c.toNat - 87)
  else if 'A' ≤ c ∧ c ≤ 'F' then some (c.toNat - 55)
  else none

/-- Reads a character between tokens. -/
def stepCode (c : Char) : List Token × Mode :=
  if isWordPart c then ([], .word [c])
  else if isSpace c then ([], .code)
  else if c = '/' then ([], .slash)
  else if c = '"' then ([], .quoted [] .none)
  else if c = '\x27' then ([], .stuck)
  else ([.mark c], .code)

/-- Reads a character of a quoted text outside its escapes. -/
def stepPlain (read : List Char) (c : Char) : List Token × Mode :=
  if c = '"' then ([.quoted (String.ofList read)], .code)
  else if c = '\\' then ([], .quoted read .begun)
  else if c = '\r' then ([], .quoted read .returned)
  else ([], .quoted (read ++ [c]) .none)

/-- Reads a character of a quoted text. -/
def stepQuoted (read : List Char) (escape : Escape) (c : Char) : List Token × Mode :=
  match escape with
  | .none => stepPlain read c
  | .begun =>
    match escaped? c with
    | some d => ([], .quoted (read ++ [d]) .none)
    | none =>
      if c = 'x' then ([], .quoted read .byte)
      else if c = 'u' then ([], .quoted read .character)
      else if c = '\n' then ([], .quoted read .wrapped)
      else if c = '\r' then ([], .quoted read .wrappedReturn)
      else ([], .stuck)
  | .byte =>
    match hexDigit? c with
    | some high => if high < 8 then ([], .quoted read (.halfByte high)) else ([], .stuck)
    | none => ([], .stuck)
  | .halfByte high =>
    match hexDigit? c with
    | some low => ([], .quoted (read ++ [Char.ofNat (16 * high + low)]) .none)
    | none => ([], .stuck)
  | .character => if c = '{' then ([], .quoted read (.digits 0 0)) else ([], .stuck)
  | .digits count value =>
    if c = '}' then
      if 0 < count ∧ value.isValidChar then ([], .quoted (read ++ [Char.ofNat value]) .none)
      else ([], .stuck)
    else if c = '_' ∧ 0 < count then ([], .quoted read (.digits count value))
    else match hexDigit? c with
      | some digit =>
        if count < 6 then ([], .quoted read (.digits (count + 1) (16 * value + digit)))
        else ([], .stuck)
      | none => ([], .stuck)
  | .wrapped =>
    if c = ' ' ∨ c = '\t' ∨ c = '\n' ∨ c = '\r' then ([], .quoted read .wrapped)
    else stepPlain read c
  | .returned => if c = '\n' then ([], .quoted (read ++ ['\n']) .none) else ([], .stuck)
  | .wrappedReturn => if c = '\n' then ([], .quoted read .wrapped) else ([], .stuck)

/-- Reads a character: the tokens that end in front of it or with it, and how far reading is then. -/
def step (mode : Mode) (c : Char) : List Token × Mode :=
  match mode with
  | .code => stepCode c
  | .word read =>
    if isWordPart c then ([], .word (read ++ [c]))
    else if c = '"' ∨ c = '\x27' ∨ c = '#' then ([], .stuck)
    else (.word (String.ofList read) :: (stepCode c).1, (stepCode c).2)
  | .slash =>
    if c = '/' then ([], .comment)
    else if c = '*' then ([], .block 1 ' ')
    else (.mark '/' :: (stepCode c).1, (stepCode c).2)
  | .comment => ([], if c = '\n' then .code else .comment)
  | .block depth last =>
    if last = '*' ∧ c = '/' then ([], if depth = 1 then .code else .block (depth - 1) ' ')
    else if last = '/' ∧ c = '*' then ([], .block (depth + 1) ' ')
    else ([], .block depth c)
  | .quoted read escape => stepQuoted read escape c
  | .stuck => ([], .stuck)

/-- Reads a text: the tokens that end in it, and how far reading is behind it. -/
def run (mode : Mode) : List Char → List Token × Mode
  | [] => ([], mode)
  | c :: rest =>
    ((step mode c).1 ++ (run (step mode c).2 rest).1, (run (step mode c).2 rest).2)

/-- The tokens of a source text, up to what is not read. A line feed behind the text ends the last of
them. -/
def tokens (text : String) : List Token :=
  (run .code (text.toList ++ ['\n'])).1

/-- The tokens of a source text, if all of it can be read. -/
def tokens? (text : String) : Option (List Token) :=
  if (run .code (text.toList ++ ['\n'])).2 = .code then some (tokens text) else none

/-- The word that tokens begin with. -/
def firstWord? : List Token → Option String
  | .word text :: _ => some text
  | _ => none

/-- The name of the type that is declared first. -/
def declared? : List Token → Option String
  | [] => none
  | token :: rest => if token = .word "struct" then firstWord? rest else declared? rest

/-- The text that a method is called with: it stands behind a point, the name and a bracket. -/
def called? (method : String) : List Token → Option String
  | .mark '.' :: .word name :: .mark '(' :: .quoted content :: _ =>
    if name = method then some content else none
  | _ => none

/-- The texts that a method is called with, in the order of the calls. -/
def calls (method : String) : List Token → List String
  | [] => []
  | token :: rest => (called? method (token :: rest)).toList ++ calls method rest

variable {mode : Mode} {text more read : List Char} {escape : Escape} {c : Char} {method : String}

theorem run_append (mode : Mode) (text more : List Char) : run mode (text ++ more) =
    ((run mode text).1 ++ (run (run mode text).2 more).1, (run (run mode text).2 more).2) := by
  induction text generalizing mode with
  | nil => rfl
  | cons c text ih => simp only [List.cons_append, run, ih, List.append_assoc]

theorem run_stuck (text : List Char) : run .stuck text = ([], .stuck) := by
  induction text with
  | nil => rfl
  | cons c text ih => simp only [run, step, ih, List.append_nil]

/-! ### Words and comments -/

theorem run_word (read : List Char) (h : ∀ c ∈ text, isWordPart c = true) :
    run (.word read) text = ([], .word (read ++ text)) := by
  induction text generalizing read with
  | nil => simp [run]
  | cons c text ih =>
    obtain ⟨hc, htext⟩ := List.forall_mem_cons.1 h
    simp [run, step, hc, ih _ htext]

/-- A word is read when a character comes that ends it. -/
theorem run_word_append {text : String} {more : List Char} {tokens : List Token} (hne : text ≠ "")
    (hpart : ∀ c ∈ text.toList, isWordPart c = true) (hend : more.head?.any endsWord = true)
    (hmore : run .code more = (tokens, .code)) :
    run .code (text.toList ++ more) = (.word text :: tokens, .code) := by
  obtain ⟨first, rest, htext⟩ := List.exists_cons_of_ne_nil (mt String.toList_eq_nil_iff.1 hne)
  rw [htext, List.forall_mem_cons] at hpart
  have hword : run .code text.toList = ([], .word text.toList) := by
    rw [htext, run, step, stepCode, if_pos hpart.1, run_word [first] hpart.2]
    rfl
  cases more with
  | nil => cases hend
  | cons c more =>
    have hc : isWordPart c = false ∧ c ≠ '"' ∧ c ≠ '\x27' ∧ c ≠ '#' := by
      simpa [endsWord, and_assoc] using hend
    have hstep : run (.word text.toList) (c :: more) =
        (.word text :: (run .code (c :: more)).1, (run .code (c :: more)).2) := by
      simp [run, step, hc]
    rw [run_append, hword, hstep, hmore]
    rfl

theorem run_comment (h : '\n' ∉ text) : run .comment text = ([], .comment) := by
  induction text with
  | nil => rfl
  | cons c text ih =>
    obtain ⟨hc, htext⟩ := not_or.1 (mt List.mem_cons.2 h)
    simp [run, step, ih htext, Ne.symm hc]

/-! ### Declarations and calls -/

theorem declared?_append {front : List Token} (h : .word "struct" ∉ front) (name : String)
    (rest : List Token) : declared? (front ++ .word "struct" :: .word name :: rest) = some name := by
  induction front with
  | nil => rfl
  | cons token front ih =>
    obtain ⟨htoken, hfront⟩ := not_or.1 (mt List.mem_cons.2 h)
    rw [List.cons_append, declared?, if_neg (Ne.symm htoken), ih hfront]

/-- Calls are found only where there are points. -/
theorem calls_append_of_not_mem {front : List Token} (h : .mark '.' ∉ front) (rest : List Token) :
    calls method (front ++ rest) = calls method rest := by
  induction front with
  | nil => rfl
  | cons token front ih =>
    obtain ⟨htoken, hfront⟩ := not_or.1 (mt List.mem_cons.2 h)
    have hnone : called? method (token :: (front ++ rest)) = none := by
      unfold called?
      split
      · rename_i heq
        exact absurd (List.cons.inj heq).1.symm htoken
      · rfl
    rw [List.cons_append, calls, hnone, ih hfront]
    rfl

/-! ### Quoted texts -/

/-- Whether a character means itself between quotes. -/
def isPlain (c : Char) : Bool :=
  c != '"' && c != '\\' && c != '\r'

theorem step_quoted_of_isPlain (h : isPlain c = true) (read : List Char) :
    step (.quoted read .none) c = ([], .quoted (read ++ [c]) .none) := by
  simp only [isPlain, Bool.and_eq_true, bne_iff_ne] at h
  simp [step, stepQuoted, stepPlain, h]

theorem run_quoted_of_forall (h : ∀ c ∈ text, isPlain c = true) (read : List Char) :
    run (.quoted read .none) text = ([], .quoted (read ++ text) .none) := by
  induction text generalizing read with
  | nil => simp [run]
  | cons c text ih =>
    obtain ⟨hc, htext⟩ := List.forall_mem_cons.1 h
    simp [run, step_quoted_of_isPlain hc, ih htext]

/-- A text between quotes is read back if all its characters mean themselves. -/
theorem run_quoted_append {content : String} (h : ∀ c ∈ content.toList, isPlain c = true)
    (more : List Char) : run (.quoted [] .none) (content.toList ++ '"' :: more) =
      (.quoted content :: (run .code more).1, (run .code more).2) := by
  rw [run_append, run_quoted_of_forall h]
  simp [run, step, stepQuoted, stepPlain]

/-- What a character of a quoted text comes to. -/
inductive Outcome (read : List Char) (c : Char) : List Token × Mode → Prop where
  /-- A quote ends the text. -/
  | ends (quote : c = '"') : Outcome read c ([.quoted (String.ofList read)], .code)
  /-- Reading stops. -/
  | stops : Outcome read c ([], .stuck)
  /-- The character is a part of an escape, or left out. -/
  | goesOn (escape : Escape) (plain : c ≠ '"') : Outcome read c ([], .quoted read escape)
  /-- A character is added. It is a quote if one is read. -/
  | adds (d : Char) (quote : c = '"' → d = '"') : Outcome read c ([], .quoted (read ++ [d]) .none)

theorem outcome_stepPlain (read : List Char) (c : Char) : Outcome read c (stepPlain read c) := by
  unfold stepPlain
  split_ifs with hquote
  · exact .ends hquote
  · exact .goesOn _ hquote
  · exact .goesOn _ hquote
  · exact .adds c id

theorem escaped?_quote : escaped? '"' = some '"' := rfl

theorem outcome_stepQuoted (read : List Char) (escape : Escape) (c : Char) :
    Outcome read c (stepQuoted read escape c) := by
  have hdigit {digit : Nat} (h : hexDigit? c = some digit) : c ≠ '"' := by
    rintro rfl
    cases h
  cases escape with
  | none => exact outcome_stepPlain read c
  | begun =>
    dsimp only [stepQuoted]
    split
    · rename_i d hd
      refine .adds d fun hquote => ?_
      rw [hquote, escaped?_quote] at hd
      exact (Option.some.inj hd).symm
    · rename_i hnone
      have hplain : c ≠ '"' := by
        rintro rfl
        cases hnone
      split_ifs
      all_goals first | exact .goesOn _ hplain | exact .stops
  | byte =>
    dsimp only [stepQuoted]
    split
    · rename_i hhigh
      split_ifs
      · exact .goesOn _ (hdigit hhigh)
      · exact .stops
    · exact .stops
  | halfByte high =>
    dsimp only [stepQuoted]
    split
    · rename_i hlow
      exact .adds _ fun hquote => absurd hquote (hdigit hlow)
    · exact .stops
  | character =>
    dsimp only [stepQuoted]
    split_ifs with hbrace
    · exact .goesOn _ (by simp [hbrace])
    · exact .stops
  | digits count value =>
    dsimp only [stepQuoted]
    split_ifs with hbrace hvalid hunderscore hcount
    · exact .adds _ (by simp [hbrace])
    · exact .stops
    · exact .goesOn _ (by simp [hunderscore])
    · split
      · rename_i hvalue
        exact .goesOn _ (hdigit hvalue)
      · exact .stops
    · split <;> exact .stops
  | wrapped =>
    dsimp only [stepQuoted]
    split_ifs with hblank
    · refine .goesOn _ ?_
      rintro rfl
      simp at hblank
    · exact outcome_stepPlain read c
  | returned =>
    dsimp only [stepQuoted]
    split_ifs with hfeed
    · exact .adds _ (by simp [hfeed])
    · exact .stops
  | wrappedReturn =>
    dsimp only [stepQuoted]
    split_ifs with hfeed
    · exact .goesOn _ (by simp [hfeed])
    · exact .stops

/-- What is read of a quoted text stands at the beginning of the token that comes of it, if any
does. -/
theorem run_quoted_cases (read : List Char) (escape : Escape) (text : List Char) :
    (∃ content out, (run (.quoted read escape) text).1 = .quoted content :: out ∧
      read <+: content.toList) ∨
      (run (.quoted read escape) text).1 = [] ∧ (run (.quoted read escape) text).2 ≠ .code := by
  induction text generalizing read escape with
  | nil => exact .inr ⟨rfl, nofun⟩
  | cons c text ih =>
    have houtcome := outcome_stepQuoted read escape c
    simp only [run, step]
    generalize stepQuoted read escape c = result at houtcome
    cases houtcome with
    | ends quote => exact .inl ⟨String.ofList read, _, rfl, by simp⟩
    | stops =>
      rw [run_stuck]
      exact .inr ⟨rfl, nofun⟩
    | goesOn escape plain => exact ih read escape
    | adds d quote =>
      rcases ih (read ++ [d]) .none with ⟨content, out, hout, hprefix⟩ | hnothing
      · exact .inl ⟨content, out, hout, (List.prefix_append _ _).trans hprefix⟩
      · exact .inr hnothing

/-- Without a quote a quoted text does not end, and no more is read than there is. -/
theorem run_quoted_of_not_mem (h : '"' ∉ text) (read : List Char) (escape : Escape) :
    run (.quoted read escape) text = ([], .stuck) ∨
      ∃ added escape', run (.quoted read escape) text = ([], .quoted (read ++ added) escape') ∧
        added.length ≤ text.length := by
  induction text generalizing read escape with
  | nil => exact .inr ⟨[], escape, by simp [run], Nat.le_refl 0⟩
  | cons c text ih =>
    obtain ⟨hc, htext⟩ := not_or.1 (mt List.mem_cons.2 h)
    have houtcome := outcome_stepQuoted read escape c
    simp only [run, step]
    generalize stepQuoted read escape c = result at houtcome
    cases houtcome with
    | ends quote => exact absurd quote.symm hc
    | stops =>
      rw [run_stuck]
      exact .inl rfl
    | goesOn escape plain =>
      rcases ih htext read escape with hstuck | ⟨added, escape', hrun, hlength⟩
      · exact .inl (by rw [hstuck]; rfl)
      · refine .inr ⟨added, escape', by rw [hrun]; rfl, ?_⟩
        exact Nat.le_succ_of_le hlength
    | adds d quote =>
      rcases ih htext (read ++ [d]) .none with hstuck | ⟨added, escape', hrun, hlength⟩
      · exact .inl (by rw [hstuck]; rfl)
      · refine .inr ⟨d :: added, escape', ?_, Nat.succ_le_succ hlength⟩
        rw [hrun, List.append_assoc]
        rfl

/-- A text between quotes is read back as another one, or reading does not come to its end. -/
def Misreads (content : String) (result : List Token × Mode) : Prop :=
  (∃ other out, result.1 = .quoted other :: out ∧ other ≠ content) ∨
    result.1 = [] ∧ result.2 ≠ .code

/-- Behind a character that was left out too little is read to make up for it: the first quote either
ends the text too early or is read too early. -/
theorem misreads_of_leftOut {content : String} {front middle tail : List Char}
    (hcontent : content.toList = front ++ c :: (middle ++ tail)) (hc : c ≠ '"')
    (hmiddle : '"' ∉ middle) (escape : Escape) (behind : List Char) :
    Misreads content (run (.quoted front escape) (middle ++ '"' :: behind)) := by
  rw [run_append]
  rcases run_quoted_of_not_mem hmiddle front escape with hstuck | ⟨added, escape', hrun, hlength⟩
  · rw [hstuck, run_stuck]
    exact .inr ⟨rfl, nofun⟩
  rw [hrun]
  have houtcome := outcome_stepQuoted (front ++ added) escape' '"'
  simp only [run, step, List.nil_append]
  generalize stepQuoted (front ++ added) escape' '"' = result at houtcome
  cases houtcome with
  | ends quote =>
    refine .inl ⟨String.ofList (front ++ added), _, rfl, fun heq => ?_⟩
    have hlengths := congrArg (fun text => text.toList.length) heq
    simp only [String.toList_ofList, hcontent, List.length_append, List.length_cons] at hlengths
    omega
  | stops =>
    rw [run_stuck]
    exact .inr ⟨rfl, nofun⟩
  | goesOn escape plain => exact absurd rfl plain
  | adds d quote =>
    rcases run_quoted_cases (front ++ added ++ [d]) .none behind with
      ⟨other, out, hout, hprefix⟩ | hnothing
    · refine .inl ⟨other, out, hout, ?_⟩
      rintro rfl
      rw [hcontent, List.append_assoc, List.prefix_append_right_inj, quote rfl] at hprefix
      have hshort : added ++ ['"'] <+: c :: middle :=
        List.prefix_of_prefix_length_le hprefix (List.prefix_append (c :: middle) tail)
          (by simpa using hlength)
      exact (List.mem_cons.1 (hshort.subset (by simp))).elim (fun h => hc h.symm) hmiddle
    · exact .inr hnothing

/-- A text with a character that does not mean itself is not read back. -/
theorem misreads_of_not_isPlain {content : String} (h : ∃ c ∈ content.toList, isPlain c = false)
    (more : List Char) :
    Misreads content (run (.quoted [] .none) (content.toList ++ '"' :: more)) := by
  have hfind : (content.toList.find? fun c => !isPlain c).isSome := by
    simpa [List.find?_isSome] using h
  obtain ⟨c, hfind⟩ := Option.isSome_iff_exists.1 hfind
  obtain ⟨hc, front, rest, hcontent, hfront⟩ := List.find?_eq_some_iff_append.1 hfind
  simp only [Bool.not_eq_true', Bool.not_not] at hc hfront
  have htext : content.toList ++ '"' :: more = front ++ c :: (rest ++ '"' :: more) := by
    simp [hcontent]
  rw [htext, run_append, run_quoted_of_forall hfront]
  by_cases hquote : c = '"'
  · refine .inl ⟨String.ofList front, _, by simp [run, step, stepQuoted, stepPlain, hquote]; rfl, ?_⟩
    rintro rfl
    simp at hcontent
  -- The first quote behind that character is one of the text, or the one behind the text.
  obtain ⟨middle, tail, behind, hrest, hmiddle, hbehind⟩ : ∃ middle tail behind,
      rest = middle ++ tail ∧ '"' ∉ middle ∧ rest ++ '"' :: more = middle ++ '"' :: behind := by
    by_cases hmem : '"' ∈ rest
    · obtain ⟨middle, tail, rfl, hmiddle⟩ := List.eq_append_cons_of_mem hmem
      exact ⟨middle, '"' :: tail, tail ++ '"' :: more, rfl, hmiddle, by simp⟩
    · exact ⟨rest, [], more, by simp, hmem, rfl⟩
  obtain ⟨escape, hstep⟩ : ∃ escape, stepPlain front c = ([], .quoted front escape) := by
    simp only [isPlain, Bool.and_eq_false_iff, bne_eq_false_iff_eq] at hc
    rcases hc with (hc | rfl) | rfl
    · exact absurd hc hquote
    · exact ⟨.begun, rfl⟩
    · exact ⟨.returned, rfl⟩
  have hleftOut := misreads_of_leftOut (hrest ▸ hcontent) hquote hmiddle escape behind
  simpa [run, step, stepQuoted, hstep, hbehind] using hleftOut

end SchemaMigration.Source

import SchemaMigration.Proofs.Store.FreshNumber
import SchemaMigration.Proofs.Store.Insertion

/-!
# Which rows a value identifies

A query for an identifying value takes a row without an identifier for one whose identifier is
absent, while updates and deletions pass such a row over. But from a store without tables on each
row has an identifier, which no request takes from it. So all requests agree on the rows that a
value identifies: a deletion removes the rows that the query finds, and an update changes the first
one of them.
-/

namespace SchemaMigration

/-- The first item that satisfies a test is the one that is changed. -/
theorem updateFirst?_of_first {α : Type} {p : α → Bool} (f : α → α) {earlier later : List α} {a : α}
    (hearlier : ∀ b ∈ earlier, ¬p b = true) (ha : p a = true) :
    updateFirst? p f (earlier ++ a :: later) = some (f a, earlier ++ f a :: later) := by
  induction earlier with
  | nil => rw [List.nil_append, updateFirst?, if_pos ha, List.nil_append]
  | cons b earlier ih =>
    obtain ⟨hb, hearlier⟩ := List.forall_mem_cons.1 hearlier
    rw [List.cons_append, updateFirst?, if_neg hb, ih hearlier]
    rfl

namespace Table

variable {t t' : Table} {id : Value}

/-- New tables have a property, and no change of rows takes it from a table. -/
structure Lasting (P : Table → Prop) : Prop where
  new : ∀ columns, P { columns }
  insert : ∀ {t t' : Table} {r stored : Row}, P t → t.insert? r = some (stored, t') → P t'
  update : ∀ {t t' : Table} {id : Value} {data r : Row}, P t →
    t.update? id data = some (r, t') → P t'
  delete : ∀ {t : Table} (id : Value), P t → P (t.delete id)

/-- Each row has an identifier, be it an absent value. -/
def Identified (t : Table) : Prop :=
  ∀ r ∈ t.rows, r.contains t.idColumn = true

/-- A row that is inserted has the identifier that it brings along, or gets a number for one. -/
theorem Identified.insert? (h : t.Identified) {r stored : Row}
    (hinsert : t.insert? r = some (stored, t')) : t'.Identified := by
  have happend := eq_append_of_insert? hinsert
  have hstored : stored.contains t.idColumn = true := by
    rw [Dict.contains_eq_isSome]
    obtain ⟨explicit, -, hexplicit, -, rfl, -⟩ | ⟨-, -, -, rfl, -⟩ := insert?_eq_some.1 hinsert
    · obtain ⟨value, hvalue, -⟩ := Option.bind_eq_some_iff.1 hexplicit
      rw [hvalue]
      rfl
    · rw [Dict.get?_insert_self]
      rfl
  rw [happend]
  intro other hother
  rcases List.mem_append.1 hother with hold | hnew
  · exact h other hold
  · exact List.mem_singleton.1 hnew ▸ hstored

/-- An update takes no value from a row. -/
theorem Identified.update? (h : t.Identified) {data r : Row}
    (hupdate : t.update? id data = some (r, t')) : t'.Identified := by
  obtain ⟨earlier, a, later, hrows, -, rfl, rfl⟩ := update?_eq_some hupdate
  have hold (other : Row) (hother : other ∈ earlier ++ a :: later) :
      other.contains t.idColumn = true := h other (hrows ▸ hother)
  intro other hother
  change other ∈ earlier ++ a.union data :: later at hother
  change other.contains t.idColumn = true
  simp only [List.mem_append, List.mem_cons] at hold hother
  rcases hother with hearlier | rfl | hlater
  · exact hold other (.inl hearlier)
  · have ha := hold a (.inr (.inl rfl))
    rw [Dict.contains_eq_isSome] at ha ⊢
    rw [Dict.get?_union, Option.isSome_or, ha, Bool.or_true]
  · exact hold other (.inr (.inr hlater))

theorem lasting_identified : Lasting Identified where
  new _ := fun _ hr => nomatch hr
  insert h hinsert := h.insert? hinsert
  update h hupdate := h.update? hupdate
  delete _ h := fun r hr => h r (List.mem_of_mem_filter hr)

end Table

namespace Store

variable {s s' : Store} {P : Table → Prop}

/-- All tables have a property, and so do those that a rollback would put back. -/
structure Throughout (P : Table → Prop) (s : Store) : Prop where
  tables : ∀ {name t}, s.tables.get? name = some t → P t
  snapshot : ∀ {tables}, s.snapshot = some tables → ∀ {name t}, tables.get? name = some t → P t

theorem Throughout.start (hempty : s.tables = ∅) (hclosed : s.snapshot = none) :
    s.Throughout P := by
  constructor
  · intro name t ht
    rw [hempty] at ht
    cases ht
  · intro tables htables
    rw [hclosed] at htables
    cases htables

theorem Throughout.withTable (h : s.Throughout P) {name : String} {t : Table} (ht : P t) :
    (s.withTable name t).Throughout P := by
  refine ⟨fun {other t'} ht' => ?_, h.snapshot⟩
  simp only [Store.withTable, Dict.get?_insert] at ht'
  split at ht'
  · exact Option.some.inj ht' ▸ ht
  · exact h.tables ht'

theorem Throughout.perform (h : s.Throughout P) (hP : Table.Lasting P) {op : Operation}
    {answer : op.Answer} (hok : perform op s = .ok (answer, s')) : s'.Throughout P := by
  cases answered hok with
  | idle | ran | rejecting | locked | unlocked => exact ⟨h.tables, h.snapshot⟩
  | created => exact h.withTable (hP.new _)
  | @dropped name =>
    refine ⟨fun {other t} ht => ?_, h.snapshot⟩
    rw [Dict.get?_erase] at ht
    split at ht
    · cases ht
    · exact h.tables ht
  | inserted found stores => exact h.withTable (hP.insert (h.tables found) stores)
  | updated found joins => exact h.withTable (hP.update (h.tables found) joins)
  | deleted found => exact h.withTable (hP.delete _ (h.tables found))
  | opened => exact ⟨h.tables, fun htables => Option.some.inj htables ▸ h.tables⟩
  | committed => exact ⟨h.tables, nofun⟩
  | rolledBack opened => exact ⟨h.snapshot opened, nofun⟩

/-- A property that no change of rows takes from a table lasts through all requests. -/
theorem Throughout.afterAll (h : s.Throughout P) (hP : Table.Lasting P) (ops : List Operation) :
    (s.afterAll ops).Throughout P := by
  induction ops generalizing s with
  | nil => exact h
  | cons op rest ih =>
    refine ih ?_
    obtain ⟨answer, hok⟩ | ⟨-, hafter⟩ := after_cases s op
    · exact h.perform hP hok
    · rwa [hafter]

variable {name : String} {t : Table}

/-- If each row has an identifier, a query for an identifying value finds the rows that it
identifies, as they were inserted. -/
theorem select_identified (ht : s.tables.get? name = some t) (h : t.Identified) (id : Value) :
    s.select name (({} : Query).whereEq t.idColumn id) = .ok (t.rows.filter (t.identifies id)) := by
  let q := ({} : Query).whereEq t.idColumn id
  have hsorted := Query.sorted_of_unordered (q := q) rfl t.rows
  have hfilter : t.rows.filter q.accepts = t.rows.filter (t.identifies id) :=
    List.filter_congr fun r hr => accepts_whereEq t id (h r hr)
  rw [Tracking.select_of_get? ht, ← hfilter, ← hsorted]
  exact congrArg Except.ok (List.map_id _)

/-- A deletion says whether there were rows that the value identifies, and removes them. -/
theorem delete_eq (ht : s.tables.get? name = some t) (id : Value) : delete name id s =
    .ok (!(t.rows.filter (t.identifies id)).isEmpty,
      if t.rows.filter (t.identifies id) = [] then s else s.withTable name (t.delete id)) := by
  have hany : t.rows.any (t.identifies id) = !(t.rows.filter (t.identifies id)).isEmpty := by
    rw [Bool.eq_iff_iff]
    simp
  rw [delete_eq_ok]
  refine ⟨t, ht, hany.symm, ?_⟩
  simp only [Bool.not_eq_true', List.isEmpty_eq_false_iff, ne_eq, ite_not]

theorem update_of_none_identified (ht : s.tables.get? name = some t) {id : Value}
    (h : t.rows.filter (t.identifies id) = []) (data : Row) :
    update name id data s = refuse (.noSuchRow name t.idColumn id.inspect) := by
  have hnone : t.update? id data = none := by
    rw [Option.eq_none_iff_forall_ne_some]
    rintro ⟨r, t'⟩ hupdate
    obtain ⟨earlier, a, later, hrows, ha, -⟩ := Table.update?_eq_some hupdate
    have hmem : a ∈ t.rows.filter (t.identifies id) :=
      List.mem_filter.2 ⟨by simp [hrows], ha⟩
    rw [h] at hmem
    cases hmem
  rw [update, table_eq_ok.2 ht]
  simp only [bind, Except.bind, hnone]

/-- An update joins its data to the first row that the value identifies. -/
theorem update_of_first_identified (ht : s.tables.get? name = some t) {id : Value}
    {earlier later : List Row} {r : Row} (hrows : t.rows = earlier ++ r :: later)
    (hearlier : ∀ a ∈ earlier, ¬t.identifies id a = true) (hr : t.identifies id r = true)
    (data : Row) : update name id data s =
      .ok (r.union data, s.withTable name { t with rows := earlier ++ r.union data :: later }) := by
  refine update_eq_ok.2 ⟨t, _, ht, ?_, rfl⟩
  rw [Table.update?, hrows, updateFirst?_of_first (fun r => Dict.union r data) hearlier hr]
  rfl

open Classical in
/-- Whatever was requested before of a store that had no tables, a query for an identifying value
finds the rows that a deletion removes, of which an update changes the first one in the given
columns. If it finds none, a deletion says so and an update fails. -/
theorem requests_agree_on_rows (hempty : s.tables = ∅) (hclosed : s.snapshot = none)
    (ops : List Operation) (ht : (s.afterAll ops).tables.get? name = some t) (id : Value) :
    let s' := s.afterAll ops
    ∃ found, s'.select name (({} : Query).whereEq t.idColumn id) = .ok found ∧
      delete name id s' = .ok (!found.isEmpty, if found = [] then s'
        else s'.withTable name { t with rows := t.rows.filter (· ∉ found) }) ∧
      (found = [] → ∀ data, update name id data s' =
        refuse (.noSuchRow name t.idColumn id.inspect)) ∧
      ∀ r rest, found = r :: rest → ∃ earlier later, t.rows = earlier ++ r :: later ∧
        (∀ a ∈ earlier, a ∉ found) ∧
        ∀ data, ∃ r', update name id data s' =
            .ok (r', s'.withTable name { t with rows := earlier ++ r' :: later }) ∧
          ∀ column, r'.get? column = (data.get? column).or (r.get? column) := by
  intro s'
  have hidentified : t.Identified :=
    ((Throughout.start hempty hclosed).afterAll Table.lasting_identified ops).tables ht
  have hmem (r : Row) (hr : r ∈ t.rows) :
      r ∈ t.rows.filter (t.identifies id) ↔ t.identifies id r = true := by
    rw [List.mem_filter, and_iff_right hr]
  refine ⟨t.rows.filter (t.identifies id), select_identified ht hidentified id, ?_,
    update_of_none_identified ht, fun r rest hfound => ?_⟩
  · -- A row is found just if the value identifies it, so the rows not found are kept.
    have hkept : t.delete id =
        { t with rows := t.rows.filter (· ∉ t.rows.filter (t.identifies id)) } := by
      refine congrArg (fun rows => { t with rows }) (List.filter_congr fun r hr => ?_)
      simp [hmem r hr]
    rw [delete_eq ht id, hkept]
  · obtain ⟨earlier, later, hrows, hearlier, hr, -⟩ := List.filter_eq_cons_iff.1 hfound
    refine ⟨earlier, later, hrows, fun a ha => ?_, fun data => ⟨r.union data,
      update_of_first_identified ht hrows hearlier hr data, fun column => Dict.get?_union ..⟩⟩
    rw [hmem a (by simp [hrows, ha])]
    exact hearlier a ha

/-- The number 1 identifies a row with the text 1 and one with the number: both are found and
deleted, and the first one is updated. -/
theorem text_and_number_one :
    let other : Row := Dict.ofList [("id", .int64 7)]
    let text : Row := Dict.ofList [("id", .string "1")]
    let number : Row := Dict.ofList [("id", .int32 1)]
    let ops : List Operation := [.createTable "users" [], .insert "users" other,
      .insert "users" text, .insert "users" number]
    let s := afterAll {} ops
    let id : Value := .int64 1
    ({} : Store).tables = ∅ ∧ ({} : Store).snapshot = none ∧
      ∃ t, s.tables.get? "users" = some t ∧
        s.select "users" (({} : Query).whereEq "id" id) = .ok [text, number] ∧
        delete "users" id s = .ok (true, s.withTable "users" { t with rows := [other] }) ∧
        ∃ r s', update "users" id (Dict.ofList [("name", .string "a")]) s = .ok (r, s') ∧
          r.get? "id" = some (.string "1") ∧ r.get? "name" = some (.string "a") := by
  intro other text number ops s id
  let t : Table := { columns := [], rows := [other, text, number], nextId := 8 }
  have ht : s.tables.get? "users" = some t := by
    dsimp only [s, ops, t, other, text, number]
    cbv
  obtain ⟨found, hselect, hdelete, -, hupdate⟩ := requests_agree_on_rows rfl rfl ops ht id
  have hfound : s.select "users" (({} : Query).whereEq "id" id) = .ok [text, number] := by
    rw [Tracking.select_of_get? ht]
    dsimp only [t, other, text, number, id]
    cbv
  obtain rfl : found = [text, number] := Except.ok.inj (hselect.symm.trans hfound)
  have hother : other ∉ [text, number] := by
    have hscale (r : Row) (h : other = r) : (r.valueAt "id").toInt64? = some 7 := by
      rw [← h]
      decide
    intro hmem
    rcases List.mem_cons.1 hmem with htext | hnumber
    · exact absurd (hscale text htext) (by decide)
    · exact absurd (hscale number (List.mem_singleton.1 hnumber)) (by decide)
  obtain ⟨earlier, later, -, -, hjoined⟩ := hupdate text [number] rfl
  obtain ⟨r, hr, hcolumns⟩ := hjoined (Dict.ofList [("name", .string "a")])
  refine ⟨rfl, rfl, t, ht, hfound, ?_, r, _, hr, (hcolumns "id").trans ?_,
    (hcolumns "name").trans ?_⟩
  · rw [hdelete]
    simp [t, s, hother]
  · cbv
  · cbv

end Store

end SchemaMigration

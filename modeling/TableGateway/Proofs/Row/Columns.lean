import TableGateway.Proofs.Gateway.Ending

/-!
# A row and its record

A row finds the value under a name at the first label of that name, and its record keeps the value
of the last one, where a label comes again. So the two give the same under every name that stands
among the labels at most once, and under no other name can that be relied upon.
-/

namespace TableGateway

def ColumnAccess.value? : ColumnAccess → Option Value
  | found value => some value
  | _ => none

namespace Row

def under (row : Row) (name : String) : List Value :=
  (row.pairs.filter fun pair => pair.1 = name).map Prod.snd

/-- The row and its record have the same value under a name, or neither of them has one. -/
def Agrees (row : Row) (name : String) : Prop :=
  (row.column name).value? = row.toRecord.get? name

/-! ## The first label and the last one -/

theorem under_cons (label : String) (labels : List String) (value : Value) (values : List Value)
    (name : String) :
    under ⟨label :: labels, value :: values⟩ name =
      if label = name then value :: under ⟨labels, values⟩ name
      else under ⟨labels, values⟩ name := by
  by_cases same : label = name <;> simp [under, pairs, same]

theorem column_eq {row : Row} (complete : row.Complete) (name : String) :
    row.column name =
      match (row.under name).head? with
      | some value => .found value
      | none => .absent := by
  obtain ⟨labels, values⟩ := row
  induction labels generalizing values with
  | nil => rfl
  | cons label labels ih =>
      cases values with
      | nil => cases complete
      | cons value values =>
          have behind := ih values (Nat.succ.inj complete)
          rw [under_cons]
          by_cases same : label = name
          · rw [if_pos same, column, columnIn, if_pos same]
            rfl
          · rw [if_neg same, column, columnIn, if_neg same]
            exact behind

theorem value?_column {row : Row} (complete : row.Complete) (name : String) :
    (row.column name).value? = (row.under name).head? := by
  rw [column_eq complete]
  cases (row.under name).head? <;> rfl

/-- A row with one value per label has what it is asked for, if it has the label. -/
theorem column_ne_beyond {row : Row} (complete : row.Complete) (name : String) :
    row.column name ≠ .beyond := by
  rw [column_eq complete]
  cases (row.under name).head? with
  | none => exact ColumnAccess.noConfusion
  | some value => exact ColumnAccess.noConfusion

theorem get?_toRecord (row : Row) (name : String) :
    row.toRecord.get? name = (row.under name).getLast? := by
  rw [toRecord, OrderedMap.get?_ofList, under, List.getLast?_map, List.getLast?_eq_head?_reverse,
    ← List.filter_reverse, List.head?_filter]

theorem length_under {row : Row} (complete : row.Complete) (name : String) :
    (row.under name).length = row.labels.count name := by
  have labels : row.pairs.map Prod.fst = row.labels :=
    List.map_fst_zip (Nat.le_of_eq complete.symm)
  rw [under, List.length_map, ← List.countP_eq_length_filter, ← labels, List.count, List.countP_map]
  rfl

theorem mem_labels_iff {row : Row} (complete : row.Complete) (name : String) :
    name ∈ row.labels ↔ row.under name ≠ [] := by
  rw [← List.count_pos_iff, ← length_under complete, List.length_pos_iff]

/-! ## Repeated labels -/

theorem agrees_iff {row : Row} (complete : row.Complete) (name : String) :
    row.Agrees name ↔ (row.under name).head? = (row.under name).getLast? := by
  rw [Agrees, value?_column complete, get?_toRecord]

theorem agrees_of_count_le_one {row : Row} (complete : row.Complete) {name : String}
    (once : row.labels.count name ≤ 1) : row.Agrees name := by
  rw [agrees_iff complete]
  rw [← length_under complete] at once
  match row.under name, once with
  | [], _ => rfl
  | [_], _ => rfl

theorem under_append {labels others : List String} {values more : List Value}
    (complete : Complete ⟨labels, values⟩) (name : String) :
    under ⟨labels ++ others, values ++ more⟩ name =
      under ⟨labels, values⟩ name ++ under ⟨others, more⟩ name := by
  have aligned : labels.length = values.length := Eq.symm complete
  simp [under, pairs, List.zip_append aligned]

/-- Under a label that comes again some values tell the first one from the last one. -/
theorem exists_disagreeing {labels : List String} {name : String}
    (again : 1 < labels.count name) :
    ∃ values : List Value, Complete ⟨labels, values⟩ ∧ ¬Agrees ⟨labels, values⟩ name := by
  obtain ⟨before, after, rfl, fresh⟩ :=
    List.eq_append_cons_of_mem (List.count_pos_iff.1 (Nat.lt_of_succ_lt again))
  -- The first value under the name is null, and all values behind that one are true.
  let front : List Value := before.map fun _ => .null
  let back : List Value := after.map fun _ => .boolean true
  have complete : Complete ⟨before ++ name :: after, front ++ .null :: back⟩ := by
    simp [Complete, front, back]
  refine ⟨front ++ .null :: back, complete, ?_⟩
  have front_complete : Complete ⟨before, front⟩ := List.length_map _
  have back_complete : Complete ⟨after, back⟩ := List.length_map _
  have bare : under ⟨before, front⟩ name = [] :=
    Classical.not_not.1 fun named => fresh ((mem_labels_iff front_complete name).2 named)
  have named : under ⟨after, back⟩ name ≠ [] := by
    rw [← mem_labels_iff back_complete, ← List.count_pos_iff]
    rw [List.count_append, List.count_eq_zero_of_not_mem fresh, List.count_cons_self,
      Nat.zero_add] at again
    exact Nat.lt_of_succ_lt_succ again
  have last : (under ⟨after, back⟩ name).getLast? = some (.boolean true) := by
    have all : ∀ value ∈ under ⟨after, back⟩ name, value = .boolean true := by
      intro value mem
      obtain ⟨pair, kept, rfl⟩ := List.mem_map.1 mem
      obtain ⟨label, -, same⟩ :=
        List.mem_map.1 (List.of_mem_zip (List.mem_filter.1 kept).1).2
      exact same.symm
    rw [List.getLast?_eq_some_getLast named, all _ (List.getLast_mem named)]
  rw [agrees_iff complete, under_append front_complete, bare, under_cons, if_pos rfl,
    List.nil_append, List.head?_cons, List.getLast?_cons, last]
  exact fun same => Value.noConfusion (Option.some.inj same)

/-- Whatever the values, a row and its record agree under the names that do not come again. -/
theorem agrees_iff_count_le_one (labels : List String) (name : String) :
    (∀ values : List Value, Complete ⟨labels, values⟩ → Agrees ⟨labels, values⟩ name) ↔
      labels.count name ≤ 1 := by
  constructor
  · intro agrees
    refine Nat.le_of_not_lt fun again => ?_
    obtain ⟨values, complete, differs⟩ := exists_disagreeing again
    exact differs (agrees values complete)
  · intro once values complete
    exact agrees_of_count_le_one complete once

end Row

/-! ## Asking for a column -/

/-- Where `find` gives a row, `findOne` gives what that row has under its label. -/
theorem Operation.ending_findOne_of_find {t : Table} {condition : Condition} {paging : Paging}
    {session : Session} {row : Row} (complete : row.Complete)
    (found : ((find condition paging).run t session).ending = .outcome (.ok (some row)))
    (name : String) :
    ((findOne name condition paging).run t session).ending =
      .outcome (.ok (row.column name).value?) := by
  change ((t.find condition paging).run session).ending = _ at found
  change ((t.find condition paging >>= Table.columnOf name).run session).ending = _
  have shown : Table.columnOf name (some row) = .value (row.column name).value? := by
    rw [Table.columnOf, Row.column_eq complete]
    cases (row.under name).head? <;> rfl
  rw [Program.run_bind, Ran.andThen, found]
  change ((Table.columnOf name (some row)).run _).ending = _
  rw [shown]
  rfl

namespace Row

/-- A row with one value per label has, of the values under a name, the first one in its column and
the last one in its record, so that both are there or neither. They are the same value under every
name that the labels have at most once, and for no other name whatever the values are. What
`findOne` gives is the value of the column, not the one in the record of the row that `find`
gives. -/
theorem column_and_record {row : Row} (complete : row.Complete) (name : String) :
    row.column name ≠ .beyond ∧
    (name ∈ row.labels ↔ row.under name ≠ []) ∧
    (row.column name).value? = (row.under name).head? ∧
    row.toRecord.get? name = (row.under name).getLast? ∧
    (row.labels.count name ≤ 1 → row.Agrees name) ∧
    ((∀ values : List Value, Complete ⟨row.labels, values⟩ →
        Agrees ⟨row.labels, values⟩ name) ↔ row.labels.count name ≤ 1) ∧
    ∀ (t : Table) (condition : Condition) (paging : Paging) (session : Session),
      ((Operation.find condition paging).run t session).ending = .outcome (.ok (some row)) →
        ((Operation.findOne name condition paging).run t session).ending =
          .outcome (.ok (row.under name).head?) := by
  refine ⟨?_, mem_labels_iff complete name, value?_column complete name, get?_toRecord row name,
    agrees_of_count_le_one complete, agrees_iff_count_le_one row.labels name, ?_⟩
  · rw [column_eq complete]
    cases (row.under name).head? <;> nofun
  · intro t condition paging session found
    rw [← value?_column complete]
    exact Operation.ending_findOne_of_find complete found name

/-- The label of a join stands at both ends of a row. -/
theorem column_and_record_of_join :
    let row : Row := ⟨["id", "name", "id"], [.int64 1, .varchar "Ada", .int64 2]⟩
    let session := Session.fresh.queue (.result (.rows [row]))
    row.Complete ∧ (row.column "id").value? = some (.int64 1) ∧
      row.toRecord.get? "id" = some (.int64 2) ∧ row.Agrees "name" ∧
      ((Operation.find .everything .unspecified).run .users session).ending =
        .outcome (.ok (some row)) ∧
      ((Operation.findOne "id" .everything .unspecified).run .users session).ending =
        .outcome (.ok (some (.int64 1))) := by
  intro row session
  have complete : row.Complete := rfl
  have found : ((Operation.find .everything .unspecified).run .users session).ending =
      .outcome (.ok (some row)) := rfl
  obtain ⟨-, -, first, last, -, -, shows⟩ := column_and_record complete "id"
  obtain ⟨-, -, -, -, agrees, -⟩ := column_and_record complete "name"
  exact ⟨complete, first, last, agrees (by decide), found, shows _ _ _ _ found⟩

/-- A row with one value per label may differ from its record. -/
theorem exists_row_unlike_record :
    ¬∀ (row : Row) (name : String), row.Complete →
      (row.column name).value? = row.toRecord.get? name := by
  intro agrees
  have same := agrees ⟨["id", "id"], [.int64 1, .int64 2]⟩ "id" rfl
  exact absurd (Option.some.inj same) (by simp)

end Row

end TableGateway

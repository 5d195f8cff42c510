import TableGateway.Proofs.ReadBack.Clause

/-!
# Conditions of a record read back

The condition that a record stands for says of each field that it equals the value of the record,
and joins these equalities by `AND`. The fields that its text compares, and what it compares them
with, are those of the record.
-/

namespace TableGateway.ReadBack

open Sql (Dialect whereText)

def equality (entry : String × Value) : Comparison :=
  ⟨entry.1.toList, .equal, content entry.2⟩

/-- The text of a condition has a clause that compares a field for equality with a literal. -/
def Equates (dialect : Dialect) (text field : List Char) (literal : Literal) : Prop :=
  ∃ first more, readWhere dialect text = some (first, more) ∧
    ⟨field, .equal, literal⟩ ∈ first :: more.map Prod.snd

theorem declared_equals (entry : String × Value) :
    declared (entry.1, .equals entry.2) = equality entry := by
  obtain ⟨field, value⟩ := entry
  cases value <;> simp [declared, equality, comparand, Predicate.value, Predicate.operator, sought,
    content]

theorem readWhere_ofRecord {dialect : Dialect} {key : PrimaryKey} {record : Record}
    {text : List Char} (some_field : record.entries ≠ [])
    (written : whereText dialect key (.ofRecord record) = .ok text) :
    ∃ first more, readWhere dialect text = some (first, more) ∧
      first :: more.map Prod.snd = record.entries.map equality ∧
      ∀ joined ∈ more, joined.1 = .and := by
  obtain ⟨entries, nodup⟩ := record
  cases entries with
  | nil => exact absurd rfl some_field
  | cons entry rest =>
      obtain rfl : Sql.whereClauses dialect ((entry.1, .equals entry.2) ::
          rest.map fun entry => (entry.1, .equals entry.2)) = text := Except.ok.inj written
      refine ⟨_, _, readWhere_whereClauses dialect _ _, ?_, ?_⟩
      · simp [joined, Function.comp_def, declared_equals]
      · intro clause mem
        obtain ⟨behind, declared, rfl⟩ := List.mem_map.1 mem
        obtain ⟨entry, -, rfl⟩ := List.mem_map.1 declared
        rfl

/-- The text of the condition of a record compares the fields of the record with its values, and
nothing else. -/
theorem equates_iff {dialect : Dialect} {key : PrimaryKey} {record : Record}
    {text field : List Char} {literal : Literal} (some_field : record.entries ≠ [])
    (written : whereText dialect key (.ofRecord record) = .ok text) :
    Equates dialect text field literal ↔
      ∃ entry ∈ record.entries, field = entry.1.toList ∧ literal = content entry.2 := by
  obtain ⟨first, more, read, equalities, -⟩ := readWhere_ofRecord some_field written
  have clauses : Equates dialect text field literal ↔
      ⟨field, .equal, literal⟩ ∈ record.entries.map equality := by
    rw [← equalities]
    constructor
    · rintro ⟨first', more', read', mem⟩
      rw [read] at read'
      cases read'
      exact mem
    · intro mem
      exact ⟨first, more, read, mem⟩
  rw [clauses, List.mem_map]
  constructor
  · rintro ⟨entry, mem, same⟩
    rw [equality, Comparison.mk.injEq] at same
    exact ⟨entry, mem, same.1.symm, same.2.2.symm⟩
  · rintro ⟨entry, mem, rfl, rfl⟩
    exact ⟨entry, mem, rfl⟩

end TableGateway.ReadBack

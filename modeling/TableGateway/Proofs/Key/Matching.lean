import TableGateway.Proofs.Key.Taken
import TableGateway.Proofs.ReadBack.Equality

/-!
# What a key is compared with

The condition of a key compares each of its fields with the literal of a value that is not null. Two
kinds of values have a literal that no row can equal all the same: a number that is not finite is
written as null, and a list in parentheses. There are no others, and a key is resolved from both.
-/

namespace TableGateway

open ReadBack (Comparison content equality)
open Sql (Dialect whereText)

namespace ReadBack

/-- Besides null only a number that is not finite says null. -/
theorem content_eq_null_iff {v : Value} (notNull : v ≠ .null) :
    content v = .null ↔ ∃ x, v = .float64 x ∧ x.isFinite = false := by
  cases v with
  | null => exact absurd rfl notNull
  | float64 x => by_cases finite : x.isFinite <;> simp [content, finite]
  | _ => simp [content]

theorem content_eq_list_iff {v : Value} :
    (∃ items, content v = .list items) ↔ ∃ items, v = .list items := by
  cases v with
  | float64 x => by_cases finite : x.isFinite <;> simp [content, finite]
  | _ => simp [content]

/-- The condition of a record is written, and its clauses are the equalities with the values of the
record, in order. -/
theorem readClauses_ofRecord (dialect : Dialect) (pk : PrimaryKey) (record : Record) :
    ∃ text, whereText dialect pk (.ofRecord record) = .ok text ∧
      readClauses dialect text = some (record.entries.map equality) := by
  refine ⟨_, rfl, (readClauses_whereClauses dialect _).trans (congrArg some ?_)⟩
  change (record.entries.map fun entry => (entry.1, Predicate.equals entry.2)).map _ = _
  rw [List.map_map]
  exact List.map_congr_left fun entry _ => declared_equals entry

end ReadBack

namespace PrimaryKey

open ReadBack (readClauses readClauses_ofRecord)

/-- A clause compares the field of an entry with a literal for its value: with null exactly when the
value is a number that is not finite, with a list exactly when it is a list, and else with a single
scalar. -/
structure Compares (entry : String × Value) (clause : Comparison) : Prop where
  field : clause.field = entry.1.toList
  operator : clause.operator = .equal
  null_iff : clause.comparand = .null ↔ ∃ x, entry.2 = .float64 x ∧ x.isFinite = false
  list_iff : (∃ items, clause.comparand = .list items) ↔ ∃ items, entry.2 = .list items

theorem compares_equality {entry : String × Value} (notNull : entry.2 ≠ .null) :
    Compares entry (equality entry) :=
  ⟨rfl, rfl, ReadBack.content_eq_null_iff notNull, ReadBack.content_eq_list_iff⟩

/-- The condition of a key that has been resolved is written, with one clause for each entry of the
key and clauses for all fields of the key. No value of the key is null, so a clause compares with
null only for a number that is not finite, and with a list only for a list. -/
theorem compares_resolved {pk : PrimaryKey} {source : KeySource} {key : Record}
    (resolved : pk.resolve source = .ok key) (dialect : Dialect) :
    (∀ field, field ∈ key.keys ↔ field ∈ pk.fields) ∧ (∀ entry ∈ key.entries, entry.2 ≠ .null) ∧
    ∃ text clauses, whereText dialect pk (.ofRecord key) = .ok text ∧
      readClauses dialect text = some clauses ∧ List.Forall₂ Compares key.entries clauses := by
  have notNull := ne_null_of_resolve resolved
  obtain ⟨text, written, read⟩ := readClauses_ofRecord dialect pk key
  refine ⟨fun field => mem_keys_resolve_iff resolved, notNull, text, _, written, read, ?_⟩
  rw [List.forall₂_map_right_iff, List.forall₂_same]
  exact fun entry mem => compares_equality (notNull entry mem)

/-- A list and a number that is not finite are taken for the values of a key. -/
theorem resolved_compares_with_list_and_null :
    let pk := composite ["club", "id"]
    let source := KeySource.positional [.list [.int64 1, .int64 2], .float64 Numeric.Binary64.nan]
    ∃ key text club id, pk.resolve source = .ok key ∧
      whereText .mysql pk (.ofRecord key) = .ok text ∧ readClauses .mysql text = some [club, id] ∧
      (∃ items, club.comparand = .list items) ∧ id.comparand = .null := by
  intro pk source
  obtain ⟨key, resolved⟩ : ∃ key, pk.resolve source = .ok key := ⟨_, rfl⟩
  obtain ⟨-, -, text, clauses, written, read, compares⟩ := compares_resolved resolved .mysql
  cases resolved
  obtain ⟨club, rest, first, behind, rfl⟩ := List.forall₂_cons_left_iff.1 compares
  obtain ⟨id, none, second, ends, rfl⟩ := List.forall₂_cons_left_iff.1 behind
  obtain rfl := List.forall₂_nil_left_iff.1 ends
  exact ⟨_, text, club, id, rfl, written, read, first.list_iff.2 ⟨_, rfl⟩,
    second.null_iff.2 ⟨_, rfl, by decide⟩⟩

/-- A key may be resolved from a list, and then its clause compares with the list. -/
theorem exists_resolved_without_scalar :
    ¬∀ (pk : PrimaryKey) (source : KeySource) (key : Record) (dialect : Dialect) (text : List Char)
        (clauses : List Comparison), pk.resolve source = .ok key →
      whereText dialect pk (.ofRecord key) = .ok text → readClauses dialect text = some clauses →
        ∀ clause ∈ clauses, clause.comparand ≠ .null ∧ ∀ items, clause.comparand ≠ .list items := by
  intro scalars
  let key : Record := OrderedMap.singleton "id" (.list [.int64 1, .int64 2])
  obtain ⟨text, written, read⟩ := readClauses_ofRecord .generic standard key
  obtain ⟨-, no_list⟩ := scalars standard (.record key) key .generic text _ rfl written read _
    (List.mem_singleton_self _)
  obtain ⟨items, lists⟩ := ReadBack.content_eq_list_iff.2 ⟨[.int64 1, .int64 2], rfl⟩
  exact no_list items lists

end PrimaryKey

end TableGateway

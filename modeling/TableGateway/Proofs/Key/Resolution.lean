import TableGateway.Condition.Basic
import TableGateway.Gateway.Config
import TableGateway.Proofs.Key.Taken

/-!
# When a record resolves

The key fields are taken out of a record one after the other, and each look-up is made in a record
from which the fields in front are gone and whose order has changed. What this comes to is told by
the fields alone: a composite key fails for the first of its fields that the record has no value for
or that the key has named before. So a key of distinct fields resolves from every record with values
for them, as it would from these values in order, and a key that names a field twice from none.
-/

namespace TableGateway

namespace Record

/-- The record has a value for a field, and the value is not null. -/
def Holds (record : Record) (field : String) : Prop :=
  ∃ value, record.get? field = some value ∧ value ≠ .null

def valueOrNull (record : Record) (field : String) : Value :=
  (record.get? field).getD .null

variable {record : Record} {field name : String}

theorem holds_iff_present? :
    record.Holds field ↔ ∃ value, present? (record.get? field) = some value := by
  simp only [Holds, present?_eq_some_iff]

theorem present?_eq_none_iff : present? (record.get? field) = none ↔ ¬record.Holds field := by
  rw [holds_iff_present?, ← Option.isSome_iff_exists, Option.not_isSome_iff_eq_none]

theorem holds_swapRemove :
    Holds (record.swapRemove field) name ↔ name ≠ field ∧ record.Holds name := by
  by_cases same : name = field <;> simp [Holds, same]

theorem valueOrNull_swapRemove (other : name ≠ field) :
    valueOrNull (record.swapRemove field) name = record.valueOrNull name := by
  simp [valueOrNull, other]

theorem present?_valueOrNull (record : Record) (field : String) :
    present? (some (record.valueOrNull field)) = present? (record.get? field) := by
  rw [valueOrNull]
  cases record.get? field <;> rfl

end Record

namespace PrimaryKey

/-! ## Fields taken out of a record -/

/-- Distinct fields are taken as their values in order would be. -/
theorem takeFields_eq_zipFields {fields : List String} (distinct : fields.Nodup)
    (record : Record) :
    takeFields fields record = zipFields fields (fields.map record.valueOrNull) := by
  induction fields generalizing record with
  | nil => rfl
  | cons field rest ih =>
      obtain ⟨fresh, distinct⟩ := List.nodup_cons.1 distinct
      -- Without the first field the record still has the values of the others.
      have behind : rest.map (Record.valueOrNull (record.swapRemove field)) =
          rest.map record.valueOrNull := by
        apply List.map_congr_left
        intro name mem
        apply Record.valueOrNull_swapRemove
        rintro rfl
        exact fresh mem
      rw [takeFields_cons, List.map_cons, zipFields_cons, List.head?_cons, List.tail_cons,
        consField, consField, record.present?_valueOrNull, ih distinct, behind]

/-- Fields are not taken for the first of them that the record has no value for or that has been
taken before. -/
theorem takeFields_eq_error {fields : List String} {record : Record} {f : Failure}
    (failed : takeFields fields record = .error f) :
    ∃ before field after, fields = before ++ field :: after ∧ before.Nodup ∧
      (∀ name ∈ before, record.Holds name) ∧ (field ∈ before ∨ ¬record.Holds field) ∧
      f = .invalidCall (.missingKeyField field) := by
  induction fields generalizing record with
  | nil => cases failed
  | cons first rest ih =>
      rw [takeFields_cons, consField_eq_error_iff] at failed
      rcases failed with ⟨missing, rfl⟩ | ⟨held, failed⟩
      · exact ⟨[], first, rest, rfl, .nil, nofun, .inr (Record.present?_eq_none_iff.1 missing), rfl⟩
      · obtain ⟨before, field, after, rfl, distinct, holds, stops, rfl⟩ := ih failed
        simp only [Record.holds_swapRemove] at holds stops
        refine ⟨first :: before, field, after, rfl, ?_, ?_, ?_, rfl⟩
        · exact List.nodup_cons.2 ⟨fun mem => (holds first mem).1 rfl, distinct⟩
        · exact List.forall_mem_cons.2
            ⟨Record.holds_iff_present?.2 held, fun name mem => (holds name mem).2⟩
        · rw [List.mem_cons]
          rcases stops with mem | missing
          · exact .inl (.inr mem)
          · by_cases same : field = first
            · exact .inl (.inl same)
            · exact .inr fun held => missing ⟨same, held⟩

/-! ## Records that resolve -/

theorem holds_of_resolve {pk : PrimaryKey} {record key : Record}
    (resolved : pk.resolve (.record record) = .ok key) {field : String} (mem : field ∈ pk.fields) :
    key.get? field = record.get? field ∧ record.Holds field := by
  obtain ⟨names, entries⟩ := resolve_record resolved
  rw [← names, OrderedMap.keys, List.mem_map] at mem
  obtain ⟨⟨field, value⟩, mem, rfl⟩ := mem
  have here := OrderedMap.get?_eq_some_iff.2 mem
  have there := OrderedMap.get?_eq_some_iff.2 (entries _ mem)
  exact ⟨here.trans there.symm, value, there, ne_null_of_resolve resolved _ mem⟩

/-- Of a record with distinct key fields only their values matter. -/
theorem resolve_positional {pk : PrimaryKey} (distinct : pk.fields.Nodup) (record : Record) :
    pk.resolve (.positional (pk.fields.map record.valueOrNull)) = pk.resolve (.record record) := by
  cases pk with
  | single field =>
      simp only [resolve, fields, singleValue?, List.map_cons, List.head?_cons,
        record.present?_valueOrNull]
  | composite fields =>
      have taken : takeFields fields record = zipFields fields (fields.map record.valueOrNull) :=
        takeFields_eq_zipFields distinct record
      rw [resolve, resolve, taken]
      rfl

/-- Why a record does not resolve. A composite key fails for the first of its fields that the record
has no value for or that the key has named before. -/
theorem resolve_record_eq_error {pk : PrimaryKey} {record : Record} {f : Failure}
    (refused : pk.resolve (.record record) = .error f) :
    (∃ field, pk = .single field ∧ ¬record.Holds field ∧ f = .invalidParameter .missingKey) ∨
    ∃ before field after, pk = .composite (before ++ field :: after) ∧ before.Nodup ∧
      (∀ name ∈ before, record.Holds name) ∧ (field ∈ before ∨ ¬record.Holds field) ∧
      f = .invalidCall (.missingKeyField field) := by
  cases pk with
  | single field =>
      rw [resolve, singleValue?] at refused
      cases found : present? (record.get? field) with
      | none =>
          rw [found] at refused
          cases refused
          exact .inl ⟨field, rfl, Record.present?_eq_none_iff.1 found, rfl⟩
      | some value =>
          rw [found] at refused
          cases refused
  | composite fields =>
      cases taken : takeFields fields record with
      | ok entries =>
          rw [resolve, taken] at refused
          cases refused
      | error g =>
          rw [resolve, taken] at refused
          cases refused
          obtain ⟨before, field, after, rfl, reason⟩ := takeFields_eq_error taken
          exact .inr ⟨before, field, after, rfl, reason⟩

/-- Distinct fields fail for a value that is not there. -/
theorem lacks_of_resolve_eq_error {pk : PrimaryKey} (distinct : pk.fields.Nodup) {record : Record}
    {f : Failure} (refused : pk.resolve (.record record) = .error f) :
    (∃ field, pk = .single field ∧ ¬record.Holds field ∧ f = .invalidParameter .missingKey) ∨
    ∃ before field after, pk = .composite (before ++ field :: after) ∧
      (∀ name ∈ before, record.Holds name) ∧ ¬record.Holds field ∧
      f = .invalidCall (.missingKeyField field) := by
  rcases resolve_record_eq_error refused with
    single | ⟨before, field, after, rfl, -, holds, stops, failed⟩
  · exact .inl single
  · have fresh : field ∉ before := fun mem =>
      (List.nodup_append.1 distinct).2.2 field mem field (List.mem_cons_self ..) rfl
    exact .inr ⟨before, field, after, rfl, holds, stops.resolve_left fresh, failed⟩

theorem exists_resolve_of_holds {pk : PrimaryKey} (distinct : pk.fields.Nodup) {record : Record}
    (holds : ∀ field ∈ pk.fields, record.Holds field) :
    ∃ key, pk.resolve (.record record) = .ok key := by
  cases resolved : pk.resolve (.record record) with
  | ok key => exact ⟨key, rfl⟩
  | error f =>
      rcases lacks_of_resolve_eq_error distinct resolved with
        ⟨field, rfl, lacks, -⟩ | ⟨before, field, after, rfl, -, lacks, -⟩
      · exact absurd (holds field (List.mem_singleton_self field)) lacks
      · exact absurd (holds field (List.mem_append_right before (List.mem_cons_self ..))) lacks

/-- A key that names no field twice. It resolves from exactly the records with values for its
fields, and gives them in the order of the key and with the values of the record; what it gives it
resolves to itself. It refuses the other records, a composite key for the first of its fields
without a value, and it makes no difference whether the values come in a record or in order. -/
theorem resolve_distinct {pk : PrimaryKey} (distinct : pk.fields.Nodup) (record : Record) :
    ((∃ key, pk.resolve (.record record) = .ok key) ↔ ∀ field ∈ pk.fields, record.Holds field) ∧
    (∀ key, pk.resolve (.record record) = .ok key →
      key.keys = pk.fields ∧ (∀ field ∈ pk.fields, key.get? field = record.get? field) ∧
        pk.resolve (.record key) = .ok key) ∧
    (∀ f, pk.resolve (.record record) = .error f →
      (∃ field, pk = .single field ∧ f = .invalidParameter .missingKey ∧
        f.message = "Invalid parameter: missing primary key") ∨
      ∃ before field after, pk = .composite (before ++ field :: after) ∧
        (∀ name ∈ before, record.Holds name) ∧ ¬record.Holds field ∧
        f = .invalidCall (.missingKeyField field) ∧
        f.message = "Invalid call: " ++ ("missing '" ++ field ++ "' for composite primary key")) ∧
    pk.resolve (.positional (pk.fields.map record.valueOrNull)) = pk.resolve (.record record) := by
  refine ⟨⟨?_, ?_⟩, ?_, ?_, resolve_positional distinct record⟩
  · rintro ⟨key, resolved⟩ field mem
    exact (holds_of_resolve resolved mem).2
  · exact exists_resolve_of_holds distinct
  · intro key resolved
    have same : ∀ field ∈ pk.fields, key.get? field = record.get? field :=
      fun field mem => (holds_of_resolve resolved mem).1
    refine ⟨(resolve_record resolved).1, same, ?_⟩
    have values : pk.fields.map key.valueOrNull = pk.fields.map record.valueOrNull := by
      apply List.map_congr_left
      intro field mem
      rw [Record.valueOrNull, same field mem, Record.valueOrNull]
    rw [← resolve_positional distinct key, values, resolve_positional distinct record, resolved]
  · intro f refused
    rcases lacks_of_resolve_eq_error distinct refused with
      ⟨field, rfl, -, rfl⟩ | ⟨before, field, after, rfl, holds, lacks, rfl⟩
    · exact .inl ⟨field, rfl, rfl, rfl⟩
    · exact .inr ⟨before, field, after, rfl, holds, lacks, rfl, rfl⟩

/-- A record with its fields in another order and with one more resolves to the fields of the key in
the order of the key. -/
theorem resolve_distinct_reordered :
    let pk := composite ["club", "id"]
    let record : Record :=
      OrderedMap.ofList [("id", .int64 7), ("name", .varchar "Ada"), ("club", .varchar "go")]
    pk.fields.Nodup ∧ ∃ key, pk.resolve (.record record) = .ok key ∧
      key.entries = [("club", .varchar "go"), ("id", .int64 7)] ∧
      pk.resolve (.record key) = .ok key := by
  intro pk record
  have distinct : pk.fields.Nodup := by decide
  obtain ⟨resolves, gives, -, -⟩ := resolve_distinct distinct record
  have holds : ∀ field ∈ pk.fields, record.Holds field := by
    rintro field (_ | ⟨_, _ | ⟨_, ⟨⟩⟩⟩)
    · exact ⟨.varchar "go", rfl, nofun⟩
    · exact ⟨.int64 7, rfl, nofun⟩
  obtain ⟨key, resolved⟩ := resolves.2 holds
  refine ⟨distinct, key, resolved, ?_, (gives key resolved).2.2⟩
  cases resolved
  rfl

end PrimaryKey

/-- The clauses of a key are equalities with its values, in order. -/
theorem clauses_ofRecord (key : Record) :
    (Condition.ofRecord key).clauses = key.entries.map fun entry => (entry.1, .equals entry.2) :=
  rfl

/-! ## Keys that a configuration accepts -/

namespace TableConfig

theorem fields_ne_nil_of_check {config : TableConfig} (accepted : config.check = .ok ()) :
    config.primaryKey.fields ≠ [] := by
  intro none
  rw [check, hasUsableKey, none] at accepted
  split at accepted <;> cases accepted

/-- A configuration is accepted with a key that names a field twice, but such a key resolves from no
record. A record with values for all fields of an accepted key resolves exactly when the fields are
distinct: then its condition has one clause for each of them, in order, and at least one. Else the
key fails for the first field that it has named before, as if the record had no value for it. -/
theorem resolve_accepted_iff {config : TableConfig} (accepted : config.check = .ok ())
    {record : Record} (holds : ∀ field ∈ config.primaryKey.fields, record.Holds field) :
    ((∃ key, config.primaryKey.resolve (.record record) = .ok key) ↔
      config.primaryKey.fields.Nodup) ∧
    (∀ key, config.primaryKey.resolve (.record record) = .ok key →
      (Condition.ofRecord key).clauses.map Prod.fst = config.primaryKey.fields ∧
        (Condition.ofRecord key).clauses ≠ []) ∧
    ∀ f, config.primaryKey.resolve (.record record) = .error f →
      ∃ before field after, config.primaryKey = .composite (before ++ field :: after) ∧
        before.Nodup ∧ field ∈ before ∧ f = .invalidCall (.missingKeyField field) := by
  have clauses : ∀ key, config.primaryKey.resolve (.record record) = .ok key →
      (Condition.ofRecord key).clauses.map Prod.fst = config.primaryKey.fields := by
    intro key resolved
    rw [clauses_ofRecord, List.map_map]
    exact (PrimaryKey.resolve_record resolved).1
  refine ⟨⟨?_, fun distinct => PrimaryKey.exists_resolve_of_holds distinct holds⟩, ?_, ?_⟩
  · rintro ⟨key, resolved⟩
    rw [← (PrimaryKey.resolve_record resolved).1]
    exact key.nodup
  · intro key resolved
    refine ⟨clauses key resolved, ?_⟩
    intro nothing
    have names := clauses key resolved
    rw [nothing] at names
    exact fields_ne_nil_of_check accepted names.symm
  · intro f refused
    rcases PrimaryKey.resolve_record_eq_error refused with
      ⟨field, single, lacks, -⟩ | ⟨before, field, after, composite, distinct, -, stops, failed⟩
    · rw [single] at holds
      exact absurd (holds field (List.mem_singleton_self field)) lacks
    · have named : field ∈ config.primaryKey.fields := by
        rw [composite]
        exact List.mem_append_right before (List.mem_cons_self ..)
      have again : field ∈ before := stops.resolve_right fun lacks => lacks (holds field named)
      exact ⟨before, field, after, composite, distinct, again, failed⟩

/-- A field stands in the key twice, and the record has values for all fields. -/
theorem resolve_refuses_repeated_field :
    let config : TableConfig := ⟨"members", .composite ["club", "id", "club"], ∅⟩
    let record : Record := OrderedMap.ofList [("id", .int64 7), ("club", .varchar "go")]
    config.check = .ok () ∧ (∀ field ∈ config.primaryKey.fields, record.Holds field) ∧
      config.primaryKey.resolve (.record record) =
        .error (.invalidCall (.missingKeyField "club")) := by
  intro config record
  have accepted : check ⟨"members", .composite ["club", "id", "club"], ∅⟩ = .ok () := rfl
  have holds : ∀ field ∈ config.primaryKey.fields, record.Holds field := by
    rintro field (_ | ⟨_, _ | ⟨_, _ | ⟨_, ⟨⟩⟩⟩⟩)
    · exact ⟨.varchar "go", rfl, nofun⟩
    · exact ⟨.int64 7, rfl, nofun⟩
    · exact ⟨.varchar "go", rfl, nofun⟩
  obtain ⟨resolves, -, -⟩ := resolve_accepted_iff accepted holds
  refine ⟨accepted, holds, ?_⟩
  cases resolved : config.primaryKey.resolve (.record record) with
  | ok key => exact absurd (resolves.1 ⟨key, resolved⟩) (by decide)
  | error f =>
      cases resolved
      rfl

/-- A key may be accepted that does not resolve from a record with values for all its fields. -/
theorem exists_accepted_unresolved :
    ¬∀ (config : TableConfig) (record : Record), config.check = .ok () →
      (∀ field ∈ config.primaryKey.fields, record.Holds field) →
        ∃ key, config.primaryKey.resolve (.record record) = .ok key ∧
          (Condition.ofRecord key).clauses.map Prod.fst = config.primaryKey.fields := by
  intro resolves
  let record : Record := OrderedMap.singleton "id" (.int64 7)
  have holds : ∀ field ∈ ["id", "id"], record.Holds field := by
    intro field mem
    obtain rfl : field = "id" := by simpa using mem
    exact ⟨.int64 7, rfl, nofun⟩
  obtain ⟨key, resolved, -⟩ :=
    resolves ⟨"users", .composite ["id", "id"], ∅⟩ record rfl holds
  cases resolved

end TableConfig

end TableGateway

import TableGateway.Key.Resolve

/-!
# The key of a record

What a record resolves to are entries of the record itself, one for each key field in the order of
the key. A field that a key names twice has no second entry to take, so a key that resolves names
every field once. Whatever a key is resolved from, its fields are those of the key, and none of
their values is null.
-/

namespace TableGateway

theorem present?_eq_some_iff {value? : Option Value} {value : Value} :
    present? value? = some value ↔ value? = some value ∧ value ≠ .null := by
  cases value? with
  | none => simp [present?]
  | some v =>
      rw [Option.some.injEq]
      constructor
      · intro kept
        cases v <;> cases kept <;> simp
      · rintro ⟨rfl, notNull⟩
        cases v <;> first | rfl | exact absurd rfl notNull

namespace PrimaryKey

/-! ## One field after the other -/

def consField (field : String) (value? : Option Value)
    (behind : Except Failure (List (String × Value))) : Except Failure (List (String × Value)) :=
  match present? value? with
  | some value => behind.map ((field, value) :: ·)
  | none => .error (.invalidCall (.missingKeyField field))

theorem takeFields_cons (field : String) (rest : List String) (record : Record) :
    takeFields (field :: rest) record =
      consField field (record.get? field) (takeFields rest (record.swapRemove field)) := by
  rw [takeFields, consField]
  cases present? (record.get? field) with
  | none => rfl
  | some value => cases takeFields rest (record.swapRemove field) <;> rfl

theorem zipFields_cons (field : String) (rest : List String) (values : List Value) :
    zipFields (field :: rest) values =
      consField field values.head? (zipFields rest values.tail) := by
  rw [zipFields, consField]
  cases present? values.head? with
  | none => rfl
  | some value => cases zipFields rest values.tail <;> rfl

theorem consField_eq_ok_iff {field : String} {value? : Option Value}
    {behind : Except Failure (List (String × Value))} {taken : List (String × Value)} :
    consField field value? behind = .ok taken ↔
      ∃ value more, value? = some value ∧ value ≠ .null ∧ behind = .ok more ∧
        taken = (field, value) :: more := by
  rw [consField]
  cases found : present? value? with
  | none =>
      simp only [reduceCtorEq, false_iff]
      rintro ⟨value, more, there, notNull, -⟩
      cases found.symm.trans (present?_eq_some_iff.2 ⟨there, notNull⟩)
  | some value =>
      obtain ⟨rfl, notNull⟩ := present?_eq_some_iff.1 found
      cases behind with
      | error f => simp [Except.map]
      | ok more => simp [Except.map, notNull, eq_comm]

theorem consField_eq_error_iff {field : String} {value? : Option Value}
    {behind : Except Failure (List (String × Value))} {f : Failure} :
    consField field value? behind = .error f ↔
      (present? value? = none ∧ f = .invalidCall (.missingKeyField field)) ∨
        (∃ value, present? value? = some value) ∧ behind = .error f := by
  rw [consField]
  cases present? value? with
  | none => simp [eq_comm]
  | some value => cases behind <;> simp [Except.map]

/-- The fields that are taken out of a record are entries of it, under distinct names. -/
theorem takeFields_eq_ok {fields : List String} {record : Record} {taken : List (String × Value)}
    (ok : takeFields fields record = .ok taken) :
    taken.map Prod.fst = fields ∧ fields.Nodup ∧
      ∀ entry ∈ taken, record.get? entry.1 = some entry.2 := by
  induction fields generalizing record taken with
  | nil =>
      obtain rfl : [] = taken := Except.ok.inj ok
      simp
  | cons field rest ih =>
      rw [takeFields_cons, consField_eq_ok_iff] at ok
      obtain ⟨value, behind, found, -, more, rfl⟩ := ok
      obtain ⟨names, nodup, entries⟩ := ih more
      have kept : ∀ entry ∈ behind, entry.1 ≠ field ∧ record.get? entry.1 = some entry.2 := by
        intro entry mem
        have there := entries entry mem
        rw [OrderedMap.get?_swapRemove] at there
        split at there
        · cases there
        · next other => exact ⟨other, there⟩
      have fresh : field ∉ rest := by
        rw [← names, List.mem_map]
        rintro ⟨entry, mem, same⟩
        exact (kept entry mem).1 same
      refine ⟨by rw [List.map_cons, names], List.nodup_cons.2 ⟨fresh, nodup⟩, ?_⟩
      exact List.forall_mem_cons.2 ⟨found, fun entry mem => (kept entry mem).2⟩

theorem zipFields_eq_ok {fields : List String} {values : List Value}
    {taken : List (String × Value)} (ok : zipFields fields values = .ok taken) :
    taken.map Prod.fst = fields := by
  induction fields generalizing values taken with
  | nil =>
      obtain rfl : [] = taken := Except.ok.inj ok
      rfl
  | cons field rest ih =>
      rw [zipFields_cons, consField_eq_ok_iff] at ok
      obtain ⟨value, behind, -, -, more, rfl⟩ := ok
      rw [List.map_cons, ih more]

/-! ## Sources that resolve -/

/-- The ways in which a source resolves, each with the record that it gives. -/
inductive Resolves : PrimaryKey → KeySource → Record → Prop where
  | single {field : String} {source : KeySource} {value : Value}
      (given : singleValue? field source = some value) (notNull : value ≠ .null) :
      Resolves (.single field) source (OrderedMap.singleton field value)
  | record {fields : List String} {record : Record} {taken : List (String × Value)}
      (ok : takeFields fields record = .ok taken) :
      Resolves (.composite fields) (.record record) (OrderedMap.ofList taken)
  | positional {fields : List String} {values : List Value} {taken : List (String × Value)}
      (ok : zipFields fields values = .ok taken) :
      Resolves (.composite fields) (.positional values) (OrderedMap.ofList taken)

theorem resolves_of_resolve {pk : PrimaryKey} {source : KeySource} {key : Record}
    (resolved : pk.resolve source = .ok key) : pk.Resolves source key := by
  cases pk with
  | single field =>
      rw [resolve] at resolved
      cases found : present? (singleValue? field source) with
      | none =>
          rw [found] at resolved
          cases resolved
      | some value =>
          rw [found] at resolved
          obtain rfl : OrderedMap.singleton field value = key := Except.ok.inj resolved
          obtain ⟨given, notNull⟩ := present?_eq_some_iff.1 found
          exact .single given notNull
  | composite fields =>
      cases source with
      | scalar value => cases resolved
      | record record =>
          cases taken : takeFields fields record with
          | error f =>
              rw [resolve, taken] at resolved
              cases resolved
          | ok entries =>
              rw [resolve, taken] at resolved
              obtain rfl : OrderedMap.ofList entries = key := Except.ok.inj resolved
              exact .record taken
      | positional values =>
          cases taken : zipFields fields values with
          | error f =>
              rw [resolve, taken] at resolved
              cases resolved
          | ok entries =>
              rw [resolve, taken] at resolved
              obtain rfl : OrderedMap.ofList entries = key := Except.ok.inj resolved
              exact .positional taken

/-- The key of a record has the key fields in order, each with the value that the record has. -/
theorem resolve_record {pk : PrimaryKey} {record key : Record}
    (resolved : pk.resolve (.record record) = .ok key) :
    key.keys = pk.fields ∧ ∀ entry ∈ key.entries, entry ∈ record.entries := by
  cases resolves_of_resolve resolved with
  | @single field _ value given notNull =>
      refine ⟨rfl, ?_⟩
      intro entry mem
      obtain rfl : entry = (field, value) := List.mem_singleton.1 mem
      exact OrderedMap.get?_eq_some_iff.1 given
  | @record fields _ taken ok =>
      obtain ⟨names, nodup, there⟩ := takeFields_eq_ok ok
      have same : (OrderedMap.ofList taken).entries = taken :=
        OrderedMap.entries_ofList (names ▸ nodup)
      rw [OrderedMap.keys, same]
      exact ⟨names, fun entry mem => OrderedMap.get?_eq_some_iff.1 (there entry mem)⟩

/-- Every source that resolves gives a record of exactly the key fields. -/
theorem mem_keys_resolve_iff {pk : PrimaryKey} {source : KeySource} {key : Record}
    (resolved : pk.resolve source = .ok key) {field : String} :
    field ∈ key.keys ↔ field ∈ pk.fields := by
  cases resolves_of_resolve resolved with
  | single given notNull => rfl
  | record ok => rw [(resolve_record resolved).1]
  | positional ok =>
      rw [OrderedMap.mem_keys_ofList, zipFields_eq_ok ok]
      rfl

/-! ## No value of a key is null -/

theorem ne_null_of_consField {field : String} {value? : Option Value}
    {behind : Except Failure (List (String × Value))} {taken : List (String × Value)}
    (later : ∀ more, behind = .ok more → ∀ entry ∈ more, entry.2 ≠ .null)
    (ok : consField field value? behind = .ok taken) : ∀ entry ∈ taken, entry.2 ≠ .null := by
  obtain ⟨value, more, -, notNull, kept, rfl⟩ := consField_eq_ok_iff.1 ok
  exact List.forall_mem_cons.2 ⟨notNull, later more kept⟩

theorem ne_null_of_takeFields {fields : List String} {record : Record}
    {taken : List (String × Value)} (ok : takeFields fields record = .ok taken) :
    ∀ entry ∈ taken, entry.2 ≠ .null := by
  induction fields generalizing record taken with
  | nil =>
      obtain rfl : [] = taken := Except.ok.inj ok
      nofun
  | cons field rest ih =>
      rw [takeFields_cons] at ok
      exact ne_null_of_consField (fun _ => ih) ok

theorem ne_null_of_zipFields {fields : List String} {values : List Value}
    {taken : List (String × Value)} (ok : zipFields fields values = .ok taken) :
    ∀ entry ∈ taken, entry.2 ≠ .null := by
  induction fields generalizing values taken with
  | nil =>
      obtain rfl : [] = taken := Except.ok.inj ok
      nofun
  | cons field rest ih =>
      rw [zipFields_cons] at ok
      exact ne_null_of_consField (fun _ => ih) ok

theorem ne_null_of_resolve {pk : PrimaryKey} {source : KeySource} {key : Record}
    (resolved : pk.resolve source = .ok key) : ∀ entry ∈ key.entries, entry.2 ≠ .null := by
  intro entry mem
  cases resolves_of_resolve resolved with
  | single given notNull =>
      rw [List.mem_singleton.1 mem]
      exact notNull
  | record ok => exact ne_null_of_takeFields ok entry (OrderedMap.mem_entries_of_ofList mem)
  | positional ok => exact ne_null_of_zipFields ok entry (OrderedMap.mem_entries_of_ofList mem)

end PrimaryKey

end TableGateway

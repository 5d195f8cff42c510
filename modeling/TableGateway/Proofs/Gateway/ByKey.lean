import TableGateway.Proofs.Gateway.Replace
import TableGateway.Settings.Reader

/-!
# Operations by key

`findByKey` and `replace` are about one row, which a key identifies. An accepted configuration has a
key field, every source that resolves gives a value to each of them, and the record of the key is
compared field by field. So no statement of theirs is about more than the rows with the key.
-/

namespace TableGateway

open ReadBack (Comparison assigned equality readStatement readWhere readWhere_ofRecord)
open Sql (Dialect Statement whereText)

/-- The settings of an accepted configuration are accepted as a table's. -/
theorem Settings.TableSettings.check_toConfig {settings : TableSettings} {config : TableConfig}
    (accepted : settings.toConfig = .ok config) : config.check = .ok () := by
  rw [toConfig] at accepted
  cases checked : (((TableConfig.named settings.table).withKey settings.primaryKey).withFields
      settings.fields).check with
  | error f =>
      rw [checked] at accepted
      cases accepted
  | ok _ =>
      rw [checked] at accepted
      obtain rfl := Except.ok.inj accepted
      exact checked

theorem Table.ofConfig_of_check {config : TableConfig} (backend : Backend) (validator : Validator)
    (accepted : config.check = .ok ()) :
    Table.ofConfig backend config validator = .ok ⟨backend, config, validator, accepted⟩ := by
  rw [ofConfig]
  split
  · rfl
  · next f refused =>
      cases accepted.symm.trans refused

/-- The text is a `WHERE` with at least one clause, all its clauses are equalities, joined by `AND`,
and the fields that they compare are those of the key. -/
def PrimaryKey.Identifies (pk : PrimaryKey) (dialect : Dialect) (text : List Char) : Prop :=
  ∃ first more, readWhere dialect text = some (first, more) ∧
    (∀ comparison ∈ first :: more.map Prod.snd, comparison.operator = .equal) ∧
    (∀ joined ∈ more, joined.1 = .and) ∧
    ∀ field, field ∈ (first :: more.map Prod.snd).map Comparison.field ↔
      field ∈ pk.fields.map String.toList

namespace TableConfig

def SelectsByKey (config : TableConfig) (dialect : Dialect) (text : String) : Prop :=
  ∃ suffix, readStatement dialect text.toList =
      some (.select config.table.toList (suffix ++ " LIMIT 1".toList)) ∧
    config.primaryKey.Identifies dialect suffix

def UpdatesByKey (config : TableConfig) (dialect : Dialect) (text : String) : Prop :=
  ∃ fields suffix, readStatement dialect text.toList =
      some (.update config.table.toList fields suffix) ∧
    config.primaryKey.Identifies dialect suffix

def Inserts (config : TableConfig) (dialect : Dialect) (text : String) : Prop :=
  ∃ fields, readStatement dialect text.toList = some (.insert config.table.toList fields)

end TableConfig

namespace Table

variable {t : Table} {source : KeySource} {key : Record}

theorem identifies_of_resolve {suffix : List Char}
    (resolved : t.config.primaryKey.resolve source = .ok key)
    (compiled : whereText t.backend.dialect t.config.primaryKey (.ofRecord key) = .ok suffix) :
    t.config.primaryKey.Identifies t.backend.dialect suffix := by
  obtain ⟨first, more, read, equalities, ands⟩ :=
    readWhere_ofRecord (entries_ne_nil_of_resolve resolved) compiled
  refine ⟨first, more, read, ?_, ands, ?_⟩
  · intro comparison mem
    rw [equalities, List.mem_map] at mem
    obtain ⟨entry, -, rfl⟩ := mem
    rfl
  · intro field
    have names : (key.entries.map equality).map Comparison.field = key.keys.map String.toList := by
      simp only [OrderedMap.keys, List.map_map]
      rfl
    rw [equalities, names, List.mem_map, List.mem_map]
    simp only [PrimaryKey.mem_keys_resolve_iff resolved]

/-- A probe for a key that has been resolved asks for one of the rows with the key. -/
theorem Probe.selectsByKey {text : String}
    (resolved : t.config.primaryKey.resolve source = .ok key) (probe : t.Probe key text) :
    t.config.SelectsByKey t.backend.dialect text := by
  obtain ⟨suffix, compiled, read⟩ := readStatement_of_text
    (s := .select (.ofRecord key) (.window .first)) trivial probe
  exact ⟨suffix, read, identifies_of_resolve resolved compiled⟩

theorem identifies_of_routed {data : Record} {existing : Option Row} {write : String}
    (resolved : t.config.primaryKey.resolve source = .ok key)
    (some_field : (t.kept data).entries ≠ [])
    (written : (t.routed key data existing).text t.backend.dialect t.config.table
      t.config.primaryKey = .ok write) :
    t.config.UpdatesByKey t.backend.dialect write ∨
      t.config.Inserts t.backend.dialect write := by
  cases existing with
  | none =>
      obtain ⟨_, -, read⟩ := readStatement_of_text (s := .insert (t.kept data)) some_field written
      exact .inr ⟨_, read⟩
  | some row =>
      obtain ⟨suffix, compiled, read⟩ := readStatement_of_text
        (s := .update (t.kept data) (.ofRecord key)) some_field written
      exact .inl ⟨_, suffix, read, identifies_of_resolve resolved compiled⟩

end Table

namespace Operation

variable {t : Table}

/-- With a key `findByKey` sends its probe and nothing else, and without one nothing at all. -/
theorem sent_findByKey_cases (t : Table) (source : KeySource) (session : Session) :
    (∃ f, t.config.primaryKey.resolve source = .error f ∧
      (findByKey source).sent t session = []) ∨
    ∃ key probe, t.config.primaryKey.resolve source = .ok key ∧ t.Probe key probe ∧
      (findByKey source).sent t session = [probe] := by
  cases resolved : t.config.primaryKey.resolve source with
  | error f =>
      have ran : ((t.findByKey source).run session).session = session := by
        rw [Table.findByKey, resolved, Program.ofCheck_error_bind]
        rfl
      exact .inl ⟨f, rfl, sent_eq ran⟩
  | ok key =>
      obtain ⟨probe, looked⟩ := t.exists_probe key
      obtain ⟨notices, found⟩ := t.run_find_probe looked session
      have ran : ((t.findByKey source).run session).session = session.execute probe := by
        rw [Table.findByKey, resolved, Program.ofCheck_ok_bind, found]
      exact .inr ⟨key, probe, rfl, looked, sent_eq ran⟩

theorem sent_findByKey_eq_nil_iff {source : KeySource} {session : Session} :
    (findByKey source).sent t session = [] ↔
      ∃ f, t.config.primaryKey.resolve source = .error f := by
  rcases sent_findByKey_cases t source session with
    ⟨f, refused, sent⟩ | ⟨key, probe, resolved, -, sent⟩
  · exact iff_of_true sent ⟨f, refused⟩
  · simp [resolved, sent]

/-- Every statement of `findByKey` looks for a row with the key. -/
theorem selectsByKey_of_mem_findByKey {source : KeySource} {session : Session} {text : String}
    (mem : text ∈ (findByKey source).sent t session) :
    t.config.SelectsByKey t.backend.dialect text := by
  rcases sent_findByKey_cases t source session with
    ⟨f, -, sent⟩ | ⟨key, probe, resolved, looked, sent⟩
  · rw [sent] at mem
    cases mem
  · obtain rfl : text = probe := List.mem_singleton.1 (sent ▸ mem)
    exact looked.selectsByKey resolved

theorem identifies_of_mem_replace {data : Record} {requested : Option RequestedConstraints}
    {session : Session} {text : String} (sent : text ∈ (replace data requested).sent t session) :
    t.config.SelectsByKey t.backend.dialect text ∨ t.config.UpdatesByKey t.backend.dialect text ∨
      t.config.Inserts t.backend.dialect text := by
  cases resolved : t.config.primaryKey.resolve (.record data) with
  | error f =>
      rw [sent_replace_of_error requested resolved session] at sent
      cases sent
  | ok key =>
      obtain ⟨probe, looked⟩ := t.exists_probe key
      rcases sent_replace requested resolved looked session with
        ⟨-, some_field, first, write, -, written, both, -⟩ | ⟨-, alone, -⟩
      · rw [both] at sent
        rcases List.mem_append.1 sent with mem | mem
        · obtain rfl := List.mem_singleton.1 mem
          exact .inl (looked.selectsByKey resolved)
        · obtain rfl := List.mem_singleton.1 mem
          exact .inr (Table.identifies_of_routed resolved some_field written)
      · rw [alone] at sent
        obtain rfl := List.mem_singleton.1 sent
        exact .inl (looked.selectsByKey resolved)

/-- A table that is accepted, or whose settings are, has a handle, and no operation by key of this
handle leaves the key out: every `SELECT` of `findByKey` and `replace` and every `UPDATE` of
`replace` has a `WHERE` of equalities joined by `AND`, on all fields of the key and on no other.
`findByKey` sends nothing exactly when its source does not resolve. -/
theorem identifies_by_key {config : TableConfig}
    (accepted : config.check = .ok () ∨
      ∃ settings : Settings.TableSettings, settings.toConfig = .ok config)
    (backend : Backend) (validator : Validator) :
    ∃ t : Table, Table.ofConfig backend config validator = .ok t ∧
      (∀ source session,
        ((findByKey source).sent t session = [] ↔
          ∃ f, config.primaryKey.resolve source = .error f) ∧
        ∀ text ∈ (findByKey source).sent t session, config.SelectsByKey backend.dialect text) ∧
      ∀ data requested session, ∀ text ∈ (replace data requested).sent t session,
        config.SelectsByKey backend.dialect text ∨ config.UpdatesByKey backend.dialect text ∨
          config.Inserts backend.dialect text := by
  have checked : config.check = .ok () := by
    rcases accepted with checked | ⟨settings, accepted⟩
    · exact checked
    · exact settings.check_toConfig accepted
  refine ⟨_, Table.ofConfig_of_check backend validator checked, ?_, ?_⟩
  · intro source session
    exact ⟨sent_findByKey_eq_nil_iff, fun text => selectsByKey_of_mem_findByKey⟩
  · intro data requested session text sent
    exact identifies_of_mem_replace sent

/-- Settings may name a key field twice. A row is then looked for by the two fields of the key. -/
theorem findByKey_identifies_repeated_field :
    let settings : Settings.TableSettings := ⟨"members", .composite ["club", "id", "club"], []⟩
    ∃ (config : TableConfig) (t : Table) (text : String),
      settings.toConfig = .ok config ∧
        text ∈ (findByKey (.positional [.varchar "go", .int64 7, .varchar "chess"])).sent t
          .fresh ∧
        config.SelectsByKey .mysql text := by
  intro settings
  let members : Table :=
    ⟨.scripted .mysql, ⟨"members", .composite ["club", "id", "club"], ∅⟩, .rules, rfl⟩
  let source : KeySource := .positional [.varchar "go", .int64 7, .varchar "chess"]
  let key : Record := OrderedMap.ofList [("club", .varchar "chess"), ("id", .int64 7)]
  have accepted : settings.toConfig = .ok members.config := by
    change (members.config.check >>= fun _ => pure members.config) = _
    rw [members.accepted]
    rfl
  obtain ⟨t, made, finds, -⟩ :=
    identifies_by_key (.inr ⟨settings, accepted⟩) (.scripted .mysql) .rules
  obtain rfl : members = t :=
    Except.ok.inj ((Table.ofConfig_of_check _ _ members.accepted).symm.trans made)
  have resolved : members.config.primaryKey.resolve source = .ok key := rfl
  obtain ⟨sends, selects⟩ := finds source .fresh
  have some_sent : (findByKey source).sent members .fresh ≠ [] := by
    rintro nothing
    obtain ⟨f, refused⟩ := sends.1 nothing
    cases resolved.symm.trans refused
  obtain ⟨text, sent⟩ := List.exists_mem_of_ne_nil _ some_sent
  exact ⟨members.config, members, text, accepted, sent, selects text sent⟩

end Operation

end TableGateway

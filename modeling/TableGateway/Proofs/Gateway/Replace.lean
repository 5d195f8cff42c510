import TableGateway.Proofs.Gateway.Write
import TableGateway.Proofs.Key.Resolution
import TableGateway.Proofs.ReadBack.Equality

/-!
# Where `replace` goes

`replace` looks for the row with the key of its data and then writes: an `UPDATE` behind the very
condition of the probe when a row is there, an `INSERT` otherwise. The key comes from all of the
data and the write from the fields that can be written, so an `UPDATE` never changes the key of the
row, but an `INSERT` carries no more of the key than the table lets be written.
-/

namespace TableGateway

open ReadBack (Equates assigned content equates_iff readStatement said)
open Sql (Statement identifier whereText)

namespace Table

variable {t : Table} {key data : Record} {suffix : List Char}

/-! ## The key in the probe and in the write -/

/-- The key of an accepted table has a field. -/
theorem entries_ne_nil_of_resolve {source : KeySource}
    (resolved : t.config.primaryKey.resolve source = .ok key) : key.entries ≠ [] := by
  intro nothing
  apply TableConfig.fields_ne_nil_of_check t.accepted
  rw [List.eq_nil_iff_forall_not_mem]
  intro field named
  have taken := (PrimaryKey.mem_keys_resolve_iff resolved).2 named
  rw [OrderedMap.keys, nothing] at taken
  cases taken

/-- The text of the probe, with the text of its condition. -/
theorem Probe.toList_eq {probe : String} (looked : t.Probe key probe) :
    ∃ suffix, whereText t.backend.dialect t.config.primaryKey (.ofRecord key) = .ok suffix ∧
      probe.toList = "SELECT * FROM ".toList ++
        identifier t.backend.dialect t.config.table.toList ++ suffix ++ " LIMIT 1".toList := by
  obtain ⟨suffix, compiled, rfl⟩ := text_eq_ok_iff.1 looked
  refine ⟨suffix, compiled, ?_⟩
  rw [String.toList_ofList]
  rfl

/-- What a probe compares a key field with is the value that the data has under the field. -/
theorem equates_key_iff (resolved : t.config.primaryKey.resolve (.record data) = .ok key)
    (compiled : whereText t.backend.dialect t.config.primaryKey (.ofRecord key) = .ok suffix)
    {field : String} {literal : ReadBack.Literal} :
    Equates t.backend.dialect suffix field.toList literal ↔
      field ∈ t.config.primaryKey.fields ∧
        ∃ value, (field, value) ∈ data.entries ∧ literal = content value := by
  obtain ⟨names, there⟩ := PrimaryKey.resolve_record resolved
  rw [equates_iff (entries_ne_nil_of_resolve resolved) compiled, ← names, OrderedMap.keys]
  constructor
  · rintro ⟨⟨name, value⟩, mem, same, rfl⟩
    obtain rfl : field = name := String.toList_inj.1 same
    exact ⟨List.mem_map.2 ⟨_, mem, rfl⟩, value, there _ mem, rfl⟩
  · rintro ⟨named, value, given, rfl⟩
    obtain ⟨⟨name, found⟩, taken, rfl⟩ := List.mem_map.1 named
    have same := OrderedMap.get?_eq_some_iff.2 (there _ taken)
    rw [OrderedMap.get?_eq_some_iff.2 given] at same
    obtain rfl : value = found := Option.some.inj same
    exact ⟨_, taken, rfl, rfl⟩

/-- A write sets a field to a literal when the table lets the field be written and the data has a
value of this literal under it. -/
theorem mem_assigned_kept_iff {field : String} {literal : ReadBack.Literal} :
    (field.toList, literal) ∈ (t.kept data).entries.map assigned ↔
      t.config.constraints.contains field ∧
        ∃ value, (field, value) ∈ data.entries ∧ literal = content value := by
  rw [List.mem_map]
  constructor
  · rintro ⟨⟨name, value⟩, mem, same⟩
    obtain ⟨names, rfl⟩ := Prod.mk.inj same
    obtain rfl : name = field := String.toList_inj.1 names
    obtain ⟨given, allowed⟩ := List.mem_filter.1 mem
    exact ⟨allowed, value, given, rfl⟩
  · rintro ⟨allowed, value, given, rfl⟩
    exact ⟨(field, value), List.mem_filter.2 ⟨given, allowed⟩, rfl⟩

/-! ## The write behind the probe -/

/-- The write behind a probe with this condition and these rows in its answer: behind a row an
`UPDATE` with the same condition, which sets key fields only to what the condition compares them
with, and otherwise an `INSERT`. -/
def Routes (t : Table) (suffix : List Char) (rows : List Row) (write : String) : Prop :=
  match rows with
  | [] =>
      ∃ fields, readStatement t.backend.dialect write.toList =
        some (.insert t.config.table.toList fields)
  | _ :: _ =>
      ∃ fields, readStatement t.backend.dialect write.toList =
          some (.update t.config.table.toList fields suffix) ∧
        ∀ field ∈ t.config.primaryKey.fields, ∀ literal, (field.toList, literal) ∈ fields →
          Equates t.backend.dialect suffix field.toList literal

theorem routes_of_routed (resolved : t.config.primaryKey.resolve (.record data) = .ok key)
    (compiled : whereText t.backend.dialect t.config.primaryKey (.ofRecord key) = .ok suffix)
    (some_field : (t.kept data).entries ≠ []) {rows : List Row} {write : String}
    (written : (t.routed key data rows.head?).text t.backend.dialect t.config.table
      t.config.primaryKey = .ok write) : t.Routes suffix rows write := by
  cases rows with
  | nil =>
      obtain ⟨_, -, read⟩ := readStatement_of_text
        (s := .insert (t.kept data)) some_field written
      exact ⟨_, read⟩
  | cons row rest =>
      obtain ⟨same, compiled', read⟩ := readStatement_of_text
        (s := .update (t.kept data) (.ofRecord key)) some_field written
      obtain rfl : suffix = same := Except.ok.inj (compiled.symm.trans compiled')
      refine ⟨_, read, ?_⟩
      intro field named literal set
      obtain ⟨-, value⟩ := mem_assigned_kept_iff.1 set
      exact (equates_key_iff resolved compiled).2 ⟨named, value⟩

end Table

namespace Operation

variable {t : Table} {data : Record} {session : Session}

/-- Only a result of the driver is a success. -/
theorem map_outcome_eq_ok_iff {α β : Type} {reply : Reply α} {f : α → β} {b : β} :
    reply.outcome.map f = .ok b ↔ ∃ a, reply = .result a ∧ b = f a := by
  cases reply <;> simp [Reply.outcome, Except.map, eq_comm]

/-- `replace` sends nothing without a key. With one it sends its probe, and behind it the write that
the answer to the probe calls for, when the probe is answered and the checks of the write pass. It
succeeds exactly when the write is answered, and then tells the route and the effect. -/
theorem replace_routes (t : Table) (data : Record) (requested : Option RequestedConstraints)
    (session : Session) :
    let op := replace data requested
    (op.sent t session = [] ↔ ∃ f, t.config.primaryKey.resolve (.record data) = .error f) ∧
    ∀ key, t.config.primaryKey.resolve (.record data) = .ok key →
      ∃ suffix probe,
        whereText t.backend.dialect t.config.primaryKey (.ofRecord key) = .ok suffix ∧
        probe.toList = "SELECT * FROM ".toList ++
          identifier t.backend.dialect t.config.table.toList ++ suffix ++ " LIMIT 1".toList ∧
        (¬op.ReachesWrite t session.reply ∧ op.sent t session = [probe] ∨
          op.ReachesWrite t session.reply ∧ ∃ first write, session.reply = .result first ∧
            op.sent t session = [probe, write] ∧ t.Routes suffix first.toRows write) ∧
        ∀ replaced, (op.run t session).ending = .outcome (.ok replaced) ↔
          op.ReachesWrite t session.reply ∧ ∃ first second, session.reply = .result first ∧
            (session.execute probe).reply = .result second ∧
            replaced = Table.replacedBy first.toRows.head? second.toAffected := by
  intro op
  constructor
  · constructor
    · intro nothing
      cases resolved : t.config.primaryKey.resolve (.record data) with
      | error f => exact ⟨f, rfl⟩
      | ok key =>
          obtain ⟨probe, looked⟩ := t.exists_probe key
          rcases sent_replace requested resolved looked session with
            ⟨-, -, result, write, -, -, sent, -⟩ | ⟨-, sent, -⟩
          · cases sent.symm.trans nothing
          · cases sent.symm.trans nothing
    · rintro ⟨f, refused⟩
      exact sent_replace_of_error requested refused session
  · intro key resolved
    obtain ⟨probe, looked⟩ := t.exists_probe key
    obtain ⟨suffix, compiled, text⟩ := looked.toList_eq
    refine ⟨suffix, probe, compiled, text, ?_⟩
    rcases sent_replace requested resolved looked session with
      ⟨reaches, some_field, first, write, answered, written, sent, ended⟩ |
      ⟨misses, sent, fault, ended⟩
    · have routes := Table.routes_of_routed resolved compiled some_field written
      refine ⟨.inr ⟨reaches, first, write, answered, sent, routes⟩, ?_⟩
      intro replaced
      rw [ended, Ending.outcome.injEq, map_outcome_eq_ok_iff]
      constructor
      · rintro ⟨second, answer, rfl⟩
        exact ⟨reaches, first, second, answered, answer, rfl⟩
      · rintro ⟨-, other, second, same, answer, rfl⟩
        obtain rfl : first = other := Reply.result.inj (answered.symm.trans same)
        exact ⟨second, answer, rfl⟩
    · refine ⟨.inl ⟨misses, sent⟩, ?_⟩
      intro replaced
      rw [ended]
      constructor
      · intro succeeded
        cases succeeded
      · rintro ⟨reaches, -⟩
        exact absurd reaches misses

/-- A row is there, so the write is an update of this row and is told as one. -/
theorem replace_updates_found_row :
    let op := replace (OrderedMap.ofList [("id", .int64 7), ("name", .varchar "Ada")]) none
    ∃ (session : Session) (suffix : List Char) (probe write : String),
      op.sent .users session = [probe, write] ∧
        Table.users.Routes suffix [⟨["id"], [.int64 7]⟩] write ∧
        (op.run .users session).ending = .outcome (.ok (.updated ⟨1, none⟩)) := by
  let found : QueryResult := .rows [⟨["id"], [.int64 7]⟩]
  let session : Session := (Session.fresh.queue (.result found)).queue
    (.result (.affected ⟨1, none⟩))
  let data : Record := OrderedMap.ofList [("id", .int64 7), ("name", .varchar "Ada")]
  obtain ⟨-, resolves⟩ := replace_routes .users data none session
  obtain ⟨suffix, probe, -, -, sends, succeeds⟩ :=
    resolves (OrderedMap.singleton "id" (.int64 7)) rfl
  have reaches : (replace data none).ReachesWrite .users session.reply :=
    ⟨OrderedMap.singleton "id" (.int64 7), found, rfl, rfl, rfl⟩
  rcases sends with ⟨misses, -⟩ | ⟨-, first, write, answered, sent, routes⟩
  · exact absurd reaches misses
  · obtain rfl : found = first := Reply.result.inj answered
    exact ⟨session, suffix, probe, write, sent, routes,
      (succeeds _).2 ⟨reaches, found, _, rfl, rfl, rfl⟩⟩

/-! ## The key of an inserted row -/

/-- What sets fields is sent behind the probe. -/
theorem sent_eq_of_assignments? {key : Record} {probe text : String}
    {requested : Option RequestedConstraints}
    (resolved : t.config.primaryKey.resolve (.record data) = .ok key)
    (looked : t.Probe key probe) (sent : text ∈ (replace data requested).sent t session)
    {fields : List (List Char × ReadBack.Literal)}
    (sets : assignments? t.backend.dialect text = some fields) :
    (replace data requested).sent t session = [probe, text] := by
  have unlike : text ≠ probe := by
    rintro rfl
    rw [looked.sets_nothing.2] at sets
    cases sets
  rcases sent_replace requested resolved looked session with
    ⟨-, -, first, write, -, -, both, -⟩ | ⟨-, alone, -⟩
  · rw [both] at sent ⊢
    rcases List.mem_cons.1 sent with rfl | behind
    · exact absurd rfl unlike
    · obtain rfl := List.mem_singleton.1 behind
      rfl
  · rw [alone] at sent
    exact absurd (List.mem_singleton.1 sent) unlike

/-- Behind an answer without rows the data are inserted, when they pass their checks. -/
theorem exists_insert_of_rowless {key : Record} (requested : Option RequestedConstraints)
    (session : Session) (resolved : t.config.primaryKey.resolve (.record data) = .ok key)
    {first : QueryResult} (answered : session.reply = .result first)
    (rowless : first.toRows = []) (allowed : t.refusal? data data requested = none) :
    ∃ text ∈ (replace data requested).sent t session,
      readStatement t.backend.dialect text.toList =
        some (.insert t.config.table.toList ((t.kept data).entries.map assigned)) := by
  obtain ⟨probe, looked⟩ := t.exists_probe key
  rcases sent_replace requested resolved looked session with
    ⟨-, some_field, other, write, same, written, sent, -⟩ | ⟨misses, -⟩
  · obtain rfl : first = other := Reply.result.inj (answered.symm.trans same)
    rw [rowless] at written
    obtain ⟨_, -, read⟩ := Table.readStatement_of_text
      (s := .insert (t.kept data)) some_field written
    exact ⟨write, by simp [sent], read⟩
  · refine absurd ⟨key, first, resolved, answered, ?_⟩ misses
    rw [rowless]
    exact allowed

/-- An `INSERT` of `replace` carries of the key what the table lets be written: such a key field is
set to what the probe has compared it with, and any other key field is not set at all. -/
theorem insert_carries_writable_key (t : Table) {data key : Record} {text : String}
    {requested : Option RequestedConstraints} {session : Session}
    (resolved : t.config.primaryKey.resolve (.record data) = .ok key)
    (sent : text ∈ (replace data requested).sent t session) {table : List Char}
    {fields : List (List Char × ReadBack.Literal)}
    (read : readStatement t.backend.dialect text.toList = some (.insert table fields)) :
    ∃ suffix probe,
      whereText t.backend.dialect t.config.primaryKey (.ofRecord key) = .ok suffix ∧
      probe.toList = "SELECT * FROM ".toList ++
        identifier t.backend.dialect t.config.table.toList ++ suffix ++ " LIMIT 1".toList ∧
      (replace data requested).sent t session = [probe, text] ∧
      ∀ field ∈ t.config.primaryKey.fields, ∃ literal,
        Equates t.backend.dialect suffix field.toList literal ∧
        if t.config.constraints.contains field then (field.toList, literal) ∈ fields
        else field.toList ∉ fields.map Prod.fst := by
  have sets : assignments? t.backend.dialect text = some fields := by
    rw [assignments?, read]
    rfl
  have keeps := (sendsKept_replace t data requested session).keeps.1 text sent
  obtain rfl : fields = (t.kept data).entries.map assigned := (keeps.2 fields sets).1
  obtain ⟨probe, looked⟩ := t.exists_probe key
  obtain ⟨suffix, compiled, written⟩ := looked.toList_eq
  refine ⟨suffix, probe, compiled, written, sent_eq_of_assignments? resolved looked sent sets, ?_⟩
  intro field named
  obtain ⟨names, there⟩ := PrimaryKey.resolve_record resolved
  have taken : field ∈ key.keys := names.symm ▸ named
  obtain ⟨⟨name, value⟩, mem, rfl⟩ := List.mem_map.1 taken
  have given : ∃ v, (name, v) ∈ data.entries ∧ content value = content v :=
    ⟨value, there _ mem, rfl⟩
  refine ⟨content value, (Table.equates_key_iff resolved compiled).2 ⟨named, given⟩, ?_⟩
  split
  next allowed => exact Table.mem_assigned_kept_iff.2 ⟨allowed, given⟩
  next barred =>
    intro set
    obtain ⟨⟨_, literal⟩, assigns, rfl⟩ := List.mem_map.1 set
    exact barred (Table.mem_assigned_kept_iff.1 assigns).1

/-- A composite key is inserted as far as the table lets it be written. -/
theorem insert_carries_half_of_key :
    ∃ (memberships : Table) (suffix : List Char) (text : String)
        (fields : List (List Char × ReadBack.Literal)),
      let data := OrderedMap.ofList [("id", .int64 7), ("club", .varchar "chess")]
      text ∈ (replace data none).sent memberships .fresh ∧
        readStatement memberships.backend.dialect text.toList =
          some (.insert "memberships".toList fields) ∧
        Equates memberships.backend.dialect suffix "club".toList (content (.varchar "chess")) ∧
        Equates memberships.backend.dialect suffix "id".toList (content (.int64 7)) ∧
        ("club".toList, content (.varchar "chess")) ∈ fields ∧
        "id".toList ∉ fields.map Prod.fst := by
  let memberships : Table := ⟨.scripted .mysql,
    ⟨"memberships", .composite ["club", "id"], OrderedMap.singleton "club" .free⟩, .rules, rfl⟩
  let data : Record := OrderedMap.ofList [("id", .int64 7), ("club", .varchar "chess")]
  have resolved : memberships.config.primaryKey.resolve (.record data) =
      .ok (OrderedMap.ofList [("club", .varchar "chess"), ("id", .int64 7)]) := rfl
  obtain ⟨text, sent, read⟩ := exists_insert_of_rowless none .fresh resolved rfl rfl rfl
  obtain ⟨suffix, probe, compiled, -, -, carries⟩ :=
    insert_carries_writable_key memberships resolved sent read
  obtain ⟨_, compared, inserted⟩ := carries "club" (List.mem_cons_self ..)
  obtain ⟨-, chess, given, rfl⟩ := (Table.equates_key_iff resolved compiled).1 compared
  obtain rfl : Value.varchar "chess" = chess :=
    Option.some.inj (OrderedMap.get?_eq_some_iff.2 given)
  obtain ⟨_, sought, barred⟩ := carries "id" (List.mem_cons_of_mem _ (List.mem_cons_self ..))
  obtain ⟨-, seven, held, rfl⟩ := (Table.equates_key_iff resolved compiled).1 sought
  obtain rfl : Value.int64 7 = seven := Option.some.inj (OrderedMap.get?_eq_some_iff.2 held)
  exact ⟨memberships, suffix, text, _, sent, read, compared, sought, inserted, barred⟩

/-- The probe looks for a key that the table does not let be written, so no row that is inserted
has it. -/
theorem exists_insert_without_key :
    ¬∀ (t : Table) (data key : Record) (requested : Option RequestedConstraints)
        (session : Session) (suffix : List Char) (text : String) (table : List Char)
        (fields : List (List Char × ReadBack.Literal)),
      t.config.primaryKey.resolve (.record data) = .ok key →
      whereText t.backend.dialect t.config.primaryKey (.ofRecord key) = .ok suffix →
      (∀ result, session.reply = .result result → result.toRows = []) →
      text ∈ (replace data requested).sent t session →
      readStatement t.backend.dialect text.toList = some (.insert table fields) →
      ∀ field ∈ t.config.primaryKey.fields, ∀ literal,
        Equates t.backend.dialect suffix field.toList literal →
          (field.toList, literal) ∈ fields := by
  intro carries
  let data : Record := OrderedMap.ofList [("id", .int64 7), ("name", .varchar "Ada")]
  have resolved : Table.users.config.primaryKey.resolve (.record data) =
      .ok (OrderedMap.singleton "id" (.int64 7)) := rfl
  obtain ⟨text, sent, read⟩ := exists_insert_of_rowless none .fresh resolved rfl rfl rfl
  obtain ⟨suffix, compiled⟩ := Table.users.whereText_ofRecord (OrderedMap.singleton "id" (.int64 7))
  have compares : Equates Table.users.backend.dialect suffix "id".toList (content (.int64 7)) :=
    (Table.equates_key_iff resolved compiled).2
      ⟨List.mem_singleton_self "id", _, List.mem_cons_self .., rfl⟩
  have rowless : ∀ result, Session.fresh.reply = .result result → result.toRows = [] := by
    intro result answered
    obtain rfl : QueryResult.empty = result := Reply.result.inj answered
    rfl
  have inserted := carries .users data _ none .fresh suffix text _ _ resolved compiled rowless sent
    read "id" (List.mem_singleton_self "id") _ compares
  cases (Table.mem_assigned_kept_iff.1 inserted).1

end Operation

end TableGateway

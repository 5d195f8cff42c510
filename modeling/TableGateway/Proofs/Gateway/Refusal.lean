import TableGateway.Proofs.Gateway.Operation

/-!
# What is refused when

An operation of one statement is refused before the statement is sent or not at all. `replace` is
different: it looks for the row first, and its write is checked only when that has been answered.
So a failure of the gateway does not say that the driver was left alone, and this module says
exactly when it was not.
-/

namespace TableGateway

open Program (ofCheck)
open Sql (Statement whereText)

variable {α : Type}

namespace Table

/-! ## The checks of a write -/

def violations? (t : Table) (record : Record) (requested : Option RequestedConstraints) :
    Option Violations :=
  requested.bind fun r => t.validator.failure? record (r.resolve t.config.constraints)

/-- Why a write is refused: for the violations of the record that is checked, or else for data
without a field that can be written. -/
def refusal? (t : Table) (checked data : Record) (requested : Option RequestedConstraints) :
    Option Failure :=
  match t.violations? checked requested with
  | some violations => some (.validationFailed violations)
  | none =>
      match t.writable data with
      | .ok _ => none
      | .error f => some f

theorem silent_validate (t : Table) (record : Record) (requested : Option RequestedConstraints) :
    (t.validate record requested).Silent := by
  cases requested with
  | none => trivial
  | some r => exact (Program.silent_ofCheck _).reportAll _

/-- A validation reports its violations below the level of a warning. -/
theorem run_validate (t : Table) (record : Record) (requested : Option RequestedConstraints)
    (session : Session) :
    ∃ notices, (∀ notice ∈ notices, notice.level = .debug) ∧
      (t.validate record requested).run session =
        match t.violations? record requested with
        | some violations =>
            ⟨.outcome (.error (.failure (.validationFailed violations))), session, notices⟩
        | none => ⟨.outcome (.ok ()), session, notices⟩ := by
  cases requested with
  | none => exact ⟨[], nofun, rfl⟩
  | some r =>
      rw [validate, Program.run_reportAll, violations?, Option.bind_some, Validator.validate,
        Validator.notices]
      cases t.validator.failure? record (r.resolve t.config.constraints) with
      | none => exact ⟨[], nofun, rfl⟩
      | some violations =>
          refine ⟨[.validationFailed violations], ?_, rfl⟩
          intro notice mem
          rw [List.mem_singleton.1 mem]
          rfl

/-- A write that nothing can fail behind its checks is refused by its checks alone. -/
theorem failedWith_write_iff (t : Table) (checked data : Record)
    (requested : Option RequestedConstraints) {next : Record → Program α}
    (unfailing : ∀ fields, (next fields).Unfailing) (session : Session) (f : Failure) :
    ((t.validate checked requested >>= fun _ => ofCheck (t.writable data) >>= next).run
        session).FailedWith f ↔
      t.refusal? checked data requested = some f := by
  obtain ⟨notices, -, validated⟩ := t.run_validate checked requested session
  rw [Program.run_bind, validated, refusal?]
  cases t.violations? checked requested with
  | some violations =>
      change (Program.run (Program.fault (.failure (.validationFailed violations)) : Program α)
        session).FailedWith f ↔ _
      rw [Program.failedWith_fault_iff, Option.some.injEq]
  | none =>
      change ((ofCheck (t.writable data) >>= next).run session).FailedWith f ↔ _
      cases t.writable data with
      | error g => rw [Program.ofCheck_error_bind, Program.failedWith_fault_iff, Option.some.injEq]
      | ok fields =>
          have never := (unfailing fields).not_failedWith session f
          rw [Program.ofCheck_ok_bind]
          constructor
          · intro failed
            exact absurd failed never
          · intro refused
            cases refused

/-! ## Writes whose condition is always written -/

/-- The clauses of a key are always written. -/
theorem whereText_ofRecord (t : Table) (key : Record) :
    ∃ suffix, whereText t.backend.dialect t.config.primaryKey (.ofRecord key) = .ok suffix :=
  ⟨_, rfl⟩

theorem filterRecord_ofRecord (primaryKey : PrimaryKey) (record : Record) :
    (Condition.ofRecord record).filterRecord primaryKey = record := by
  rw [Condition.ofRecord, Condition.filterRecord]
  simp [OrderedMap.map, OrderedMap.mapEntries, Predicate.value, Function.comp_def]

theorem guarded_insert (t : Table) (data : Record) (requested : Option RequestedConstraints) :
    (t.insert data requested).Guarded := by
  apply (t.silent_validate data requested).bind
  intro _
  apply (Program.silent_ofCheck _).bind
  intro fields
  exact (t.guarded_perform _).bind fun _ => Program.unfailing_value _

theorem guarded_update (t : Table) (condition : Condition) (data : Record)
    (requested : Option RequestedConstraints) : (t.update condition data requested).Guarded := by
  apply (t.silent_validate _ requested).bind
  intro _
  apply (Program.silent_ofCheck _).bind
  intro fields
  apply Program.Guarded.reportAll
  exact (t.guarded_perform _).bind fun _ => Program.unfailing_value _

theorem failedWith_insert_iff (t : Table) (data : Record)
    (requested : Option RequestedConstraints) (session : Session) (f : Failure) :
    ((t.insert data requested).run session).FailedWith f ↔
      t.refusal? data data requested = some f := by
  apply t.failedWith_write_iff
  intro fields
  have sent : (t.perform (.insert fields)).Unfailing := t.unfailing_perform rfl
  exact sent.bind fun _ => Program.unfailing_value _

theorem failedWith_update_iff (t : Table) (key data : Record)
    (requested : Option RequestedConstraints) (session : Session) (f : Failure) :
    ((t.update (.ofRecord key) data requested).run session).FailedWith f ↔
      t.refusal? key data requested = some f := by
  rw [update, filterRecord_ofRecord]
  apply t.failedWith_write_iff
  intro fields
  obtain ⟨suffix, compiled⟩ := t.whereText_ofRecord key
  have sent : (t.perform (.update fields (.ofRecord key))).Unfailing := t.unfailing_perform compiled
  exact (sent.bind fun _ => Program.unfailing_value _).reportAll _

/-! ## The two statements of `replace` -/

/-- What `replace` does behind its probe. -/
def route (t : Table) (key data : Record) (requested : Option RequestedConstraints) :
    Option Row → Program Replaced
  | some _ => do
      let affected ← t.update (.ofRecord key) data requested
      return .updated affected
  | none => do
      let affected ← t.insert data requested
      return .inserted affected

theorem replace_eq (t : Table) (data : Record) (requested : Option RequestedConstraints) :
    t.replace data requested =
      (ofCheck (t.config.primaryKey.resolve (.record data)) >>= fun key =>
        t.find (.ofRecord key) .unspecified >>= t.route key data requested) := by
  rw [replace]
  congr

/-- The statement that `replace` looks for the row with. -/
def Probe (t : Table) (key : Record) (probe : String) : Prop :=
  (Statement.select (.ofRecord key) (.window .first)).text t.backend.dialect t.config.table
    t.config.primaryKey = .ok probe

theorem exists_probe (t : Table) (key : Record) : ∃ probe, t.Probe key probe :=
  ⟨_, rfl⟩

/-- A row is looked for with one statement, and the first row of the answer is the one. -/
theorem run_find_probe (t : Table) {key : Record} {probe : String} (written : t.Probe key probe)
    (session : Session) :
    ∃ notices, (t.find (.ofRecord key) .unspecified).run session =
      ⟨.outcome (session.reply.outcome.map fun result => result.toRows.head?),
        session.execute probe, notices⟩ := by
  have single : Paging.unspecified.singleRow = .window .first := rfl
  rw [find, Program.run_bind, search, Program.run_bind, single,
    t.run_perform (s := .select (.ofRecord key) (.window .first)) written, run_execute]
  cases session.reply with
  | result result => exact ⟨_, rfl⟩
  | failure message => exact ⟨_, rfl⟩
  | lost => exact ⟨_, rfl⟩

/-- Behind an answer to its probe, `replace` goes on with its write; without one it ends. -/
theorem run_replace (t : Table) {data key : Record} {probe : String}
    (requested : Option RequestedConstraints)
    (resolved : t.config.primaryKey.resolve (.record data) = .ok key)
    (written : t.Probe key probe) (session : Session) :
    ∃ notices, (t.replace data requested).run session =
      match session.reply.outcome with
      | .ok result =>
          ((t.route key data requested result.toRows.head?).run (session.execute probe)).after
            notices
      | .error fault => ⟨.outcome (.error fault), session.execute probe, notices⟩ := by
  obtain ⟨notices, looked⟩ := t.run_find_probe written session
  refine ⟨notices, ?_⟩
  rw [replace_eq, resolved, Program.ofCheck_ok_bind, Program.run_bind, looked]
  cases session.reply.outcome <;> rfl

theorem failedWith_route_iff (t : Table) (key data : Record)
    (requested : Option RequestedConstraints) (existing : Option Row) (session : Session)
    (f : Failure) :
    ((t.route key data requested existing).run session).FailedWith f ↔
      t.refusal? (if existing.isSome then key else data) data requested = some f := by
  cases existing with
  | none =>
      apply (Program.failedWith_bind_iff fun _ => Program.unfailing_value _).trans
      exact t.failedWith_insert_iff data requested session f
  | some row =>
      apply (Program.failedWith_bind_iff fun _ => Program.unfailing_value _).trans
      exact t.failedWith_update_iff key data requested session f

theorem guarded_route (t : Table) (key data : Record) (requested : Option RequestedConstraints)
    (existing : Option Row) : (t.route key data requested existing).Guarded := by
  cases existing with
  | none => exact (t.guarded_insert data requested).bind fun _ => Program.unfailing_value _
  | some row => exact (t.guarded_update _ data requested).bind fun _ => Program.unfailing_value _

theorem failedWith_replace_iff (t : Table) {data key : Record}
    (requested : Option RequestedConstraints)
    (resolved : t.config.primaryKey.resolve (.record data) = .ok key) (session : Session)
    (f : Failure) :
    ((t.replace data requested).run session).FailedWith f ↔
      ∃ result, session.reply = .result result ∧
        t.refusal? (if result.toRows.head?.isSome then key else data) data requested = some f := by
  obtain ⟨probe, written⟩ := t.exists_probe key
  obtain ⟨notices, ran⟩ := t.run_replace requested resolved written session
  rw [ran]
  cases session.reply with
  | result result =>
      have routed := t.failedWith_route_iff key data requested result.toRows.head?
        (session.execute probe) f
      constructor
      · intro failed
        exact ⟨result, rfl, routed.1 failed⟩
      · rintro ⟨other, same, refused⟩
        obtain rfl : result = other := by injection same
        exact routed.2 refused
  | failure message =>
      constructor
      · intro failed
        cases failed
      · rintro ⟨other, same, -⟩
        cases same
  | lost =>
      constructor
      · intro failed
        cases failed
      · rintro ⟨other, same, -⟩
        cases same

theorem session_replace_of_failedWith (t : Table) {data key : Record} {probe : String}
    {requested : Option RequestedConstraints}
    (resolved : t.config.primaryKey.resolve (.record data) = .ok key)
    (written : t.Probe key probe) {session : Session} {f : Failure}
    (failed : ((t.replace data requested).run session).FailedWith f) :
    ((t.replace data requested).run session).session = session.execute probe := by
  obtain ⟨notices, ran⟩ := t.run_replace requested resolved written session
  rw [ran] at failed ⊢
  cases answered : session.reply with
  | result result =>
      rw [answered] at failed
      exact (t.guarded_route key data requested _).session_eq failed
  | failure message => rfl
  | lost => rfl

end Table

namespace Operation

/-! ## Failures behind a statement -/

/-- The write of `replace` is refused when its probe has been answered: for the record that is
checked, the key of a row that is there or else the data, or for data that cannot be written. -/
def RefusedLate (t : Table) (reply : Reply QueryResult) (f : Failure) : Operation α → Prop
  | replace data requested =>
      ∃ key result, t.config.primaryKey.resolve (.record data) = .ok key ∧
        reply = .result result ∧
        t.refusal? (if result.toRows.head?.isSome then key else data) data requested = some f
  | _ => False

/-- The operation fails on the side of the gateway although the driver has received a statement. -/
def FailsBehindStatement (op : Operation α) (t : Table) (session : Session) (f : Failure) : Prop :=
  (op.run t session).FailedWith f ∧
    (op.run t session).session.statements ≠ session.statements

def OnlyProbed (op : Operation α) (t : Table) (session : Session) : Prop :=
  ∃ key probe, t.Probe key probe ∧ (op.run t session).session = session.execute probe

theorem statements_execute_ne (session : Session) (statement : String) :
    (session.execute statement).statements ≠ session.statements := by
  simp [Session.execute]

/-- What a guarded operation refuses it refuses in time. -/
theorem late_of_guarded {t : Table} {op : Operation α} {session : Session} {f : Failure}
    (guarded : (op.program t).Guarded) (never : ¬op.RefusedLate t session.reply f) :
    (op.FailsBehindStatement t session f ↔ op.RefusedLate t session.reply f) ∧
    ((op.run t session).FailedWith f →
      (op.run t session).session = session ∨ op.OnlyProbed t session) := by
  constructor
  · constructor
    · rintro ⟨failed, sent⟩
      exact absurd (congrArg Session.statements (guarded.session_eq failed)) sent
    · intro late
      exact absurd late never
  · intro failed
    exact .inl (guarded.session_eq failed)

theorem late_replace (t : Table) (data : Record) (requested : Option RequestedConstraints)
    (session : Session) (f : Failure) :
    ((replace data requested).FailsBehindStatement t session f ↔
      (replace data requested).RefusedLate t session.reply f) ∧
    (((replace data requested).run t session).FailedWith f →
      ((replace data requested).run t session).session = session ∨
        (replace data requested).OnlyProbed t session) := by
  -- Without a key nothing is sent at all; with one the probe always is.
  cases resolved : t.config.primaryKey.resolve (.record data) with
  | error g =>
      have stopped : (t.replace data requested).run session =
          (Program.fault (.failure g)).run session := by
        rw [Table.replace_eq, resolved, Program.ofCheck_error_bind]
      rw [FailsBehindStatement, run, program, stopped]
      refine ⟨⟨?_, ?_⟩, fun _ => .inl rfl⟩
      · rintro ⟨-, sent⟩
        exact absurd rfl sent
      · rintro ⟨key, result, found, -⟩
        rw [resolved] at found
        cases found
  | ok key =>
      have late := t.failedWith_replace_iff requested resolved session f
      obtain ⟨probe, written⟩ := t.exists_probe key
      have probed : ((replace data requested).run t session).FailedWith f →
          ((replace data requested).run t session).session = session.execute probe :=
        t.session_replace_of_failedWith resolved written
      refine ⟨⟨?_, ?_⟩, fun failed => .inr ⟨key, probe, written, probed failed⟩⟩
      · rintro ⟨failed, -⟩
        obtain ⟨result, answered, refused⟩ := late.1 failed
        exact ⟨key, result, resolved, answered, refused⟩
      · rintro ⟨other, result, found, answered, refused⟩
        obtain rfl : key = other := Except.ok.inj (resolved.symm.trans found)
        have failed : ((replace data requested).run t session).FailedWith f :=
          late.2 ⟨result, answered, refused⟩
        refine ⟨failed, ?_⟩
        rw [probed failed]
        exact statements_execute_ne session probe

/-- A failure of the gateway comes behind a statement exactly when the write of `replace` is
refused after its probe was answered. Then the probe is all that was sent, and in front of any other
failure nothing was. -/
theorem failedWith_behind_statement_iff (t : Table) (op : Operation α) (session : Session)
    (f : Failure) :
    (op.FailsBehindStatement t session f ↔ op.RefusedLate t session.reply f) ∧
    ((op.run t session).FailedWith f →
      (op.run t session).session = session ∨ op.OnlyProbed t session) := by
  cases op with
  | search condition paging => exact late_of_guarded (t.guarded_search condition paging) id
  | find condition paging => exact late_of_guarded (t.guarded_find condition paging) id
  | findByKey source => exact late_of_guarded (t.guarded_findByKey source) id
  | findOne field condition paging =>
      exact late_of_guarded (t.guarded_findOne field condition paging) id
  | findAll paging => exact late_of_guarded (t.guarded_search .everything paging) id
  | insert data requested => exact late_of_guarded (t.guarded_insert data requested) id
  | update condition data requested =>
      exact late_of_guarded (t.guarded_update condition data requested) id
  | replace data requested => exact late_replace t data requested session f
  | remove condition => exact late_of_guarded (t.guarded_remove condition) id
  | query template values =>
      exact late_of_guarded (unfailing_query t.backend template values).guarded id

/-- A row is there and its key alone is checked, so data that names everything is refused for the
name that the key lacks, and the probe has been sent. -/
theorem replace_fails_behind_statement :
    ∃ (users : Table) (session : Session),
      let op := replace
        (OrderedMap.ofList [("id", .int64 7), ("name", .varchar "Ada")]) (some .configured)
      op.FailsBehindStatement users session (.validationFailed
          (OrderedMap.singleton "name" ["name can't be blank"])) ∧
        op.OnlyProbed users session := by
  let users : Table := ⟨.scripted .generic,
    ⟨"users", .standard, OrderedMap.singleton "name" { Constraint.free with presence := true }⟩,
    .rules, rfl⟩
  let session : Session := Session.fresh.queue (.result (.rows [⟨["id"], [.int64 7]⟩]))
  refine ⟨users, session, ?_⟩
  have both := failedWith_behind_statement_iff users (replace
    (OrderedMap.ofList [("id", .int64 7), ("name", .varchar "Ada")]) (some .configured)) session
    (.validationFailed (OrderedMap.singleton "name" ["name can't be blank"]))
  obtain ⟨late, alone⟩ := both
  have fails := late.2 ⟨OrderedMap.singleton "id" (.int64 7), _, rfl, rfl, rfl⟩
  refine ⟨fails, ?_⟩
  rcases alone fails.1 with unsent | probed
  · exact absurd (congrArg Session.statements unsent) fails.2
  · exact probed

/-- The driver is not always left alone: without a field that can be written, `replace` is refused
when it has already looked for the row. -/
theorem exists_failure_behind_statement :
    ¬∀ (t : Table) (α : Type) (op : Operation α) (session : Session) (f : Failure),
      (op.run t session).FailedWith f →
        (op.run t session).session.statements = session.statements := by
  intro untouched
  let users : Table := ⟨.scripted .generic, .named "users", .rules, rfl⟩
  let data : Record := OrderedMap.singleton "id" (.int64 7)
  have resolved : users.config.primaryKey.resolve (.record data) = .ok data := rfl
  have failed : ((replace data none).run users .fresh).FailedWith
      (.invalidParameter (.noWritableFields "users")) :=
    (users.failedWith_replace_iff none resolved .fresh _).2 ⟨.empty, rfl, rfl⟩
  obtain ⟨probe, written⟩ := users.exists_probe data
  have sent := users.session_replace_of_failedWith resolved written failed
  have same := untouched users Replaced (replace data none) .fresh _ failed
  rw [run, program, sent] at same
  exact statements_execute_ne .fresh probe same

end Operation

end TableGateway

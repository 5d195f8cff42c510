import TableGateway.Gateway.Table
import TableGateway.Proofs.Gateway.Run

/-!
# Operations of a table

All operations of a table as one type, so that a statement can be about every one of them, and the
run of the one step that they share: a statement is written, sent and answered. What cannot be
written fails before it is sent, and what has been sent no longer fails on the side of the gateway.
-/

namespace TableGateway

open Sql (Statement whereText)

variable {α : Type}

/-- The operations of a table, each with the type of what it gives. -/
inductive Operation : Type → Type where
  | search (condition : Condition) (paging : Paging) : Operation (List Row)
  | find (condition : Condition) (paging : Paging) : Operation (Option Row)
  | findByKey (source : KeySource) : Operation (Option Row)
  | findOne (field : String) (condition : Condition) (paging : Paging) : Operation (Option Value)
  | findAll (paging : Paging) : Operation (List Row)
  | insert (data : Record) (requested : Option RequestedConstraints) : Operation Affected
  | update (condition : Condition) (data : Record) (requested : Option RequestedConstraints) :
      Operation Affected
  | replace (data : Record) (requested : Option RequestedConstraints) : Operation Replaced
  | remove (condition : Condition) : Operation Affected
  | query (template : String) (values : List Value) : Operation QueryResult

def Operation.program (t : Table) : Operation α → Program α
  | search condition paging => t.search condition paging
  | find condition paging => t.find condition paging
  | findByKey source => t.findByKey source
  | findOne field condition paging => t.findOne field condition paging
  | findAll paging => t.findAll paging
  | insert data requested => t.insert data requested
  | update condition data requested => t.update condition data requested
  | replace data requested => t.replace data requested
  | remove condition => t.remove condition
  | query template values => t.query template values

def Operation.run (op : Operation α) (t : Table) (session : Session) : Ran α :=
  (op.program t).run session

def Table.users : Table :=
  ⟨.scripted .generic, ⟨"users", .standard, OrderedMap.singleton "name" .free⟩, .rules, rfl⟩

/-! ## Sending -/

theorem level_nonFinite {numbers : List Numeric.Binary64} {notice : Notice}
    (mem : notice ∈ numbers.map Notice.nonFinite) : notice.level = .warn := by
  obtain ⟨x, -, rfl⟩ := List.mem_map.1 mem
  rfl

theorem unfailing_execute (backend : Backend) (statement : String) :
    (backend.execute statement).Unfailing :=
  fun result => Program.unfailing_value result

theorem unfailing_query (backend : Backend) (template : String) (values : List Value) :
    (backend.query template values).Unfailing :=
  (unfailing_execute backend _).reportAll _

theorem run_execute (backend : Backend) (statement : String) (session : Session) :
    (backend.execute statement).run session =
      ⟨.outcome session.reply.outcome, session.execute statement,
        .statement backend.name statement :: session.reply.notices⟩ := by
  rw [Backend.execute, Program.run, Program.run]
  cases session.reply <;> rfl

namespace Table

/-! ## Writing and sending a statement -/

theorem guarded_perform (t : Table) (s : Statement) : (t.perform s).Guarded := by
  apply Program.Guarded.reportAll
  apply (Program.silent_ofCheck _).bind
  intro text
  exact (unfailing_execute t.backend text).guarded

/-- A statement whose condition is written is sent, and then nothing is refused. -/
theorem unfailing_perform (t : Table) {s : Statement} {suffix : List Char}
    (compiled : whereText t.backend.dialect t.config.primaryKey s.condition = .ok suffix) :
    (t.perform s).Unfailing := by
  apply Program.Unfailing.reportAll
  rw [Statement.text, Statement.chars, compiled]
  exact unfailing_execute t.backend _

theorem run_perform (t : Table) {s : Statement} {text : String}
    (written : s.text t.backend.dialect t.config.table t.config.primaryKey = .ok text)
    (session : Session) :
    (t.perform s).run session =
      ((t.backend.execute text).run session).after (s.notices t.config.primaryKey) := by
  rw [perform, Program.run_reportAll, written]
  rfl

/-- A statement with a remark in front of it gives what is made of the answer, when it is written. -/
theorem run_effect (t : Table) (announced : List Notice) (s : Statement) (f : QueryResult → α)
    (session : Session) :
    (Program.reportAll announced (t.perform s >>= fun result => pure (f result))).run session =
      match s.text t.backend.dialect t.config.table t.config.primaryKey with
      | .ok text =>
          ⟨.outcome (session.reply.outcome.map f), session.execute text,
            announced ++ (s.notices t.config.primaryKey ++
              .statement t.backend.name text :: session.reply.notices)⟩
      | .error g =>
          ⟨.outcome (.error (.failure g)), session,
            announced ++ s.notices t.config.primaryKey⟩ := by
  rw [Program.run_reportAll, Program.run_bind]
  cases written : s.text t.backend.dialect t.config.table t.config.primaryKey with
  | error g =>
      rw [perform, Program.run_reportAll, written]
      simp [Program.ofCheck_error_bind, Program.fault, Program.run, Ran.after, Ran.andThen]
  | ok text =>
      rw [t.run_perform written, run_execute]
      cases session.reply <;>
        simp [Ran.after, Ran.andThen, Reply.outcome, Except.map, pure, Program.value, Program.run]

/-! ## Programs of the operations -/

theorem guarded_search (t : Table) (condition : Condition) (paging : Paging) :
    (t.search condition paging).Guarded :=
  (t.guarded_perform _).bind fun _ => Program.unfailing_value _

theorem guarded_find (t : Table) (condition : Condition) (paging : Paging) :
    (t.find condition paging).Guarded :=
  (t.guarded_search condition _).bind fun _ => Program.unfailing_value _

theorem guarded_findByKey (t : Table) (source : KeySource) : (t.findByKey source).Guarded := by
  apply (Program.silent_ofCheck _).bind
  intro key
  exact t.guarded_find _ _

theorem unfailing_columnOf (field : String) (row : Option Row) :
    (columnOf field row).Unfailing := by
  cases row with
  | none => exact Program.unfailing_value none
  | some row =>
      rw [columnOf]
      cases row.column field with
      | absent => exact Program.unfailing_value none
      | found value => exact Program.unfailing_value (some value)
      | beyond =>
          intro f failed
          cases failed

theorem guarded_findOne (t : Table) (field : String) (condition : Condition) (paging : Paging) :
    (t.findOne field condition paging).Guarded :=
  (t.guarded_find condition paging).bind (unfailing_columnOf field)

theorem guarded_remove (t : Table) (condition : Condition) : (t.remove condition).Guarded := by
  apply Program.Guarded.reportAll
  apply (t.guarded_perform _).bind
  intro result
  exact Program.unfailing_value _

end Table

end TableGateway

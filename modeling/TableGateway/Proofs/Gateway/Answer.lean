import TableGateway.Proofs.Gateway.Refusal
import TableGateway.Proofs.Gateway.Reply

/-!
# What an operation makes of the answers

An operation asks for one answer, `replace` for two, and gives their rows, a row, a column or an
effect. All that can come in front of the last answer is a failure of the gateway, and all that can
go wrong behind it is a row that has the label of a column and not the value under it.
-/

namespace TableGateway

open Program (ofCheck)

variable {α : Type}

/-! ## Columns -/

theorem columnIn_eq (name : String) (labels : List String) (values : List Value) :
    columnIn name labels values =
      if name ∈ labels then
        match values[labels.idxOf name]? with
        | some value => .found value
        | none => .beyond
      else .absent := by
  induction labels generalizing values with
  | nil => simp [columnIn]
  | cons label labels ih =>
      by_cases same : label = name
      · subst same
        cases values <;> simp [columnIn]
      · have behind : columnIn name (label :: labels) values = columnIn name labels values.tail :=
          if_neg same
        have other : (label == name) = false := beq_false_of_ne same
        rw [behind, ih]
        simp [List.idxOf_cons, other, Ne.symm same]

/-- The row has the label and ends in front of the value under it. -/
def Row.Lacks (row : Row) (name : String) : Prop :=
  name ∈ row.labels ∧ row.values.length ≤ row.labels.idxOf name

/-- The ending of a search for a column of a row: a row without the label has no such column, and a
row with it has the value in the place of the label. A row that ends in front of that place stops
the program. -/
def Ending.ofColumn (field : String) : Option Row → Ending (Option Value)
  | none => .outcome (.ok none)
  | some row =>
      if field ∈ row.labels then
        match row.values[row.labels.idxOf field]? with
        | some value => .outcome (.ok (some value))
        | none => .aborted
      else .outcome (.ok none)

theorem Table.columnOf_eq (field : String) (found : Option Row) :
    columnOf field found = .finished (.ofColumn field found) := by
  cases found with
  | none => rfl
  | some row =>
      rw [columnOf, Row.column, columnIn_eq, Ending.ofColumn]
      by_cases named : field ∈ row.labels
      · rw [if_pos named, if_pos named]
        cases row.values[row.labels.idxOf field]? <;> rfl
      · rw [if_neg named, if_neg named]
        rfl

theorem Ending.ofColumn_eq_aborted_iff {field : String} {found : Option Row} :
    ofColumn field found = .aborted ↔ ∃ row, found = some row ∧ row.Lacks field := by
  cases found with
  | none => simp [ofColumn]
  | some row =>
      rw [ofColumn]
      by_cases named : field ∈ row.labels
      · simp only [named, if_true, Option.some.injEq, exists_eq_left', Row.Lacks, true_and]
        rw [← List.getElem?_eq_none_iff]
        cases row.values[row.labels.idxOf field]? <;> simp
      · simp [named, Row.Lacks]

namespace Operation

/-- The number of statements of an operation that gets to its end. -/
def size : Operation α → Nat
  | replace _ _ => 2
  | _ => 1

/-- The ending that the answers to its statements call for, when there is one for each of them. -/
def finish : Operation α → List QueryResult → Ending α
  | search _ _, [answer] => .outcome (.ok answer.toRows)
  | findAll _, [answer] => .outcome (.ok answer.toRows)
  | find _ _, [answer] => .outcome (.ok answer.toRows.head?)
  | findByKey _, [answer] => .outcome (.ok answer.toRows.head?)
  | findOne field _ _, [answer] => .ofColumn field answer.toRows.head?
  | insert _ _, [answer] => .outcome (.ok answer.toAffected)
  | update _ _ _, [answer] => .outcome (.ok answer.toAffected)
  | remove _, [answer] => .outcome (.ok answer.toAffected)
  | replace _ _, [probe, answer] =>
      .outcome (.ok (match probe.toRows with
        | [] => .inserted answer.toAffected
        | _ :: _ => .updated answer.toAffected))
  | query _ _, [answer] => .outcome (.ok answer)
  | _, _ => .aborted

end Operation

/-! ## Statements and their answers -/

theorem meets_execute (backend : Backend) (statement : String) :
    (backend.execute statement).Meets
      (Ending.Behind 1 fun results => .outcome (.ok (results.headD .empty))) :=
  ⟨nofun, fun _ => .inr ⟨rfl, rfl⟩⟩

theorem meets_query (backend : Backend) (template : String) (values : List Value) :
    (backend.query template values).Meets
      (Ending.Behind 1 fun results => .outcome (.ok (results.headD .empty))) := by
  apply (meets_execute backend _).reportAll
  intro notice mem
  rw [level_nonFinite mem]
  decide

theorem meets_transact (backend : Backend) (transaction : Sql.Transaction) :
    (backend.transact transaction).Meets fun results ending =>
      results.length = 1 ∧ ending = .outcome (.ok ()) :=
  fun _ => ⟨rfl, rfl⟩

namespace Table

theorem meets_perform (t : Table) (s : Sql.Statement) :
    (t.perform s).Meets
      (Ending.Behind 1 fun results => .outcome (.ok (results.headD .empty))) := by
  apply Program.Meets.reportAll
  · apply (Program.meets_ofCheck _).behind_check Nat.one_pos
    intro text
    exact meets_execute t.backend text
  · intro notice mem
    rw [level_nonFinite mem]
    decide

theorem meets_search (t : Table) (condition : Condition) (paging : Paging) :
    (t.search condition paging).Meets
      (Ending.Behind 1 fun results => .outcome (.ok (results.headD .empty).toRows)) :=
  (t.meets_perform _).ends_as fun result => .outcome (.ok result.toRows)

theorem meets_find (t : Table) (condition : Condition) (paging : Paging) :
    (t.find condition paging).Meets
      (Ending.Behind 1 fun results => .outcome (.ok (results.headD .empty).toRows.head?)) :=
  (t.meets_search condition _).ends_as fun rows => .outcome (.ok rows.head?)

theorem meets_findByKey (t : Table) (source : KeySource) :
    (t.findByKey source).Meets
      (Ending.Behind 1 fun results => .outcome (.ok (results.headD .empty).toRows.head?)) := by
  apply (Program.meets_ofCheck _).behind_check Nat.one_pos
  intro key
  exact t.meets_find _ _

theorem meets_findOne (t : Table) (field : String) (condition : Condition) (paging : Paging) :
    (t.findOne field condition paging).Meets
      (Ending.Behind 1 fun results => .ofColumn field (results.headD .empty).toRows.head?) := by
  have program : t.findOne field condition paging =
      t.find condition paging >>= fun found => .finished (.ofColumn field found) := by
    rw [findOne]
    exact congrArg _ (funext (columnOf_eq field))
  rw [program]
  exact (t.meets_find condition paging).ends_as (Ending.ofColumn field)

theorem meets_effect (t : Table) (s : Sql.Statement) :
    (t.perform s >>= fun result => pure result.toAffected : Program Affected).Meets
      (Ending.Behind 1 fun results => .outcome (.ok (results.headD .empty).toAffected)) :=
  (t.meets_perform s).ends_as fun result => .outcome (.ok result.toAffected)

theorem meets_validate (t : Table) (record : Record) (requested : Option RequestedConstraints) :
    (t.validate record requested).Meets Ending.Unasked := by
  cases requested with
  | none => exact Program.meets_ofCheck (.ok ())
  | some r =>
      apply (Program.meets_ofCheck _).reportAll
      intro notice mem
      rw [Validator.notices] at mem
      cases failed : t.validator.failure? record (r.resolve t.config.constraints) with
      | none =>
          rw [failed] at mem
          cases mem
      | some violations =>
          rw [failed] at mem
          obtain rfl := List.mem_singleton.1 mem
          intro same
          cases same

theorem meets_write (t : Table) (checked data : Record) (requested : Option RequestedConstraints)
    {next : Record → Program α} {finish : List QueryResult → Ending α}
    (behind : ∀ fields, (next fields).Meets (Ending.Behind 1 finish)) :
    (t.validate checked requested >>= fun _ => ofCheck (t.writable data) >>= next).Meets
      (Ending.Behind 1 finish) := by
  apply (t.meets_validate checked requested).behind_check Nat.one_pos
  intro _
  exact (Program.meets_ofCheck _).behind_check Nat.one_pos behind

theorem meets_insert (t : Table) (data : Record) (requested : Option RequestedConstraints) :
    (t.insert data requested).Meets
      (Ending.Behind 1 fun results => .outcome (.ok (results.headD .empty).toAffected)) :=
  t.meets_write data data requested fun _ => t.meets_effect _

theorem meets_remark {p : Program α} {belongs : List QueryResult → Ending α → Prop}
    (meets : p.Meets belongs) {notice : Notice} (calm : notice.level ≠ .error) (told : Bool) :
    (Program.reportAll (if told then [notice] else []) p).Meets belongs := by
  apply meets.reportAll
  intro other mem
  cases told with
  | false => cases mem
  | true =>
      obtain rfl := List.mem_singleton.1 mem
      exact calm

theorem meets_update (t : Table) (condition : Condition) (data : Record)
    (requested : Option RequestedConstraints) :
    (t.update condition data requested).Meets
      (Ending.Behind 1 fun results => .outcome (.ok (results.headD .empty).toAffected)) :=
  t.meets_write _ data requested fun _ => meets_remark (t.meets_effect _) Level.noConfusion _

theorem meets_remove (t : Table) (condition : Condition) :
    (t.remove condition).Meets
      (Ending.Behind 1 fun results => .outcome (.ok (results.headD .empty).toAffected)) :=
  meets_remark (t.meets_effect _) Level.noConfusion _

/-- The write of `replace` gives its effect as that of the route. -/
theorem meets_route (t : Table) (key data : Record) (requested : Option RequestedConstraints)
    (rows : List Row) :
    (t.route key data requested rows.head?).Meets (Ending.Behind 1 fun results =>
      .outcome (.ok (match rows with
        | [] => .inserted (results.headD .empty).toAffected
        | _ :: _ => .updated (results.headD .empty).toAffected))) := by
  cases rows with
  | nil =>
      exact (t.meets_insert data requested).ends_as fun effect =>
        .outcome (.ok (Replaced.inserted effect))
  | cons row rest =>
      exact (t.meets_update _ data requested).ends_as fun effect =>
        .outcome (.ok (Replaced.updated effect))

theorem meets_replace (t : Table) (data : Record) (requested : Option RequestedConstraints) :
    (t.replace data requested).Meets
      (Ending.Behind 2 (Operation.replace data requested).finish) := by
  rw [replace_eq]
  apply (Program.meets_ofCheck _).behind_check Nat.two_pos
  intro key
  change Program.Meets (Ending.Behind (1 + 1) _) _
  apply (t.meets_find _ _).behind_value
  intro results one
  obtain ⟨probe, rfl⟩ := List.length_eq_one_iff.1 one
  apply (t.meets_route key data requested probe.toRows).mono
  rintro others ending (⟨few, failed⟩ | ⟨one, rfl⟩)
  · refine .inl ⟨?_, failed⟩
    rw [List.length_append]
    exact Nat.add_lt_add_left few 1
  · obtain ⟨answer, rfl⟩ := List.length_eq_one_iff.1 one
    exact .inr ⟨rfl, rfl⟩

end Table

namespace Operation

/-- Behind its answers an operation ends as they say, and in front of the last one it may fail on
the side of the gateway. -/
theorem meets_program (op : Operation α) (t : Table) :
    (op.program t).Meets (Ending.Behind op.size op.finish) := by
  cases op with
  | search condition paging => exact (t.meets_search condition paging).of_single fun _ => rfl
  | find condition paging => exact (t.meets_find condition paging).of_single fun _ => rfl
  | findByKey source => exact (t.meets_findByKey source).of_single fun _ => rfl
  | findOne field condition paging =>
      exact (t.meets_findOne field condition paging).of_single fun _ => rfl
  | findAll paging => exact (t.meets_search .everything paging).of_single fun _ => rfl
  | insert data requested => exact (t.meets_insert data requested).of_single fun _ => rfl
  | update condition data requested =>
      exact (t.meets_update condition data requested).of_single fun _ => rfl
  | replace data requested => exact t.meets_replace data requested
  | remove condition => exact (t.meets_remove condition).of_single fun _ => rfl
  | query template values => exact (meets_query t.backend template values).of_single fun _ => rfl

/-! ## Where an operation stops -/

/-- The first row of the answer lacks the value of the column that is asked for. -/
def StopsAt (results : List QueryResult) : Operation α → Prop
  | findOne field _ _ =>
      ∃ answer row, results = [answer] ∧ answer.toRows.head? = some row ∧ row.Lacks field
  | _ => False

theorem finish_eq_aborted_iff (op : Operation α) {results : List QueryResult}
    (all : results.length = op.size) : op.finish results = .aborted ↔ op.StopsAt results := by
  cases op with
  | findOne field condition paging =>
      obtain ⟨answer, rfl⟩ := List.length_eq_one_iff.1 all
      simp [finish, Ending.ofColumn_eq_aborted_iff, StopsAt]
  | replace data requested =>
      match results, all with
      | [probe, answer], _ => simp [finish, StopsAt]
  | _ =>
      obtain ⟨answer, rfl⟩ := List.length_eq_one_iff.1 all
      simp [finish, StopsAt]

/-- The driver answers all that the operation asks for, and the operation stops at an answer. -/
def StopsMidway (t : Table) (session : Session) (op : Operation α) : Prop :=
  ∃ results, (op.program t).replies session = results.map .result ∧ op.StopsAt results

theorem ending_eq_aborted_iff (op : Operation α) (t : Table) (session : Session) :
    (op.run t session).ending = .aborted ↔ op.StopsMidway t session := by
  have meets := op.meets_program t
  constructor
  · intro stopped
    change ((op.program t).run session).ending = .aborted at stopped
    obtain ⟨results, told⟩ := meets.run_cases session
    rcases told with ⟨replies, ended, -⟩ | ⟨last, fault, -, -, ended, -⟩
    · rw [stopped] at ended
      rcases ended with ⟨-, f, failed⟩ | ⟨all, finished⟩
      · cases failed
      · exact ⟨results, replies, (op.finish_eq_aborted_iff all).1 finished.symm⟩
    · cases stopped.symm.trans ended
  · rintro ⟨results, replies, stops⟩
    have all : results.length = op.size := by
      cases op with
      | findOne field condition paging =>
          obtain ⟨answer, row, rfl, -⟩ := stops
          rfl
      | _ => exact stops.elim
    rcases ((meets.passesOn session).answered results replies).1 with ⟨few, -⟩ | ⟨-, finished⟩
    · exact absurd all (Nat.ne_of_lt few)
    · exact finished.trans ((op.finish_eq_aborted_iff all).2 stops)

/-! ## Replies of the driver -/

/-- What the driver replies to an operation reaches the caller. An error ends the operation, is what
the operation gives, and stands in the log once; a lost reply ends it with a fault of its own and
without a line; results alone are reshaped, unless the gateway fails in front of the last one. Only
a row without the value of the column that is asked for has no shape to give. The statements of a
transaction are passed on in the same way. -/
theorem passesOn_replies (t : Table) (session : Session) :
    (∀ (α : Type) (op : Operation α),
      (op.program t).PassesOn session (Ending.Behind op.size op.finish) ∧
        ((op.run t session).ending = .aborted ↔ op.StopsMidway t session)) ∧
    (∀ transaction : Sql.Transaction, (t.backend.transact transaction).PassesOn session
      fun results ending => results.length = 1 ∧ ending = .outcome (.ok ())) ∧
    Fault.dropped.message = "The operation was dropped before completing" := by
  refine ⟨?_, ?_, rfl⟩
  · intro α op
    exact ⟨(op.meets_program t).passesOn session, op.ending_eq_aborted_iff t session⟩
  · intro transaction
    exact (meets_transact t.backend transaction).passesOn session

/-- The probe of `replace` is answered and its write fails, so the failure of the write is what
`replace` gives. -/
theorem replace_passes_on_failure :
    let op := replace (OrderedMap.ofList [("id", .int64 7), ("name", .varchar "Ada")]) none
    ∃ session : Session, (op.program .users).replies session =
        [.result (.rows [⟨["id"], [.int64 7]⟩]), .failure "gone"] ∧
      (op.run .users session).ending = .outcome (.error (.driver "gone")) ∧
      (op.run .users session).lines .error = ["gone"] := by
  intro op
  let session : Session := (Session.fresh.queue
    (.result (.rows [⟨["id"], [.int64 7]⟩]))).queue (.failure "gone")
  have replies : (op.program .users).replies session =
      [.result (.rows [⟨["id"], [.int64 7]⟩]), .failure "gone"] := rfl
  have passes := ((passesOn_replies .users session).1 Replaced op).1
  obtain ⟨-, ended, lines⟩ := passes.failed "gone" (by simp [replies])
  exact ⟨session, replies, ended, lines⟩

/-- A driver that only gives results may still leave the caller without any: a row with a label and
without the value under it stops the search for the column. -/
theorem exists_answered_without_outcome :
    ¬∀ (t : Table) (α : Type) (op : Operation α) (session : Session),
      (∀ reply ∈ (op.program t).replies session, ∃ result, reply = .result result) →
        ∃ outcome, (op.run t session).ending = .outcome outcome := by
  intro ends
  let session : Session := Session.fresh.queue
    (.result (.rows [⟨["id", "name"], [.int64 7]⟩]))
  let op := findOne "name" .everything .unspecified
  have replies : (op.program .users).replies session =
      [.result (.rows [⟨["id", "name"], [.int64 7]⟩])] := rfl
  obtain ⟨outcome, ended⟩ := ends .users _ op session (by simp [replies])
  cases ended

end Operation

end TableGateway

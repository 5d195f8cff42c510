import TableGateway.Proofs.Gateway.Write
import TableGateway.Proofs.ReadBack.Limit

/-!
# The first row

`find` sends the statement of `search` with a window of one row. A driver that gives the rows of the
window that stands in a statement gives `find` the first row that it gives `search`, except for a
window of which only the `start` is given. That number stands alone behind `LIMIT` and is read as a
count, but `find` puts its own count behind it, so that it becomes an offset.
-/

namespace TableGateway

open ReadBack (Span after? after?_append orderText readLimit readPaging readStatement)
open Sql (Dialect Statement whereText)

variable {α : Type}

/-- The window of a `SELECT` whose text up to the `LIMIT` is known behind its table. -/
def ReadBack.readWindow (dialect : Dialect) (front : List Char) (text : String) : Option Span :=
  match readStatement dialect text.toList with
  | some (.select _ rest) => (after? front rest).bind readLimit
  | _ => none

open ReadBack (readWindow)

def Table.chosen (t : Table) (condition : Condition) (rows : List Row) : Outcome (List Row) :=
  match whereText t.backend.dialect t.config.primaryKey condition with
  | .ok _ => .ok rows
  | .error f => .error (.failure f)

/-- Of the rows that satisfy a condition, in their order, the driver gives those of the window that
stands behind the condition and the order in the statement of an operation. -/
def Operation.AnsweredFrom (op : Operation α) (t : Table) (session : Session)
    (condition : Condition) (order : Option String) (rows : List Row) : Prop :=
  ∀ text ∈ op.sent t session, ∀ suffix span,
    whereText t.backend.dialect t.config.primaryKey condition = .ok suffix →
    readWindow t.backend.dialect (suffix ++ orderText order) text = some span →
      session.reply = .result (.rows (span.rows rows))

namespace Table

variable {t : Table} {condition : Condition} {paging : Paging} {suffix : List Char} {text : String}

theorem readWindow_of_text (plain : paging.Plain)
    (compiled : whereText t.backend.dialect t.config.primaryKey condition = .ok suffix)
    (written : (Statement.select condition paging).text t.backend.dialect t.config.table
      t.config.primaryKey = .ok text) :
    readWindow t.backend.dialect (suffix ++ orderText paging.order) text = some paging.span := by
  obtain ⟨limit, behind, window⟩ := plain.exists_text_eq
  obtain ⟨other, same, read⟩ := readStatement_of_text (s := .select condition paging) trivial written
  obtain rfl : suffix = other := Except.ok.inj (compiled.symm.trans same)
  have parts : suffix ++ paging.text = suffix ++ orderText paging.order ++ limit := by
    rw [behind, List.append_assoc]
  rw [readWindow, read]
  change (after? _ (suffix ++ paging.text)).bind _ = _
  rw [parts, after?_append, Option.bind_some, window]

/-- `find` is the search for a single row, and gives the first row that is found. -/
theorem run_find (t : Table) (condition : Condition) (paging : Paging) (session : Session) :
    (t.find condition paging).run session =
      ((t.search condition paging.singleRow).run session).andThen fun rows after =>
        ⟨.outcome (.ok rows.head?), after, []⟩ :=
  Program.run_bind _ _ session

end Table

namespace Operation

variable {t : Table} {condition : Condition} {paging : Paging} {session : Session} {rows : List Row}

/-- A search for which nothing can be written sends nothing and fails. Any other one sends one
statement and gives the rows of the answer. -/
theorem search_cases (t : Table) (condition : Condition) (paging : Paging) (session : Session) :
    (∃ f, whereText t.backend.dialect t.config.primaryKey condition = .error f ∧
      (search condition paging).sent t session = [] ∧
      ((search condition paging).run t session).ending = .outcome (.error (.failure f))) ∨
    ∃ suffix text, whereText t.backend.dialect t.config.primaryKey condition = .ok suffix ∧
      (Statement.select condition paging).text t.backend.dialect t.config.table
        t.config.primaryKey = .ok text ∧
      (search condition paging).sent t session = [text] ∧
      ((search condition paging).run t session).ending =
        .outcome (session.reply.outcome.map QueryResult.toRows) := by
  have ran := t.run_effect [] (.select condition paging) QueryResult.toRows session
  change (search condition paging).run t session = _ at ran
  cases compiled : whereText t.backend.dialect t.config.primaryKey condition with
  | error f =>
      have unwritten : (Statement.select condition paging).text t.backend.dialect t.config.table
          t.config.primaryKey = .error f := by
        rw [Statement.text, Statement.chars, Statement.condition, compiled]
        rfl
      rw [unwritten] at ran
      have sent : (search condition paging).sent t session = [] :=
        sent_eq (congrArg Ran.session ran)
      exact .inl ⟨f, rfl, sent, congrArg Ran.ending ran⟩
  | ok suffix =>
      have selects : whereText t.backend.dialect t.config.primaryKey
          (Statement.select condition paging).condition = .ok suffix := compiled
      have written := text_eq_ok_iff.2 ⟨suffix, selects, rfl⟩
      rw [written] at ran
      have sent : (search condition paging).sent t session = [_] :=
        sent_eq (congrArg Ran.session ran)
      exact .inr ⟨suffix, _, rfl, written, sent, congrArg Ran.ending ran⟩

theorem sent_find (t : Table) (condition : Condition) (paging : Paging) (session : Session) :
    (find condition paging).sent t session =
      (search condition paging.singleRow).sent t session := by
  have same : ((find condition paging).run t session).session =
      ((search condition paging.singleRow).run t session).session := by
    change ((t.find condition paging).run session).session =
      ((t.search condition paging.singleRow).run session).session
    rw [t.run_find]
    unfold Ran.andThen
    split <;> rfl
  exact congrArg (fun after : Session => after.statements.drop session.statements.length) same

/-- What answers `find` answers the search for a single row. -/
theorem answeredFrom_find_iff (plain : paging.Plain) :
    (find condition paging).AnsweredFrom t session condition paging.order rows ↔
      (search condition paging.singleRow).AnsweredFrom t session condition paging.singleRow.order
        rows := by
  rw [AnsweredFrom, AnsweredFrom, sent_find, plain.order_singleRow]

theorem AnsweredFrom.of_reply (plain : paging.Plain)
    (reply : session.reply = .result (.rows (paging.span.rows rows))) :
    (search condition paging).AnsweredFrom t session condition paging.order rows := by
  intro text mem suffix span compiled read
  rcases search_cases t condition paging session with
    ⟨f, -, sent, -⟩ | ⟨other, written, same, writes, sent, -⟩
  · rw [sent] at mem
    cases mem
  · obtain rfl := List.mem_singleton.1 (sent ▸ mem)
    have back := Table.readWindow_of_text plain compiled writes
    obtain rfl := Option.some.inj (back.symm.trans read)
    exact reply

theorem AnsweredFrom.ending_search (plain : paging.Plain)
    (answered : (search condition paging).AnsweredFrom t session condition paging.order rows) :
    ((search condition paging).run t session).ending =
      .outcome ((t.chosen condition rows).map paging.span.rows) := by
  rcases search_cases t condition paging session with
    ⟨f, refused, -, ended⟩ | ⟨suffix, text, compiled, written, sent, ended⟩
  · rw [ended, Table.chosen, refused]
    rfl
  · have reply := answered text (sent ▸ List.mem_singleton_self text) suffix paging.span compiled
      (Table.readWindow_of_text plain compiled written)
    rw [ended, reply, Table.chosen, compiled]
    rfl

theorem AnsweredFrom.ending_find (plain : paging.Plain)
    (answered : (find condition paging).AnsweredFrom t session condition paging.order rows) :
    ((find condition paging).run t session).ending =
      .outcome ((t.chosen condition rows).map fun rows =>
        (paging.singleRow.span.rows rows).head?) := by
  have ended := ((answeredFrom_find_iff plain).1 answered).ending_search plain.singleRow
  change ((t.search condition paging.singleRow).run session).ending = _ at ended
  change ((t.find condition paging).run session).ending = _
  rw [t.run_find, Ran.andThen, ended]
  cases t.chosen condition rows <;> rfl

/-- `find` gives the first row of `search`. A plain paging and its narrowing to a single row are
written behind the same order, and their windows are read back. The window of a single row is the
first row of the window of the whole, for all rows, exactly where the whole is not a `start` alone:
that is read as a count, and with the count behind it as an offset. So where a driver gives the rows
of the window that it is sent, and the whole can have a row, `find` gives the first one of the rows
that `search` gives, if there are any, and fails as `search` does where the condition does not fit. -/
theorem find_first_of_search (t : Table) (condition : Condition) {paging : Paging}
    (plain : paging.Plain) :
    ∃ span single, readPaging paging.order paging.text = some span ∧
      readPaging paging.order paging.singleRow.text = some single ∧
      (∀ start, paging.StartsAlone start → span = ⟨0, some start⟩ ∧ single = ⟨start, some 1⟩) ∧
      (span.count ≠ some 0 →
        ((∀ rows : List Row, single.rows rows = (span.rows rows).take 1) ↔
          ∀ start, ¬paging.StartsAlone start)) ∧
      ∀ rows searching finding,
        (search condition paging).AnsweredFrom t searching condition paging.order rows →
        (find condition paging).AnsweredFrom t finding condition paging.order rows →
          ((search condition paging).run t searching).ending =
            .outcome ((t.chosen condition rows).map span.rows) ∧
          ((find condition paging).run t finding).ending =
            .outcome ((t.chosen condition rows).map fun rows => (single.rows rows).head?) ∧
          (span.count ≠ some 0 → (∀ start, ¬paging.StartsAlone start) →
            ∃ outcome, ((search condition paging).run t searching).ending = .outcome outcome ∧
              ((find condition paging).run t finding).ending =
                .outcome (outcome.map List.head?)) := by
  have narrowed := plain.singleRow.readPaging_text
  rw [plain.order_singleRow] at narrowed
  refine ⟨paging.span, paging.singleRow.span, plain.readPaging_text, narrowed,
    fun start alone => alone.span_eq, plain.rows_singleRow_iff, ?_⟩
  intro rows searching finding searched found
  have whole := searched.ending_search plain
  have single := found.ending_find plain
  refine ⟨whole, single, ?_⟩
  intro some_row offset
  have first : ∀ rows : List Row,
      paging.singleRow.span.rows rows = (paging.span.rows rows).take 1 :=
    (plain.rows_singleRow_iff some_row).2 offset
  refine ⟨_, whole, single.trans ?_⟩
  cases t.chosen condition rows with
  | error f => rfl
  | ok rows =>
      change Ending.outcome (.ok (paging.singleRow.span.rows rows).head?) =
        .outcome (.ok (paging.span.rows rows).head?)
      rw [first, List.head?_take]
      rfl

/-- Behind an order and a row that is left out, both begin with the second row. -/
theorem find_first_of_search_behind_first :
    let paging : Paging := .window ⟨some "name", some (1, 5), none, none⟩
    let rows : List Row := [⟨["id"], [.int64 1]⟩, ⟨["id"], [.int64 2]⟩, ⟨["id"], [.int64 3]⟩]
    let searching := Session.fresh.queue (.result (.rows (rows.drop 1)))
    let finding := Session.fresh.queue (.result (.rows ((rows.drop 1).take 1)))
    ((search .everything paging).run .users searching).ending = .outcome (.ok (rows.drop 1)) ∧
      ((find .everything paging).run .users finding).ending =
        .outcome (.ok (rows.drop 1).head?) := by
  intro paging rows searching finding
  have plain : paging.Plain := fun sql => Paging.noConfusion
  have searched : (search .everything paging).AnsweredFrom .users searching .everything
      paging.order rows := .of_reply plain rfl
  have found : (find .everything paging).AnsweredFrom .users finding .everything paging.order
      rows := (answeredFrom_find_iff plain).2 (.of_reply plain.singleRow rfl)
  obtain ⟨span, single, read, -, -, -, gives⟩ := find_first_of_search .users .everything plain
  obtain rfl := Option.some.inj (plain.readPaging_text.symm.trans read)
  have some_row : paging.span.count ≠ some 0 := by decide
  have offset : ∀ start, ¬paging.StartsAlone start := by
    rintro start ⟨order, same⟩
    exact Option.some_ne_none _ (congrArg Window.pair (Paging.window.inj same))
  obtain ⟨whole, -, first⟩ := gives rows searching finding searched found
  obtain ⟨outcome, searches, finds⟩ := first some_row offset
  obtain rfl := Ending.outcome.inj (searches.symm.trans whole)
  exact ⟨whole, finds⟩

/-- With a `start` alone the single row is another one than the first. -/
theorem exists_single_row_behind_window :
    ¬∀ (paging : Paging) (span single : Span), paging.Plain →
      readPaging paging.order paging.text = some span →
      readPaging paging.order paging.singleRow.text = some single → span.count ≠ some 0 →
        ∀ rows : List Row, single.rows rows = (span.rows rows).take 1 := by
  intro first
  let paging : Paging := .window ⟨none, none, some 20, none⟩
  have plain : paging.Plain := fun sql => Paging.noConfusion
  have here := first paging _ _ plain plain.readPaging_text plain.singleRow.readPaging_text
    (by decide) [default]
  cases here

end Operation

end TableGateway

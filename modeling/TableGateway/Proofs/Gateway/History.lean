import TableGateway.Proofs.Gateway.Dialogue

/-!
# Calls one after the other

A driver serves operations of tables and what a connection offers by itself, one call after the
other, each at the state that the calls in front have left. However the calls end, the driver's
account is that of their dialogues in a row: it has recorded and counted their statements in order,
and the script has replied to each at its place. A call that is refused in front of its statement
takes no part in this, so that everything behind it goes as if it had not been made.
-/

namespace TableGateway

open Sql (Transaction)

variable {α : Type}

/-- Of the operations only `replace` may be refused behind a statement. -/
theorem Operation.guarded_program {op : Operation α} (single : op.size = 1) (t : Table) :
    (op.program t).Guarded := by
  cases op with
  | search condition paging => exact t.guarded_search condition paging
  | find condition paging => exact t.guarded_find condition paging
  | findByKey source => exact t.guarded_findByKey source
  | findOne field condition paging => exact t.guarded_findOne field condition paging
  | findAll paging => exact t.guarded_search .everything paging
  | insert data requested => exact t.guarded_insert data requested
  | update condition data requested => exact t.guarded_update condition data requested
  | replace data requested => cases single
  | remove condition => exact t.guarded_remove condition
  | query template values => exact (unfailing_query t.backend template values).guarded

/-- An operation that is refused leaves the driver alone, unless it has two statements: then it may
have sent its probe, and nothing else. -/
theorem Operation.session_of_failedWith {op : Operation α} {t : Table} {session : Session}
    {f : Failure} (failed : (op.run t session).FailedWith f) :
    (op.run t session).session = session ∨ (op.size = 2 ∧ op.OnlyProbed t session) := by
  by_cases single : op.size = 1
  · exact .inl ((guarded_program single t).session_eq failed)
  · cases op with
    | replace data requested =>
        exact ((late_replace t data requested session f).2 failed).imp_right fun probed =>
          ⟨rfl, probed⟩
    | _ => exact absurd rfl single

/-! ## Calls -/

/-- What can be asked of a driver: an operation of a table, or what a connection offers by
itself. -/
inductive Call : Type 1 where
  | operation {α : Type} (t : Table) (op : Operation α)
  | execute (backend : Backend) (statement : String)
  | query (backend : Backend) (template : String) (values : List Value)
  | transact (backend : Backend) (transaction : Transaction)
  /-- The end of the connection. -/
  | close (backend : Backend)

namespace Call

def Given : Call → Type
  | @operation α _ _ => α
  | execute _ _ => QueryResult
  | query _ _ _ => QueryResult
  | transact _ _ => Unit
  | close _ => Unit

/-- The program of a call. The end of a connection has nothing to send. -/
def program : (call : Call) → Program call.Given
  | operation t op => op.program t
  | execute backend statement => backend.execute statement
  | query backend template values => backend.query template values
  | transact backend transaction => backend.transact transaction
  | close _ => .value ()

def leave : Call → Session → Session
  | close backend, session => session.close backend
  | _, session => session

def run (call : Call) (session : Session) : Ran call.Given :=
  let ran := call.program.run session
  { ran with session := call.leave ran.session }

def dialogue (call : Call) (session : Session) : List (String × Reply QueryResult) :=
  call.program.dialogue session

/-- How many statements a call sends: an operation at most as many as its size, a statement of a
connection one, and its end none. -/
def Sends : Call → Nat → Prop
  | operation _ op, count => count ≤ op.size
  | close _, count => count = 0
  | _, count => count = 1

theorem sends_dialogue (call : Call) (session : Session) :
    call.Sends (call.dialogue session).length := by
  cases call with
  | operation t op => exact op.length_dialogue_le t session
  | execute backend statement =>
      exact congrArg List.length (dialogue_execute backend statement session)
  | query backend template values =>
      exact congrArg List.length (dialogue_query backend template values session)
  | transact backend transaction =>
      exact congrArg List.length (dialogue_transact backend transaction session)
  | close backend => rfl

/-- The end of a connection is no statement. -/
theorem through_leave (call : Call) (session : Session) :
    session.Through [] (call.leave session) := by
  cases call with
  | close backend =>
      rw [leave, Session.close]
      split
      · exact ⟨(List.append_nil _).symm, rfl, rfl, nofun⟩
      · exact .refl session
  | _ => exact .refl session

theorem through_run (call : Call) (session : Session) :
    session.Through (call.dialogue session) (call.run session).session := by
  have said := (session.through_run call.program).trans (call.through_leave _)
  rwa [List.append_nil] at said

/-! ## Calls that are refused -/

/-- A call that is refused leaves the driver alone, unless it is an operation of two statements:
then it may have sent its probe, and nothing else. -/
theorem session_of_failedWith {call : Call} {session : Session} {f : Failure}
    (failed : (call.run session).FailedWith f) :
    (call.run session).session = session ∨
      ∃ (α : Type) (t : Table) (op : Operation α), call = .operation t op ∧ op.size = 2 ∧
        op.OnlyProbed t session := by
  cases call with
  | operation t op =>
      exact (Operation.session_of_failedWith failed).imp_right fun probed => ⟨_, t, op, rfl, probed⟩
  | execute backend statement =>
      exact .inl ((unfailing_execute backend statement).guarded.session_eq failed)
  | query backend template values =>
      exact .inl ((unfailing_query backend template values).guarded.session_eq failed)
  | transact backend transaction =>
      have unfailing : (backend.transact transaction).Unfailing :=
        fun _ => Program.unfailing_value ()
      exact .inl (unfailing.guarded.session_eq failed)
  | close backend => cases failed

end Call

/-! ## Histories -/

structure Entry where
  call : Call
  dialogue : List (String × Reply QueryResult)
  ran : Ran call.Given

def history : List Call → Session → List Entry
  | [], _ => []
  | call :: rest, session =>
      ⟨call, call.dialogue session, call.run session⟩ :: history rest (call.run session).session

def behind : List Call → Session → Session
  | [], session => session
  | call :: rest, session => behind rest (call.run session).session

theorem length_history (calls : List Call) (session : Session) :
    (history calls session).length = calls.length := by
  induction calls generalizing session with
  | nil => rfl
  | cons call rest ih => exact congrArg Nat.succ (ih _)

theorem history_append (before later : List Call) (session : Session) :
    history (before ++ later) session =
      history before session ++ history later (behind before session) := by
  induction before generalizing session with
  | nil => rfl
  | cons call rest ih => exact congrArg (List.cons _) (ih _)

theorem behind_append (before later : List Call) (session : Session) :
    behind (before ++ later) session = behind later (behind before session) := by
  induction before generalizing session with
  | nil => rfl
  | cons call rest ih => exact ih _

/-- The driver's account of the calls of a list is that of their dialogues in a row. -/
theorem through_behind (calls : List Call) (session : Session) :
    session.Through ((history calls session).flatMap Entry.dialogue) (behind calls session) := by
  induction calls generalizing session with
  | nil => exact .refl session
  | cons call rest ih => exact (call.through_run session).trans (ih _)

/-- Each entry is what its call says and does at a state in between. -/
theorem exists_session_of_mem_history {calls : List Call} {session : Session} {entry : Entry}
    (mem : entry ∈ history calls session) :
    ∃ call session, entry = ⟨call, Call.dialogue call session, call.run session⟩ := by
  induction calls generalizing session with
  | nil => cases mem
  | cons call rest ih =>
      rcases List.mem_cons.1 mem with rfl | mem
      · exact ⟨call, session, rfl⟩
      · exact ih mem

/-- Behind some calls a call is not heard: it says nothing, leaves the driver as it is, and all that
comes later goes as if it had not been made. -/
structure Unheard (before : List Call) (call : Call) (session : Session) : Prop where
  silent : call.dialogue (behind before session) = []
  untouched : (call.run (behind before session)).session = behind before session
  same : ∀ later, (history (before ++ call :: later) session).eraseIdx before.length =
    history (before ++ later) session

theorem unheard_of_session_eq {before : List Call} {call : Call} {session : Session}
    (untouched : (call.run (behind before session)).session = behind before session) :
    Unheard before call session := by
  refine ⟨?_, untouched, ?_⟩
  · have through := call.through_run (behind before session)
    rw [untouched] at through
    exact through.eq_nil
  · intro later
    have place := Nat.le_of_eq (length_history before session)
    rw [history_append, history, untouched, List.eraseIdx_append_of_length_le place,
      length_history, Nat.sub_self, List.eraseIdx_cons_zero, history_append]

/-! ## The account of a driver -/

/-- A driver with a script to which nothing has been said. -/
def Session.scripted (script : List (Reply QueryResult)) : Session :=
  ⟨script, [], 0, 0⟩

/-- The account that a driver with a script gives of the calls of a list. -/
structure Accounts (script : List (Reply QueryResult)) (calls : List Call) : Prop where
  /-- The statements are recorded in the order in which the calls send them. -/
  recorded : (behind calls (.scripted script)).statements =
    ((history calls (.scripted script)).flatMap Entry.dialogue).map Prod.fst
  counted : (behind calls (.scripted script)).executions =
    (behind calls (.scripted script)).statements.length
  /-- Each statement is replied to by the entry of the script at its place, and behind the end of
  the script by rows that are empty. -/
  replied : ∀ (place : Nat) (statement : String) (reply : Reply QueryResult),
    ((history calls (.scripted script)).flatMap Entry.dialogue)[place]? = some (statement, reply) →
      reply = script[place]?.getD (.result .empty)
  /-- The replies to a call are what leads it to its ending. -/
  led : ∀ entry ∈ history calls (.scripted script),
    entry.call.program.Leads entry.dialogue entry.ran.ending
  /-- A call adds as many statements as it may send. -/
  added : ∀ before call later, calls = before ++ call :: later →
    ∃ statements, (behind (before ++ [call]) (.scripted script)).statements =
        (behind before (.scripted script)).statements ++ statements ∧
      call.Sends statements.length
  /-- A call that is refused is not heard, unless it is an operation of two statements that has sent
  its probe. -/
  refused : ∀ before call later f, calls = before ++ call :: later →
    (call.run (behind before (.scripted script))).FailedWith f →
      Unheard before call (.scripted script) ∨
        ∃ (α : Type) (t : Table) (op : Operation α), call = .operation t op ∧ op.size = 2 ∧
          op.OnlyProbed t (behind before (.scripted script))

/-- Whatever is asked of a driver, one call after the other: its records, its counter and its script
account for every statement, and no call that is refused in front of its statements has a part in
them. -/
theorem accounts_history (script : List (Reply QueryResult)) (calls : List Call) :
    Accounts script calls := by
  have through := through_behind calls (.scripted script)
  have recorded : (behind calls (.scripted script)).statements =
      ((history calls (.scripted script)).flatMap Entry.dialogue).map Prod.fst :=
    through.statements
  refine ⟨recorded, ?_, through.replies, ?_, ?_, ?_⟩
  · rw [through.executions, recorded, List.length_map]
    exact Nat.zero_add _
  · intro entry mem
    obtain ⟨call, session, rfl⟩ := exists_session_of_mem_history mem
    exact call.program.leads_dialogue session
  · rintro before call later -
    have said := call.through_run (behind before (.scripted script))
    refine ⟨(call.dialogue (behind before (.scripted script))).map Prod.fst, ?_, ?_⟩
    · rw [behind_append]
      exact said.statements
    · rw [List.length_map]
      exact call.sends_dialogue _
  · rintro before call later f - failed
    exact (Call.session_of_failedWith failed).imp_left unheard_of_session_eq

/-- A table lets nothing be written, and an insertion in front of a transaction is refused: the
transaction is replied to as if it had been the first call. -/
theorem accounts_unwritable_insert :
    let users : Table := ⟨.scripted .generic, .named "users", .rules, rfl⟩
    let insert := Call.operation users (.insert (OrderedMap.singleton "id" (.int64 7)) none)
    let start := Call.transact users.backend .start
    let session := Session.scripted [.failure "gone"]
    (history [insert, start] session).tail = history [start] session ∧
      (behind [insert, start] session).statements = ["START TRANSACTION"] ∧
      (start.run session).ending = .outcome (.error (.driver "gone")) := by
  intro users insert start session
  have accounts := accounts_history [.failure "gone"] [insert, start]
  obtain unheard | ⟨α, t, op, same, two, -⟩ :=
    accounts.refused [] insert [start] (.invalidParameter (.noWritableFields "users")) rfl rfl
  · refine ⟨?_, accounts.recorded, rfl⟩
    have same := unheard.same [start]
    rwa [List.length_nil, List.eraseIdx_zero] at same
  · cases show Call.operation users (.insert (OrderedMap.singleton "id" (.int64 7)) none) =
      .operation t op from same
    cases two

end TableGateway

import TableGateway.Proofs.Gateway.Answer

/-!
# Statements and the replies to them

The dialogue of a program with a driver is the list of its statements, each with the reply that the
program goes on with. It accounts for all that the program does to the driver: the statements are
those that the driver records, one is counted for each, and each is replied to by the entry of the
script at its place, whatever stood in front. An operation says no more than its size allows.
-/

namespace TableGateway

variable {α : Type}

/-! ## The dialogue of a program -/

namespace Program

def dialogue : Program α → Session → List (String × Reply QueryResult)
  | finished _, _ => []
  | report _ rest, session => rest.dialogue session
  | send statement next, session =>
      (statement, session.reply) :: match session.reply with
        | .result result => (next result).dialogue (session.execute statement)
        | _ => []

/-- The program sends the statements of a dialogue, is given the replies, and ends like this. No
driver is looked at. -/
inductive Leads : Program α → List (String × Reply QueryResult) → Ending α → Prop where
  | finished (ending : Ending α) : Leads (.finished ending) [] ending
  | report {notice : Notice} {rest : Program α} {dialogue : List (String × Reply QueryResult)}
      {ending : Ending α} (behind : Leads rest dialogue ending) :
      Leads (.report notice rest) dialogue ending
  | result {statement : String} {next : QueryResult → Program α} {result : QueryResult}
      {dialogue : List (String × Reply QueryResult)} {ending : Ending α}
      (behind : Leads (next result) dialogue ending) :
      Leads (.send statement next) ((statement, .result result) :: dialogue) ending
  | failure (statement : String) (next : QueryResult → Program α) (message : String) :
      Leads (.send statement next) [(statement, .failure message)]
        (.outcome (.error (.driver message)))
  | lost (statement : String) (next : QueryResult → Program α) :
      Leads (.send statement next) [(statement, .lost)] (.outcome (.error .dropped))

/-- A run ends as its dialogue leads it to. -/
theorem leads_dialogue (p : Program α) (session : Session) :
    p.Leads (p.dialogue session) (p.run session).ending := by
  induction p generalizing session with
  | finished ending => exact .finished ending
  | report notice rest ih => exact .report (ih session)
  | send statement next ih =>
      rw [dialogue, run]
      cases session.reply with
      | result result => exact .result (ih result (session.execute statement))
      | failure message => exact .failure statement next message
      | lost => exact .lost statement next

@[simp] theorem dialogue_reportAll (notices : List Notice) (p : Program α) (session : Session) :
    (reportAll notices p).dialogue session = p.dialogue session := by
  induction notices with
  | nil => rfl
  | cons notice rest ih => exact ih

end Program

theorem dialogue_execute (backend : Backend) (statement : String) (session : Session) :
    (backend.execute statement).dialogue session = [(statement, session.reply)] := by
  rw [Backend.execute, Program.dialogue, Program.dialogue]
  cases session.reply <;> rfl

theorem dialogue_query (backend : Backend) (template : String) (values : List Value)
    (session : Session) :
    (backend.query template values).dialogue session =
      [(String.ofList (Sql.fill backend.dialect template.toList values), session.reply)] := by
  rw [Backend.query, Program.dialogue_reportAll, dialogue_execute]

theorem dialogue_transact (backend : Backend) (transaction : Sql.Transaction) (session : Session) :
    (backend.transact transaction).dialogue session = [(transaction.text, session.reply)] := by
  rw [Backend.transact, Program.dialogue]
  cases session.reply <;> rfl

/-! ## What a dialogue does to the driver -/

namespace Session

/-- The reply to the statement with this many others in front of it: an entry of the script, or rows
that are empty behind its end. -/
def replyAt (session : Session) (place : Nat) : Reply QueryResult :=
  session.script[place]?.getD (.result .empty)

theorem replyAt_zero (session : Session) : session.replyAt 0 = session.reply := by
  rw [replyAt, reply, List.head?_eq_getElem?]

/-- A dialogue leads from one state of the driver to another: its statements are recorded and
counted, each takes an entry of the script, and the replies are these entries in order. -/
structure Through (before : Session) (dialogue : List (String × Reply QueryResult))
    (after : Session) : Prop where
  statements : after.statements = before.statements ++ dialogue.map Prod.fst
  executions : after.executions = before.executions + dialogue.length
  script : after.script = before.script.drop dialogue.length
  replies : ∀ place statement reply,
    dialogue[place]? = some (statement, reply) → reply = before.replyAt place

namespace Through

variable {a b c : Session} {first second : List (String × Reply QueryResult)}

theorem refl (a : Session) : a.Through [] a :=
  ⟨(List.append_nil _).symm, rfl, rfl, nofun⟩

theorem execute (a : Session) (statement : String) :
    a.Through [(statement, a.reply)] (a.execute statement) := by
  refine ⟨rfl, rfl, List.drop_one.symm, ?_⟩
  intro place text reply there
  cases place with
  | zero =>
      cases there
      exact a.replyAt_zero.symm
  | succ place => cases there

theorem trans (left : a.Through first b) (right : b.Through second c) :
    a.Through (first ++ second) c := by
  refine ⟨?_, ?_, ?_, ?_⟩
  · rw [right.statements, left.statements, List.map_append, List.append_assoc]
  · rw [right.executions, left.executions, List.length_append, Nat.add_assoc]
  · rw [right.script, left.script, List.drop_drop, List.length_append]
  · intro place statement reply there
    rcases Nat.lt_or_ge place first.length with early | late
    · rw [List.getElem?_append_left early] at there
      exact left.replies place statement reply there
    · rw [List.getElem?_append_right late] at there
      rw [right.replies _ statement reply there, replyAt, replyAt, left.script,
        List.getElem?_drop, Nat.add_sub_cancel' late]

theorem eq_nil (through : a.Through first a) : first = [] :=
  List.length_eq_zero_iff.1 (Nat.left_eq_add.1 through.executions)

end Through

/-- A run does to the driver what its dialogue says. -/
theorem through_run (p : Program α) (session : Session) :
    session.Through (p.dialogue session) (p.run session).session := by
  induction p generalizing session with
  | finished ending => exact .refl session
  | report notice rest ih => exact ih session
  | send statement next ih =>
      have sent := Through.execute session statement
      rw [Program.dialogue, Program.run]
      cases reply : session.reply with
      | result result =>
          rw [reply] at sent
          exact sent.trans (ih result (session.execute statement))
      | failure message =>
          rw [reply] at sent
          exact sent
      | lost =>
          rw [reply] at sent
          exact sent

end Session

/-! ## How much is said -/

namespace Program

variable {belongs : List QueryResult → Ending α → Prop} {p : Program α}

theorem Meets.exists_results (meets : p.Meets belongs) :
    ∃ results ending, belongs results ending := by
  induction p generalizing belongs with
  | finished ending => exact ⟨[], ending, meets⟩
  | report notice rest ih => exact ih meets.2
  | send statement next ih =>
      obtain ⟨results, ending, told⟩ := ih .empty (meets .empty)
      exact ⟨.empty :: results, ending, told⟩

/-- A program whose ending belongs to at most so many results sends at most so many statements. -/
theorem Meets.length_dialogue_le {size : Nat} (meets : p.Meets belongs)
    (bounded : ∀ results ending, belongs results ending → results.length ≤ size)
    (session : Session) : (p.dialogue session).length ≤ size := by
  induction p generalizing belongs size session with
  | finished ending => exact Nat.zero_le size
  | report notice rest ih => exact ih meets.2 bounded session
  | send statement next ih =>
      obtain ⟨results, ending, told⟩ := (meets .empty).exists_results
      obtain ⟨more, rfl⟩ : ∃ more, size = more + 1 :=
        Nat.exists_eq_add_one.2 (Nat.lt_of_lt_of_le (Nat.succ_pos _) (bounded _ ending told))
      rw [dialogue]
      cases session.reply with
      | result result =>
          apply Nat.succ_le_succ
          exact ih result (meets result)
            (fun results ending told => Nat.le_of_succ_le_succ (bounded _ ending told)) _
      | failure message => exact Nat.succ_le_succ (Nat.zero_le more)
      | lost => exact Nat.succ_le_succ (Nat.zero_le more)

end Program

/-- An operation sends one statement at most, and `replace` two. -/
theorem Operation.length_dialogue_le (op : Operation α) (t : Table) (session : Session) :
    ((op.program t).dialogue session).length ≤ op.size := by
  apply (op.meets_program t).length_dialogue_le
  rintro results ending (⟨few, -⟩ | ⟨all, -⟩)
  · exact Nat.le_of_lt few
  · exact Nat.le_of_eq all

end TableGateway

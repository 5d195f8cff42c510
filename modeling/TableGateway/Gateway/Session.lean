import TableGateway.Gateway.Program
import TableGateway.Sql.Literal

/-!
# Sessions

A session is a driver that keeps every statement it receives and answers from a script, one answer
per statement, with no rows once the script is exhausted. Running a program against a session gives
its ending, the session after it, and the notices on the way.
-/

namespace TableGateway

/-- What becomes of something asked for. -/
inductive Reply (α : Type) where
  | result (value : α)
  | failure (message : String)
  /-- Nobody will ever answer. -/
  | lost
  deriving Inhabited

def Reply.outcome : Reply α → Outcome α
  | result value => .ok value
  | failure message => .error (.driver message)
  | lost => .error .dropped

/-- An error of the driver is reported, a lost answer is not. -/
def Reply.notices : Reply α → List Notice
  | failure message => [.driverError message]
  | _ => []

/-- A driver as the gateway sees it: its name, its dialect, and whether ending the connection
reaches it. -/
structure Backend where
  name : String
  dialect : Sql.Dialect
  closes : Bool

def Backend.scripted : Sql.Dialect → Backend
  | .generic => ⟨"mock", .generic, true⟩
  | .mysql => ⟨"mock-mysql", .mysql, false⟩

/-- The state of a scripted driver. -/
structure Session where
  script : List (Reply QueryResult)
  statements : List String
  executions : Nat
  endings : Nat
  deriving Inhabited

namespace Session

/-- Nothing scripted and nothing received. -/
def fresh : Session := ⟨[], [], 0, 0⟩

def queue (session : Session) (reply : Reply QueryResult) : Session :=
  { session with script := session.script ++ [reply] }

def reply (session : Session) : Reply QueryResult :=
  session.script.head?.getD (.result .empty)

/-- Receives a statement and uses up an answer. -/
def execute (session : Session) (statement : String) : Session :=
  { session with
    script := session.script.tail
    statements := session.statements ++ [statement]
    executions := session.executions + 1 }

def close (session : Session) (backend : Backend) : Session :=
  if backend.closes then { session with endings := session.endings + 1 } else session

end Session

/-- A program that has run: its ending, the session after it, and the notices on the way. -/
structure Ran (α : Type) where
  ending : Ending α
  session : Session
  notices : List Notice

def Program.run : Program α → Session → Ran α
  | finished ending, session => ⟨ending, session, []⟩
  | report notice rest, session =>
      let ran := rest.run session
      ⟨ran.ending, ran.session, notice :: ran.notices⟩
  | send statement next, session =>
      match session.reply with
      | .result result => (next result).run (session.execute statement)
      | .failure message =>
          ⟨.outcome (.error (.driver message)), session.execute statement,
            [.driverError message]⟩
      | .lost => ⟨.outcome (.error .dropped), session.execute statement, []⟩

end TableGateway

import TableGateway.Notice
import TableGateway.Row

/-!
# Programs

An operation is a program: it reports notices, sends statements one after the other, each with what
to do with the answer, and ends. A driver that fails or drops a statement ends the operation at
once, so a program only says what follows a result. An ending is a value, a fault, or a stop in the
middle that leaves neither.
-/

namespace TableGateway

inductive Fault where
  /-- The gateway refused. -/
  | failure (reason : Failure)
  /-- The driver answered with an error. -/
  | driver (message : String)
  /-- The statement was dropped without an answer. -/
  | dropped
  deriving Inhabited

def Fault.message : Fault → String
  | failure f => f.message
  | driver message => message
  | dropped => "The operation was dropped before completing"

/-- What an operation gives to those who wait for it. -/
abbrev Outcome (α : Type) : Type := Except Fault α

inductive Ending (α : Type) where
  | outcome (result : Outcome α)
  /-- It stopped in the middle. -/
  | aborted

inductive Program (α : Type) where
  | finished (ending : Ending α)
  | report (notice : Notice) (rest : Program α)
  | send (statement : String) (next : QueryResult → Program α)

namespace Program

variable {α β : Type}

def value (a : α) : Program α := finished (.outcome (.ok a))

def fault (f : Fault) : Program α := finished (.outcome (.error f))

def bind : Program α → (α → Program β) → Program β
  | finished (.outcome (.ok a)), next => next a
  | finished (.outcome (.error f)), _ => fault f
  | finished .aborted, _ => finished .aborted
  | report notice rest, next => report notice (rest.bind next)
  | send statement rest, next => send statement fun result => (rest result).bind next

instance : Monad Program where
  pure := value
  bind := bind

def reportAll (notices : List Notice) (rest : Program α) : Program α :=
  notices.foldr report rest

def ofCheck : Except Failure α → Program α
  | .ok a => value a
  | .error f => fault (.failure f)

end Program

end TableGateway

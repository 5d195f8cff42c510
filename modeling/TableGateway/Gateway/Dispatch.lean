import TableGateway.Gateway.Session

/-!
# Dispatched operations

A dispatched operation is a task of its own. The driver has the completion of a statement until it
calls or drops it; the callback is told the outcome by the task; the caller has a handle that
settles to the outcome, and may drop it at any time. Task, driver and caller make their own moves,
so what happens is a list of moves. A program that stops in the middle takes the callback with it,
and the handle learns that the operation was dropped.
-/

namespace TableGateway

variable {α : Type}

/-! ## Channels -/

/-- A channel for one outcome, as its receiver finds it. -/
inductive Channel (α : Type) where
  | waiting
  | filled (outcome : Outcome α)
  /-- The sender went away and left nothing. -/
  | abandoned

def Channel.poll? : Channel α → Option (Outcome α)
  | waiting => none
  | filled outcome => some outcome
  | abandoned => some (.error .dropped)

/-- The channel behind a completion: a completion that is called fills it, one that is dropped
abandons it. -/
def Reply.channel : Reply α → Channel α
  | result value => .filled (.ok value)
  | failure message => .filled (.error (.driver message))
  | lost => .abandoned

theorem Reply.poll?_channel (reply : Reply α) : reply.channel.poll? = some reply.outcome := by
  cases reply <;> rfl

/-! ## Parties -/

/-- What the caller gave to be told the outcome. -/
inductive Callback where
  | absent
  | returning
  /-- It takes the outcome and then panics. -/
  | panicking
  deriving DecidableEq, Inhabited

namespace Callback

def told : Callback → Outcome α → List (Outcome α)
  | absent, _ => []
  | _, outcome => [outcome]

def notices : Callback → List Notice
  | panicking => [.callbackPanicked]
  | _ => []

end Callback

inductive Exchange where
  /-- The driver has the completion, and this is what it will do with it. -/
  | pending (reply : Reply QueryResult)
  /-- The completion has been used. -/
  | answered (reply : Reply QueryResult)

def Exchange.channel : Exchange → Channel QueryResult
  | pending _ => .waiting
  | answered reply => reply.channel

/-- Where the task of an operation stands. -/
inductive Task (α : Type) where
  | running (program : Program α)
  | awaiting (exchange : Exchange) (next : QueryResult → Program α)
  /-- The outcome is there and the callback does not know it. -/
  | reporting (outcome : Outcome α)
  /-- The channel of the handle does not have the outcome. -/
  | settling (outcome : Outcome α)
  /-- It is over and has sent the outcome. -/
  | done (outcome : Outcome α)
  /-- It is over and has sent nothing. -/
  | stopped

def Task.channel : Task α → Channel α
  | done outcome => .filled outcome
  | stopped => .abandoned
  | _ => .waiting

inductive Handle where
  | held
  | dropped
  /-- It has given the outcome. -/
  | settled
  deriving DecidableEq

/-- A dispatched operation with everything around it. -/
structure Dispatch (α : Type) where
  task : Task α
  callback : Callback
  handle : Handle
  session : Session
  /-- What the callback was told, in order. -/
  observed : List (Outcome α)
  /-- What the handle settled to, in order. -/
  settled : List (Outcome α)
  notices : List Notice

/-- Who moves. -/
inductive Move where
  /-- The runtime takes the task one step further. -/
  | work
  /-- The driver calls or drops the completion that it has. -/
  | answer
  /-- The caller polls the handle and finds an outcome. -/
  | poll
  /-- The caller drops the handle. -/
  | drop
  deriving DecidableEq

namespace Dispatch

/-! ## Moves -/

def afterEnding : Ending α → Task α
  | .outcome outcome => .reporting outcome
  | .aborted => .stopped

def afterAnswer (next : QueryResult → Program α) : Outcome QueryResult → Task α
  | .ok result => .running (next result)
  | .error fault => .reporting (.error fault)

/-- Takes a program one step further. -/
def advance (d : Dispatch α) : Program α → Dispatch α
  | .finished ending => { d with task := afterEnding ending }
  | .report notice rest => { d with task := .running rest, notices := d.notices ++ [notice] }
  | .send statement next =>
      { d with
        task := .awaiting (.pending d.session.reply) next
        session := d.session.execute statement }

def tell (d : Dispatch α) (outcome : Outcome α) : Dispatch α :=
  { d with
    observed := d.observed ++ d.callback.told outcome
    notices := d.notices ++ d.callback.notices }

/-- A step of the task, unless it waits for the driver or is over. -/
def work? (d : Dispatch α) : Option (Dispatch α) :=
  match d.task with
  | .running program => some (d.advance program)
  | .awaiting exchange next =>
      exchange.channel.poll?.map fun answer => { d with task := afterAnswer next answer }
  | .reporting outcome => some { d.tell outcome with task := .settling outcome }
  | .settling outcome => some { d with task := .done outcome }
  | .done _ => none
  | .stopped => none

/-- The driver uses the completion that it has. -/
def answer? (d : Dispatch α) : Option (Dispatch α) :=
  match d.task with
  | .awaiting (.pending reply) next =>
      some { d with
        task := .awaiting (.answered reply) next
        notices := d.notices ++ reply.notices }
  | _ => none

/-- The handle settles to what its channel gives. -/
def poll? (d : Dispatch α) : Option (Dispatch α) :=
  match d.handle with
  | .held =>
      d.task.channel.poll?.map fun outcome =>
        { d with handle := .settled, settled := d.settled ++ [outcome] }
  | _ => none

def dropHandle (d : Dispatch α) : Dispatch α :=
  { d with handle := .dropped }

def move? (d : Dispatch α) : Move → Option (Dispatch α)
  | .work => d.work?
  | .answer => d.answer?
  | .poll => d.poll?
  | .drop => if d.handle = .held then some d.dropHandle else none

/-- The state after a schedule, if all its moves can be made. -/
def follow? (d : Dispatch α) : List Move → Option (Dispatch α)
  | [] => some d
  | move :: rest => (d.move? move).bind fun d => d.follow? rest

/-! ## Start and end -/

/-- The refusal of an operation that nothing can carry. -/
def refusal : Outcome α :=
  .error (.failure (.invalidCall .noRuntime))

/-- Dispatches an operation. Without a runtime nothing runs: the callback is told the refusal at
once and the handle finds it in its channel. -/
def start (hasRuntime : Bool) (callback : Callback) (program : Program α) (session : Session) :
    Dispatch α :=
  let d : Dispatch α := ⟨.running program, callback, .held, session, [], [], []⟩
  if hasRuntime then d else { d.tell refusal with task := .done refusal }

end Dispatch

/-! ## What a move does -/

namespace Dispatch

/-- The moves, each with the state that it needs and the state that it leaves. -/
inductive Step : Dispatch α → Move → Dispatch α → Prop where
  | finish {d : Dispatch α} {ending : Ending α} (task : d.task = .running (.finished ending)) :
      Step d .work { d with task := afterEnding ending }
  | report {d : Dispatch α} {notice : Notice} {rest : Program α}
      (task : d.task = .running (.report notice rest)) :
      Step d .work { d with task := .running rest, notices := d.notices ++ [notice] }
  | send {d : Dispatch α} {statement : String} {next : QueryResult → Program α}
      (task : d.task = .running (.send statement next)) :
      Step d .work { d with
        task := .awaiting (.pending d.session.reply) next
        session := d.session.execute statement }
  | answer {d : Dispatch α} {reply : Reply QueryResult} {next : QueryResult → Program α}
      (task : d.task = .awaiting (.pending reply) next) :
      Step d .answer { d with
        task := .awaiting (.answered reply) next
        notices := d.notices ++ reply.notices }
  | receive {d : Dispatch α} {reply : Reply QueryResult} {next : QueryResult → Program α}
      (task : d.task = .awaiting (.answered reply) next) :
      Step d .work { d with task := afterAnswer next reply.outcome }
  | tell {d : Dispatch α} {outcome : Outcome α} (task : d.task = .reporting outcome) :
      Step d .work { d.tell outcome with task := .settling outcome }
  | fill {d : Dispatch α} {outcome : Outcome α} (task : d.task = .settling outcome) :
      Step d .work { d with task := .done outcome }
  | poll {d : Dispatch α} {outcome : Outcome α} (held : d.handle = .held)
      (there : d.task.channel.poll? = some outcome) :
      Step d .poll { d with handle := .settled, settled := d.settled ++ [outcome] }
  | drop {d : Dispatch α} (held : d.handle = .held) : Step d .drop d.dropHandle

theorem Step.move? {d e : Dispatch α} {move : Move} (step : Step d move e) :
    d.move? move = some e := by
  cases step with
  | finish task | report task | send task =>
      simp only [Dispatch.move?, work?, task, advance]
  | tell task | fill task => rw [Dispatch.move?, work?, task]
  | receive task =>
      rw [Dispatch.move?, work?, task]
      simp only [Exchange.channel, Reply.poll?_channel, Option.map_some]
  | answer task => rw [Dispatch.move?, answer?, task]
  | poll held there =>
      rw [Dispatch.move?, poll?, held]
      simp only [there, Option.map_some]
  | drop held => rw [Dispatch.move?, if_pos held]

theorem step_of_move? {d e : Dispatch α} {move : Move} (moved : d.move? move = some e) :
    Step d move e := by
  cases move with
  | work =>
      rw [Dispatch.move?, work?] at moved
      split at moved
      next program task =>
        obtain rfl := Option.some.inj moved
        cases program with
        | finished ending => exact .finish task
        | report notice rest => exact .report task
        | send statement next => exact .send task
      next exchange next task =>
        cases exchange with
        | pending reply => cases moved
        | answered reply =>
            simp only [Exchange.channel, Reply.poll?_channel, Option.map_some] at moved
            obtain rfl := Option.some.inj moved
            exact .receive task
      next outcome task =>
        obtain rfl := Option.some.inj moved
        exact .tell task
      next outcome task =>
        obtain rfl := Option.some.inj moved
        exact .fill task
      all_goals cases moved
  | answer =>
      rw [Dispatch.move?, answer?] at moved
      split at moved
      next reply next task =>
        obtain rfl := Option.some.inj moved
        exact .answer task
      next => cases moved
  | poll =>
      rw [Dispatch.move?, poll?] at moved
      split at moved
      next held =>
        obtain ⟨outcome, there, rfl⟩ := Option.map_eq_some_iff.1 moved
        exact .poll held there
      next => cases moved
  | drop =>
      rw [Dispatch.move?] at moved
      split at moved
      next held =>
        obtain rfl := Option.some.inj moved
        exact .drop held
      next => cases moved

end Dispatch

/-! ## How much is left -/

/-- The moves of a task and of the driver up to the end of a program. -/
def Program.moves : Program α → Session → Nat
  | finished _, _ => 1
  | report _ rest, session => rest.moves session + 1
  | send statement next, session =>
      match session.reply with
      | .result result => (next result).moves (session.execute statement) + 3
      | _ => 3

def Reply.moves (next : QueryResult → Program α) (session : Session) : Reply QueryResult → Nat
  | .result answer => (next answer).moves session
  | _ => 0

namespace Dispatch

/-- A bound on the moves that are left: those of the task and of the driver, and one of the
caller. -/
def remaining (d : Dispatch α) : Nat :=
  (match d.task with
    | .running program => program.moves d.session + 2
    | .awaiting (.pending reply) next => reply.moves next d.session + 4
    | .awaiting (.answered reply) next => reply.moves next d.session + 3
    | .reporting _ => 2
    | .settling _ => 1
    | .done _ => 0
    | .stopped => 0) +
  if d.handle = .held then 1 else 0

/-- Every move leaves less. -/
theorem Step.remaining_lt {d e : Dispatch α} {move : Move} (step : Step d move e) :
    e.remaining < d.remaining := by
  cases step with
  | @finish ending task =>
      rw [remaining, remaining, task]
      cases ending <;> simp [afterEnding, Program.moves]
  | report task =>
      rw [remaining, remaining, task]
      simp [Program.moves]
  | send task =>
      rw [remaining, remaining, task]
      simp only [Program.moves]
      cases d.session.reply <;> simp [Reply.moves]
  | answer task =>
      rw [remaining, remaining, task]
      simp
  | @receive reply next task =>
      rw [remaining, remaining, task]
      cases reply <;> simp [afterAnswer, Reply.outcome, Reply.moves]
  | tell task =>
      simp only [remaining, task, Dispatch.tell]
      omega
  | fill task =>
      rw [remaining, remaining, task]
      simp
  | poll held there =>
      rw [remaining, remaining, held]
      simp
  | drop held =>
      rw [remaining, remaining, held]
      simp [dropHandle]

/-! ## Running to the end -/

/-- The next state when nobody drops the handle, if anybody can move. -/
def next? (d : Dispatch α) : Option (Dispatch α) :=
  [Move.work, .answer, .poll].findSome? d.move?

theorem exists_step_of_next? {d e : Dispatch α} (moved : d.next? = some e) :
    ∃ move ≠ Move.drop, Step d move e := by
  obtain ⟨move, mem, made⟩ := List.exists_of_findSome?_eq_some moved
  refine ⟨move, ?_, step_of_move? made⟩
  rintro rfl
  revert mem
  decide

theorem remaining_lt_of_next? {d e : Dispatch α} (moved : d.next? = some e) :
    e.remaining < d.remaining := by
  obtain ⟨_, -, step⟩ := exists_step_of_next? moved
  exact step.remaining_lt

/-- The state in the end, when nobody drops the handle. -/
def complete (d : Dispatch α) : Dispatch α :=
  match _ : d.next? with
  | none => d
  | some e => e.complete
termination_by d.remaining
decreasing_by exact remaining_lt_of_next? ‹_›

end Dispatch

end TableGateway

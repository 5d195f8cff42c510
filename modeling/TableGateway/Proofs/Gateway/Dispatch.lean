import TableGateway.Gateway.Dispatch
import TableGateway.Proofs.Gateway.Ending

/-!
# What a dispatched operation shows

The task, the driver and the caller move in any order, and the caller may drop the handle between
any two moves. What becomes of the operation is settled when it starts: every state has an account
of how the program ends and of what the driver and the callback see, and no move changes it. The
handle gives what the account says or, when it is dropped, nothing.
-/

namespace TableGateway

variable {α : Type}

/-! ## Replies -/

def Reply.run (next : QueryResult → Program α) (session : Session) (reply : Reply QueryResult) :
    Ran α :=
  match reply.outcome with
  | .ok answer => (next answer).run session
  | .error fault => ⟨.outcome (.error fault), session, []⟩

theorem Program.run_send (statement : String) (next : QueryResult → Program α)
    (session : Session) :
    (send statement next).run session =
      (session.reply.run next (session.execute statement)).after session.reply.notices := by
  rw [run]
  cases session.reply <;> rfl

theorem Reply.prefix_statements_run (next : QueryResult → Program α) (session : Session)
    (reply : Reply QueryResult) :
    session.statements <+: (reply.run next session).session.statements := by
  rw [run]
  cases reply.outcome with
  | ok answer => exact (next answer).prefix_statements_run session
  | error fault => exact List.prefix_refl _

/-! ## Accounts -/

namespace Callback

def hears (callback : Callback) : Ending α → List (Outcome α)
  | .outcome outcome => callback.told outcome
  | .aborted => []

def remarks (callback : Callback) : Ending α → List Notice
  | .outcome _ => callback.notices
  | .aborted => []

end Callback

/-- What becomes of an operation, the handle aside. -/
structure Account (α : Type) where
  ending : Ending α
  session : Session
  observed : List (Outcome α)
  notices : List Notice

namespace Dispatch

/-- The account when this run and then the callback are still to come. -/
def expecting (d : Dispatch α) (ran : Ran α) : Account α :=
  ⟨ran.ending, ran.session, d.observed ++ d.callback.hears ran.ending,
    d.notices ++ ran.notices ++ d.callback.remarks ran.ending⟩

def having (d : Dispatch α) (ending : Ending α) : Account α :=
  ⟨ending, d.session, d.observed, d.notices⟩

def account (d : Dispatch α) : Account α :=
  match d.task with
  | .running program => d.expecting (program.run d.session)
  | .awaiting (.pending reply) next =>
      d.expecting ((reply.run next d.session).after reply.notices)
  | .awaiting (.answered reply) next => d.expecting (reply.run next d.session)
  | .reporting outcome => d.expecting ⟨.outcome outcome, d.session, []⟩
  | .settling outcome => d.having (.outcome outcome)
  | .done outcome => d.having (.outcome outcome)
  | .stopped => d.having .aborted

variable {d e : Dispatch α} {move : Move}

/-- No move changes what becomes of an operation. -/
theorem Step.account_eq (step : Step d move e) : e.account = d.account := by
  cases step with
  | @finish ending task =>
      rw [account, account, task]
      cases ending <;>
        simp [afterEnding, expecting, having, Program.run, Callback.hears, Callback.remarks]
  | report task =>
      rw [account, account, task]
      simp [expecting, Program.run]
  | send task =>
      rw [account, account, task]
      simp [expecting, Program.run_send]
  | answer task =>
      rw [account, account, task]
      simp [expecting, Ran.after]
  | @receive reply next task =>
      rw [account, account, task]
      cases reply <;> simp [expecting, afterAnswer, Reply.run, Reply.outcome]
  | tell task =>
      rw [account, account, task]
      simp [Dispatch.tell, expecting, having, Callback.hears, Callback.remarks]
  | fill task =>
      rw [account, account, task]
      rfl
  | poll held there => rfl
  | drop held => rfl

theorem account_start (callback : Callback) (program : Program α) (session : Session) :
    (start true callback program session).account =
      let ran := program.run session
      ⟨ran.ending, ran.session, callback.hears ran.ending,
        ran.notices ++ callback.remarks ran.ending⟩ := rfl

/-- What the driver and the callback have seen is the first part of the account. -/
theorem prefix_account (d : Dispatch α) :
    d.session.statements <+: d.account.session.statements ∧ d.observed <+: d.account.observed := by
  have settled : ∀ ending, d.session.statements <+: (d.having ending).session.statements ∧
      d.observed <+: (d.having ending).observed :=
    fun ending => ⟨List.prefix_refl _, List.prefix_refl _⟩
  have ahead : ∀ ran : Ran α, d.session.statements <+: ran.session.statements →
      d.session.statements <+: (d.expecting ran).session.statements ∧
        d.observed <+: (d.expecting ran).observed :=
    fun ran received => ⟨received, List.prefix_append _ _⟩
  rw [account]
  split
  next program task => exact ahead _ (program.prefix_statements_run d.session)
  next reply next task => exact ahead _ (reply.prefix_statements_run next d.session)
  next reply next task => exact ahead _ (reply.prefix_statements_run next d.session)
  next outcome task => exact ahead _ (List.prefix_refl _)
  all_goals exact settled _

/-- A task that has used the channel of the handle has nothing left to add to the account. -/
theorem account_of_poll? {outcome : Outcome α} (there : d.task.channel.poll? = some outcome) :
    d.session = d.account.session ∧ d.observed = d.account.observed ∧
      d.notices = d.account.notices ∧
      ∀ other, d.account.ending = .outcome other → outcome = other := by
  cases task : d.task with
  | done result =>
      have accounts : d.account = d.having (.outcome result) := by rw [account, task]
      rw [task] at there
      rw [accounts]
      refine ⟨rfl, rfl, rfl, ?_⟩
      intro other ended
      exact (Option.some.inj there).symm.trans (Ending.outcome.inj ended)
  | stopped =>
      have accounts : d.account = d.having .aborted := by rw [account, task]
      rw [accounts]
      refine ⟨rfl, rfl, rfl, ?_⟩
      intro other ended
      cases ended
  | _ =>
      rw [task] at there
      cases there

/-! ## The handle -/

/-- The handle has settled to what its channel gives, or to nothing yet. -/
def Orderly (d : Dispatch α) : Prop :=
  (d.handle = .settled ∧ ∃ outcome, d.task.channel.poll? = some outcome ∧ d.settled = [outcome]) ∨
    (d.handle ≠ .settled ∧ d.settled = [])

theorem Orderly.of_waiting (orderly : d.Orderly) (waiting : d.task.channel = .waiting) :
    d.handle ≠ .settled ∧ d.settled = [] := by
  rcases orderly with ⟨-, outcome, there, -⟩ | unsettled
  · rw [waiting] at there
    cases there
  · exact unsettled

theorem Step.orderly (step : Step d move e) (orderly : d.Orderly) : e.Orderly := by
  cases step with
  | poll held there =>
      rcases orderly with ⟨settled, -⟩ | ⟨-, none⟩
      · rw [held] at settled
        cases settled
      · exact .inl ⟨rfl, _, there, by rw [none]; rfl⟩
  | drop held =>
      rcases orderly with ⟨settled, -⟩ | ⟨-, none⟩
      · rw [held] at settled
        cases settled
      · exact .inr ⟨nofun, none⟩
  | finish task | report task | send task | answer task | receive task | tell task | fill task =>
      exact .inr (orderly.of_waiting (by rw [task]; rfl))

/-- What a channel gives, it gives from then on. -/
theorem Step.poll?_channel {outcome : Outcome α} (step : Step d move e)
    (there : d.task.channel.poll? = some outcome) : e.task.channel.poll? = some outcome := by
  cases step with
  | poll held | drop held => exact there
  | finish task | report task | send task | answer task | receive task | tell task | fill task =>
      rw [task] at there
      cases there

theorem Step.handle_eq_dropped_iff (step : Step d move e) :
    e.handle = .dropped ↔ d.handle = .dropped ∨ move = .drop := by
  cases step with
  | poll held there => simp [held]
  | drop held => simp [dropHandle]
  | _ => simp [Dispatch.tell]

/-! ## Schedules -/

inductive Execution : List Move → Dispatch α → Dispatch α → Prop where
  | refl (d : Dispatch α) : Execution [] d d
  | next {move : Move} {schedule : List Move} {d e f : Dispatch α} (moved : d.move? move = some e)
      (rest : Execution schedule e f) : Execution (move :: schedule) d f

theorem execution_iff_follow? {schedule : List Move} :
    Execution schedule d e ↔ d.follow? schedule = some e := by
  induction schedule generalizing d with
  | nil =>
      rw [follow?, Option.some.injEq]
      constructor
      · rintro ⟨⟩
        rfl
      · rintro rfl
        exact .refl d
  | cons move rest ih =>
      rw [follow?, Option.bind_eq_some_iff]
      constructor
      · rintro (_ | ⟨moved, onward⟩)
        exact ⟨_, moved, ih.1 onward⟩
      · rintro ⟨middle, moved, onward⟩
        exact .next moved (ih.2 onward)

namespace Execution

variable {schedule : List Move}

theorem account_eq (execution : Execution schedule d e) : e.account = d.account := by
  induction execution with
  | refl d => rfl
  | next moved rest ih => exact ih.trans (step_of_move? moved).account_eq

theorem orderly (execution : Execution schedule d e) (orderly : d.Orderly) : e.Orderly := by
  induction execution with
  | refl d => exact orderly
  | next moved rest ih => exact ih ((step_of_move? moved).orderly orderly)

theorem poll?_channel {outcome : Outcome α} (execution : Execution schedule d e)
    (there : d.task.channel.poll? = some outcome) : e.task.channel.poll? = some outcome := by
  induction execution with
  | refl d => exact there
  | next moved rest ih => exact ih ((step_of_move? moved).poll?_channel there)

theorem handle_eq_dropped_iff (execution : Execution schedule d e) :
    e.handle = .dropped ↔ d.handle = .dropped ∨ Move.drop ∈ schedule := by
  induction execution with
  | refl d => simp
  | next moved rest ih =>
      rw [ih, (step_of_move? moved).handle_eq_dropped_iff, List.mem_cons, or_assoc,
        @eq_comm _ Move.drop]

/-- No schedule is longer than what is left at its start. -/
theorem length_le (execution : Execution schedule d e) : schedule.length ≤ d.remaining := by
  induction execution with
  | refl d => exact Nat.zero_le _
  | next moved rest ih => exact Nat.lt_of_le_of_lt ih (step_of_move? moved).remaining_lt

end Execution

/-! ## The end of a schedule -/

/-- Nobody can move, unless the caller drops the handle. -/
def AtRest (d : Dispatch α) : Prop :=
  ∀ move ≠ Move.drop, d.move? move = none

/-- Where nobody can move, the task is over and the handle is not open. -/
theorem AtRest.settles (rest : d.AtRest) :
    (∃ outcome, d.task.channel.poll? = some outcome) ∧ d.handle ≠ .held := by
  have stuck : ∀ {move e}, Step d move e → move = .drop := by
    intro move e step
    by_cases drops : move = .drop
    · exact drops
    · cases (rest move drops).symm.trans step.move?
  have sent : ∃ outcome, d.task.channel.poll? = some outcome := by
    cases task : d.task with
    | running program =>
        cases program with
        | finished ending => cases stuck (.finish task)
        | report notice rest => cases stuck (.report task)
        | send statement next => cases stuck (.send task)
    | awaiting exchange next =>
        cases exchange with
        | pending reply => cases stuck (.answer task)
        | answered reply => cases stuck (.receive task)
    | reporting outcome => cases stuck (.tell task)
    | settling outcome => cases stuck (.fill task)
    | done outcome => exact ⟨_, rfl⟩
    | stopped => exact ⟨_, rfl⟩
  refine ⟨sent, ?_⟩
  intro held
  obtain ⟨outcome, there⟩ := sent
  cases stuck (.poll held there)

theorem atRest_of_next? (none_moves : d.next? = none) : d.AtRest := by
  rw [next?, List.findSome?_eq_none_iff] at none_moves
  intro move other
  cases move with
  | work => exact none_moves .work (by decide)
  | answer => exact none_moves .answer (by decide)
  | poll => exact none_moves .poll (by decide)
  | drop => exact absurd rfl other

/-- From every state a schedule without a drop leads to the end. -/
theorem exists_execution_complete (d : Dispatch α) :
    ∃ schedule, Move.drop ∉ schedule ∧ Execution schedule d d.complete ∧ d.complete.AtRest := by
  fun_induction complete d with
  | case1 d none_moves => exact ⟨[], nofun, .refl d, atRest_of_next? none_moves⟩
  | case2 d e moved ih =>
      obtain ⟨schedule, kept, execution, rest⟩ := ih
      obtain ⟨move, other, step⟩ := exists_step_of_next? moved
      refine ⟨move :: schedule, ?_, .next step.move? execution, rest⟩
      simp [kept, Ne.symm other]

/-! ## What is shown -/

/-- What a schedule of an operation shows that gives this outcome in this run: the driver has
received the first statements of the run, the callback and the handle see nothing but the outcome,
each at most once, and the callback sees it first. The schedule leads on to a state where nobody can
move, and there everybody has seen all, only not the handle when it was dropped. -/
structure Shows (d : Dispatch α) (schedule : List Move) (callback : Callback) (outcome : Outcome α)
    (ran : Ran α) : Prop where
  received : d.session.statements <+: ran.session.statements
  observed : d.observed <+: callback.told outcome
  settled : d.settled <+: [outcome]
  first : d.settled ≠ [] → d.observed = callback.told outcome
  dropped : Move.drop ∈ schedule → d.settled = []
  ends : ∃ more e, Move.drop ∉ more ∧ Execution more d e ∧ e.AtRest
  rest : d.AtRest → d.session = ran.session ∧ d.observed = callback.told outcome ∧
    d.notices = ran.notices ++ callback.notices ∧ (Move.drop ∉ schedule → d.settled = [outcome])

theorem Execution.shows {schedule : List Move} {callback : Callback} {outcome : Outcome α}
    {ran : Ran α} (execution : Execution schedule d e) (held : d.handle = .held)
    (unsettled : d.settled = [])
    (account : d.account = ⟨.outcome outcome, ran.session, callback.told outcome,
      ran.notices ++ callback.notices⟩) : e.Shows schedule callback outcome ran := by
  have same : e.account = ⟨.outcome outcome, ran.session, callback.told outcome,
      ran.notices ++ callback.notices⟩ := execution.account_eq.trans account
  have orderly : e.Orderly := execution.orderly (.inr ⟨by simp [held], unsettled⟩)
  have dropped_iff : e.handle = .dropped ↔ Move.drop ∈ schedule := by
    simp [execution.handle_eq_dropped_iff, held]
  -- Whatever the handle finds in its channel is the outcome, and then the account is complete.
  have found : ∀ {other}, e.task.channel.poll? = some other →
      e.session = ran.session ∧ e.observed = callback.told outcome ∧
        e.notices = ran.notices ++ callback.notices ∧ other = outcome := by
    intro other there
    obtain ⟨session, observed, notices, ending⟩ := account_of_poll? there
    rw [same] at session observed notices ending
    exact ⟨session, observed, notices, ending outcome rfl⟩
  obtain ⟨received, told⟩ := e.prefix_account
  rw [same] at received told
  obtain ⟨more, kept, onward, still⟩ := e.exists_execution_complete
  have ends : ∃ more f, Move.drop ∉ more ∧ Execution more e f ∧ f.AtRest :=
    ⟨more, _, kept, onward, still⟩
  rcases orderly with ⟨settled, other, there, given⟩ | ⟨unsettled, nothing⟩
  · obtain ⟨session, observed, notices, rfl⟩ := found there
    refine ⟨received, told, given ▸ List.prefix_refl _, fun _ => observed, ?_, ends,
      fun _ => ⟨session, observed, notices, fun _ => given⟩⟩
    intro drops
    cases settled.symm.trans (dropped_iff.2 drops)
  · refine ⟨received, told, nothing ▸ List.nil_prefix, fun some_given => absurd nothing some_given,
      fun _ => nothing, ends, ?_⟩
    intro rests
    obtain ⟨⟨other, there⟩, closed⟩ := rests.settles
    obtain ⟨session, observed, notices, -⟩ := found there
    refine ⟨session, observed, notices, ?_⟩
    intro kept_handle
    cases handle : e.handle with
    | held => exact absurd handle closed
    | dropped => exact absurd (dropped_iff.1 handle) kept_handle
    | settled => exact absurd handle unsettled

end Dispatch

namespace Operation

open Dispatch (Execution Shows refusal)

def dispatch (op : Operation α) (t : Table) (hasRuntime : Bool) (callback : Callback)
    (session : Session) : Dispatch α :=
  .start hasRuntime callback (op.program t) session

/-- Inside a runtime, and whatever the driver does with its completions as long as its rows are
complete, a dispatched operation shows the outcome that waiting for it gives: in every schedule,
with every callback. Outside a runtime it shows the refusal, the callback at once, and the driver is
left alone. No schedule is longer than what is left at its start. -/
theorem dispatch_shows (op : Operation α) (t : Table) (callback : Callback) {session : Session}
    (complete : session.Complete) :
    (∃ outcome, (op.run t session).ending = .outcome outcome ∧
      ∀ schedule d, Execution schedule (op.dispatch t true callback session) d →
        schedule.length ≤ (op.dispatch t true callback session).remaining ∧
          d.Shows schedule callback outcome (op.run t session)) ∧
    ∀ schedule d, Execution schedule (op.dispatch t false callback session) d →
      schedule.length ≤ (op.dispatch t false callback session).remaining ∧
        d.session = session ∧ d.observed = callback.told refusal ∧
        d.Shows schedule callback refusal ⟨.outcome refusal, session, []⟩ := by
  constructor
  · obtain ⟨outcome, ended⟩ := op.exists_outcome t complete
    refine ⟨outcome, ended, ?_⟩
    intro schedule d execution
    refine ⟨execution.length_le, execution.shows rfl rfl ?_⟩
    rw [dispatch, Dispatch.account_start]
    rw [Operation.run] at ended ⊢
    simp only [ended, Callback.hears, Callback.remarks]
  · intro schedule d execution
    obtain ⟨received, told, -⟩ := Dispatch.account_of_poll? (execution.poll?_channel rfl)
    rw [execution.account_eq] at received told
    exact ⟨execution.length_le, received, told, execution.shows rfl rfl rfl⟩

/-- A callback that panics and the handle see the same value, the callback first. -/
theorem dispatch_findOne_shows_value :
    let op := findOne "name" .everything .unspecified
    ∃ (session : Session) (schedule : List Move) (d : Dispatch (Option Value)),
      session.Complete ∧
        Execution schedule (op.dispatch .users true .panicking session) d ∧ d.AtRest ∧
        d.session = (op.run .users session).session ∧
        d.observed = [.ok (some (.varchar "Ada"))] ∧ d.settled = [.ok (some (.varchar "Ada"))] := by
  intro op
  let session : Session := Session.fresh.queue
    (.result (.rows [⟨["id", "name"], [.int64 7, .varchar "Ada"]⟩]))
  have complete : session.Complete := by
    intro result scripted row mem
    obtain rfl := Reply.result.inj (List.mem_singleton.1 scripted)
    obtain rfl := List.mem_singleton.1 mem
    rfl
  obtain ⟨⟨outcome, ended, shows⟩, -⟩ := dispatch_shows op .users .panicking complete
  obtain rfl : .ok (some (.varchar "Ada")) = outcome := Ending.outcome.inj (Eq.trans rfl ended)
  obtain ⟨schedule, kept, execution, rest⟩ :=
    (op.dispatch .users true .panicking session).exists_execution_complete
  obtain ⟨received, observed, -, settled⟩ := (shows schedule _ execution).2.rest rest
  exact ⟨session, schedule, _, complete, execution, rest, received, observed, settled kept⟩

end Operation

end TableGateway

import TableGateway.Proofs.Gateway.Answer
import TableGateway.Proofs.Gateway.Dispatch

/-!
# What the callback has heard when the handle gives an outcome

The task tells the callback before it fills the channel of the handle, so whoever finds an outcome
there finds it behind the callback. A task that stops in the middle does neither: the handle learns
of it from the abandoned channel and the callback learns nothing.
-/

namespace TableGateway

variable {α : Type}

/-- What the handle finds in its channel behind an ending. -/
def Ending.found : Ending α → Outcome α
  | .outcome result => result
  | .aborted => .error .dropped

namespace Dispatch

variable {d e : Dispatch α} {outcome : Outcome α}

theorem eq_found_of_poll? (there : d.task.channel.poll? = some outcome) :
    outcome = d.account.ending.found := by
  cases task : d.task with
  | done result =>
      rw [task] at there
      rw [account, task]
      exact (Option.some.inj there).symm
  | stopped =>
      rw [task] at there
      rw [account, task]
      exact (Option.some.inj there).symm
  | _ =>
      rw [task] at there
      cases there

/-- When the handle gives an outcome, it is its first, the ending says which one it is, and the
callback has heard all that it will ever hear. -/
theorem Execution.given {schedule : List Move} {callback : Callback} {program : Program α}
    {session : Session} (execution : Execution schedule (start true callback program session) d)
    (resolves : d.move? .poll = some e) :
    let ending := (program.run session).ending
    d.settled = [] ∧ e.settled = [ending.found] ∧ d.observed = callback.hears ending ∧
      ∀ more f, Execution more e f → f.observed = d.observed := by
  intro ending
  have accounts := execution.account_eq
  rw [account_start] at accounts
  have orderly : d.Orderly := execution.orderly (.inr ⟨nofun, rfl⟩)
  have step := step_of_move? resolves
  have after : e.account = d.account := step.account_eq
  cases step with
  | poll held there =>
      have heard : d.observed = callback.hears ending := by
        rw [(account_of_poll? there).2.1, accounts]
      have found := eq_found_of_poll? there
      rw [accounts] at found
      have none_yet : d.settled = [] := by
        rcases orderly with ⟨settled, -⟩ | ⟨-, none_yet⟩
        · rw [held] at settled
          cases settled
        · exact none_yet
      refine ⟨none_yet, ?_, heard, ?_⟩
      · simp only [none_yet, List.nil_append, found]
        rfl
      · intro more f onward
        -- The channel has been used, so what is heard is what the account says, here and there.
        obtain ⟨-, later, -⟩ := account_of_poll? (onward.poll?_channel there)
        rw [later, onward.account_eq, after, accounts, heard]

end Dispatch

namespace Operation

open Dispatch (Execution)

/-- When the handle of a dispatched operation gives its outcome, the callback has been told that
outcome, once, and is told nothing more. Only an operation that stops in the middle leaves the
callback out: the handle gives the loss of the operation and the callback never hears of it. -/
theorem settles_behind_callback (op : Operation α) (t : Table) {callback : Callback}
    (given : callback ≠ .absent) {session : Session} {schedule : List Move} {d e : Dispatch α}
    (execution : Execution schedule (op.dispatch t true callback session) d)
    (resolves : d.move? .poll = some e) :
    ∃ outcome, d.settled = [] ∧ e.settled = [outcome] ∧
      (¬op.StopsMidway t session ∧ (op.run t session).ending = .outcome outcome ∧
          d.observed = [outcome] ∨
        op.StopsMidway t session ∧ outcome = .error .dropped ∧ d.observed = []) ∧
      ∀ more f, Execution more e f → f.observed = d.observed := by
  obtain ⟨none_yet, settled, heard, final⟩ := execution.given resolves
  have stops := op.ending_eq_aborted_iff t session
  refine ⟨(op.run t session).ending.found, none_yet, settled, ?_, final⟩
  change d.observed = callback.hears (op.run t session).ending at heard
  rw [heard, ← stops]
  cases (op.run t session).ending with
  | outcome outcome =>
      refine .inl ⟨nofun, rfl, ?_⟩
      cases callback with
      | absent => exact absurd rfl given
      | returning | panicking => rfl
  | aborted => exact .inr ⟨rfl, rfl, rfl⟩

/-- An error of the driver is told to a callback that panics, and then the handle gives it. -/
theorem remove_settles_behind_callback :
    let op := remove .everything
    ∃ (session : Session) (d e : Dispatch Affected),
      Callback.panicking ≠ .absent ∧
        Execution [.work, .work, .work, .answer, .work, .work, .work]
          (op.dispatch .users true .panicking session) d ∧
        d.move? .poll = some e ∧ d.observed = [.error (.driver "gone")] ∧
        e.settled = [.error (.driver "gone")] := by
  intro op
  let session : Session := Session.fresh.queue (.failure "gone")
  let d : Dispatch Affected := ⟨.done (.error (.driver "gone")), .panicking, .held,
    (op.run .users session).session, [.error (.driver "gone")], [],
    (op.run .users session).notices ++ [.callbackPanicked]⟩
  have given : Callback.panicking ≠ .absent := nofun
  have execution : Execution [.work, .work, .work, .answer, .work, .work, .work]
      (op.dispatch .users true .panicking session) d := Dispatch.execution_iff_follow?.2 rfl
  obtain ⟨e, resolves⟩ : ∃ e, d.move? .poll = some e := ⟨_, rfl⟩
  obtain ⟨outcome, -, settled, told, -⟩ :=
    settles_behind_callback op .users given execution resolves
  rcases told with ⟨-, ended, heard⟩ | ⟨⟨_, -, stops⟩, -⟩
  · obtain rfl : .error (.driver "gone") = outcome := Ending.outcome.inj (Eq.trans rfl ended)
    exact ⟨session, d, e, given, execution, resolves, heard, settled⟩
  · exact stops.elim

/-- A row with a label and without the value under it lets the handle give an outcome of which the
callback has not heard. -/
theorem exists_settled_without_callback :
    ¬∀ (t : Table) (α : Type) (op : Operation α) (callback : Callback) (session : Session)
        (schedule : List Move) (d e : Dispatch α), callback ≠ .absent →
      Execution schedule (op.dispatch t true callback session) d → d.move? .poll = some e →
        ∃ outcome, e.settled = [outcome] ∧ d.observed = [outcome] := by
  intro tells
  let session : Session := Session.fresh.queue
    (.result (.rows [⟨["id", "name"], [.int64 7]⟩]))
  let op := findOne "name" .everything .unspecified
  let d : Dispatch (Option Value) := ⟨.stopped, .returning, .held,
    (op.run .users session).session, [], [], (op.run .users session).notices⟩
  have execution : Execution [.work, .work, .answer, .work, .work]
      (op.dispatch .users true .returning session) d := Dispatch.execution_iff_follow?.2 rfl
  obtain ⟨outcome, -, heard⟩ := tells .users _ op .returning session _ d _ nofun execution rfl
  cases heard

end Operation

end TableGateway

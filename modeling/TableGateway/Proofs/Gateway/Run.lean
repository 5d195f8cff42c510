import TableGateway.Gateway.Session

/-!
# Runs of programs

How the run of a program comes from the runs of its parts, and where a program may fail on its own.
A program is guarded when nothing but its part in front of the first statement can end in a failure
of the gateway: what such a program refuses, the driver never hears of.
-/

namespace TableGateway

variable {α β : Type}

namespace Ran

def after (ran : Ran α) (notices : List Notice) : Ran α :=
  { ran with notices := notices ++ ran.notices }

def andThen (ran : Ran α) (next : α → Session → Ran β) : Ran β :=
  match ran.ending with
  | .outcome (.ok a) => (next a ran.session).after ran.notices
  | .outcome (.error f) => ⟨.outcome (.error f), ran.session, ran.notices⟩
  | .aborted => ⟨.aborted, ran.session, ran.notices⟩

def FailedWith (ran : Ran α) (f : Failure) : Prop :=
  ran.ending = .outcome (.error (.failure f))

def lines (ran : Ran α) (level : Level) : List String :=
  (ran.notices.filter fun notice => notice.level = level).map Notice.text

end Ran

namespace Program

/-! ## The parts of a run -/

theorem run_reportAll (notices : List Notice) (p : Program α) (session : Session) :
    (reportAll notices p).run session = (p.run session).after notices := by
  induction notices with
  | nil => rfl
  | cons notice rest ih =>
      rw [reportAll, List.foldr_cons, run]
      rw [reportAll] at ih
      rw [ih]
      rfl

theorem run_bind (p : Program α) (next : α → Program β) (session : Session) :
    (p >>= next).run session = (p.run session).andThen fun a => (next a).run := by
  induction p generalizing session with
  | finished ending =>
      cases ending with
      | outcome result => cases result <;> rfl
      | aborted => rfl
  | report notice rest ih =>
      have behind : (rest.bind next).run session = _ := ih session
      change (report notice (rest.bind next)).run session = _
      rw [run, run, behind, Ran.andThen, Ran.andThen]
      cases rest.run session with
      | mk ending session notices =>
          cases ending with
          | outcome result => cases result <;> rfl
          | aborted => rfl
  | send statement rest ih =>
      -- Only a result of the driver leads on; its other replies end both sides in the same way.
      change (send statement fun result => (rest result).bind next).run session = _
      rw [run, run]
      cases session.reply with
      | result result => exact ih result (session.execute statement)
      | failure message => rfl
      | lost => rfl

theorem prefix_statements_run (p : Program α) (session : Session) :
    session.statements <+: (p.run session).session.statements := by
  induction p generalizing session with
  | finished ending => exact List.prefix_refl _
  | report notice rest ih => exact ih session
  | send statement next ih =>
      have received : session.statements <+: (session.execute statement).statements :=
        List.prefix_append _ _
      rw [run]
      cases session.reply with
      | result result => exact received.trans (ih result _)
      | failure message => exact received
      | lost => exact received

/-! ## What is sent -/

/-- The statements that the driver receives from a program, in order. -/
def sent (p : Program α) (session : Session) : List String :=
  (p.run session).session.statements.drop session.statements.length

theorem sent_eq {p : Program α} {session : Session} {sent : List String}
    (received : (p.run session).session = sent.foldl Session.execute session) :
    p.sent session = sent := by
  have statements : ∀ (texts : List String) (s : Session),
      (texts.foldl Session.execute s).statements = s.statements ++ texts := by
    intro texts
    induction texts with
    | nil => simp
    | cons text rest ih => simp [ih, Session.execute]
  rw [Program.sent, received, statements, List.drop_left]

@[simp] theorem sent_finished (ending : Ending α) (session : Session) :
    (finished ending).sent session = [] :=
  List.drop_length

@[simp] theorem sent_report (notice : Notice) (rest : Program α) (session : Session) :
    (report notice rest).sent session = rest.sent session := rfl

/-- Behind a statement more is sent when the driver answers it with a result, and else nothing. -/
theorem sent_send (statement : String) (next : QueryResult → Program α) (session : Session) :
    (send statement next).sent session =
      statement :: match session.reply with
        | .result result => (next result).sent (session.execute statement)
        | _ => [] := by
  have received : (session.execute statement).statements = session.statements ++ [statement] := rfl
  rw [sent, run]
  cases session.reply with
  | result result =>
      obtain ⟨more, behind⟩ := (next result).prefix_statements_run (session.execute statement)
      simp only [sent, ← behind, List.drop_left]
      rw [received, List.append_assoc, List.drop_left, List.singleton_append]
  | failure message => simp only [received, List.drop_left]
  | lost => simp only [received, List.drop_left]

@[simp] theorem ofCheck_ok_bind (a : α) (next : α → Program β) :
    (ofCheck (.ok a) >>= next) = next a := rfl

@[simp] theorem ofCheck_error_bind (f : Failure) (next : α → Program β) :
    (ofCheck (.error f) >>= next) = fault (.failure f) := rfl

theorem failedWith_fault_iff {f g : Failure} {session : Session} :
    ((fault (.failure g) : Program α).run session).FailedWith f ↔ g = f := by
  simp [fault, run, Ran.FailedWith]

/-! ## Programs that refuse in time -/

def Silent : Program α → Prop
  | finished _ => True
  | report _ rest => rest.Silent
  | send _ _ => False

/-- Never ends in a failure of the gateway. -/
def Unfailing : Program α → Prop
  | finished ending => ∀ f, ending ≠ .outcome (.error (.failure f))
  | report _ rest => rest.Unfailing
  | send _ next => ∀ result, (next result).Unfailing

/-- Never ends in a failure of the gateway behind its first statement. -/
def Guarded : Program α → Prop
  | finished _ => True
  | report _ rest => rest.Guarded
  | send _ next => ∀ result, (next result).Unfailing

theorem unfailing_value (a : α) : (value a).Unfailing := by
  intro f failed
  cases failed

theorem Unfailing.guarded {p : Program α} (unfailing : p.Unfailing) : p.Guarded := by
  induction p with
  | finished ending => trivial
  | report notice rest ih => exact ih unfailing
  | send statement next ih => exact unfailing

theorem Unfailing.bind {p : Program α} {next : α → Program β} (unfailing : p.Unfailing)
    (behind : ∀ a, (next a).Unfailing) : (p >>= next).Unfailing := by
  induction p with
  | finished ending =>
      cases ending with
      | outcome result =>
          cases result with
          | ok a => exact behind a
          | error f =>
              intro g failed
              obtain rfl : f = .failure g := by
                injection failed with failed
                injection failed
              exact unfailing g rfl
      | aborted =>
          intro g failed
          cases failed
  | report notice rest ih => exact ih unfailing
  | send statement rest ih => exact fun result => ih result (unfailing result)

theorem Guarded.bind {p : Program α} {next : α → Program β} (guarded : p.Guarded)
    (behind : ∀ a, (next a).Unfailing) : (p >>= next).Guarded := by
  induction p with
  | finished ending =>
      cases ending with
      | outcome result =>
          cases result with
          | ok a => exact (behind a).guarded
          | error f => trivial
      | aborted => trivial
  | report notice rest ih => exact ih guarded
  | send statement rest ih => exact fun result => (guarded result).bind behind

theorem Silent.bind {p : Program α} {next : α → Program β} (silent : p.Silent)
    (behind : ∀ a, (next a).Guarded) : (p >>= next).Guarded := by
  induction p with
  | finished ending =>
      cases ending with
      | outcome result =>
          cases result with
          | ok a => exact behind a
          | error f => trivial
      | aborted => trivial
  | report notice rest ih => exact ih silent
  | send statement rest ih => exact silent.elim

theorem Silent.reportAll {p : Program α} (silent : p.Silent) (notices : List Notice) :
    (reportAll notices p).Silent := by
  induction notices with
  | nil => exact silent
  | cons notice rest ih => exact ih

theorem Unfailing.reportAll {p : Program α} (unfailing : p.Unfailing) (notices : List Notice) :
    (reportAll notices p).Unfailing := by
  induction notices with
  | nil => exact unfailing
  | cons notice rest ih => exact ih

theorem Guarded.reportAll {p : Program α} (guarded : p.Guarded) (notices : List Notice) :
    (reportAll notices p).Guarded := by
  induction notices with
  | nil => exact guarded
  | cons notice rest ih => exact ih

theorem silent_ofCheck (check : Except Failure α) : (ofCheck check).Silent := by
  cases check <;> trivial

theorem Unfailing.not_failedWith {p : Program α} (unfailing : p.Unfailing) (session : Session)
    (f : Failure) : ¬(p.run session).FailedWith f := by
  induction p generalizing session with
  | finished ending => exact unfailing f
  | report notice rest ih => exact ih unfailing session
  | send statement next ih =>
      rw [Ran.FailedWith, run]
      cases session.reply with
      | result result => exact ih result (unfailing result) _
      | failure message =>
          intro failed
          cases failed
      | lost =>
          intro failed
          cases failed

/-- A guarded program that ends in a failure of the gateway has left the driver alone. -/
theorem Guarded.session_eq {p : Program α} (guarded : p.Guarded) {session : Session}
    {f : Failure} (failed : (p.run session).FailedWith f) : (p.run session).session = session := by
  induction p with
  | finished ending => rfl
  | report notice rest ih => exact ih guarded failed
  | send statement next ih =>
      rw [Ran.FailedWith, run] at failed
      cases reply : session.reply with
      | result result =>
          rw [reply] at failed
          exact absurd failed ((guarded result).not_failedWith _ f)
      | failure message =>
          rw [reply] at failed
          cases failed
      | lost =>
          rw [reply] at failed
          cases failed

/-- What cannot fail behind a program does not change how it fails. -/
theorem failedWith_bind_iff {p : Program α} {next : α → Program β}
    (behind : ∀ a, (next a).Unfailing) {session : Session} {f : Failure} :
    ((p >>= next).run session).FailedWith f ↔ (p.run session).FailedWith f := by
  rw [run_bind]
  cases p.run session with
  | mk ending after notices =>
      cases ending with
      | outcome result =>
          cases result with
          | ok a =>
              constructor
              · intro failed
                exact absurd failed ((behind a).not_failedWith after f)
              · intro failed
                cases failed
          | error fault => simp [Ran.andThen, Ran.FailedWith]
      | aborted => simp [Ran.andThen, Ran.FailedWith]

end Program

end TableGateway

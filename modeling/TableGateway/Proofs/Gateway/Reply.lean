import TableGateway.Proofs.Gateway.Run

/-!
# What becomes of the driver's replies

A run asks the driver for one reply after the other. Each result leads on; a failure and a lost
reply end the run, with nothing sent behind them, and reach the caller as they are. So a run is
told apart by its replies alone: either one that is no result stands at their end, or they are
results and the ending is what the operation makes of them.
-/

namespace TableGateway

open Program (ofCheck)

variable {α β : Type}

/-! ## Replies in order -/

namespace Session

/-- The next replies, this many: the script, and behind its end rows that are empty. -/
def replies (session : Session) (count : Nat) : List (Reply QueryResult) :=
  (session.script ++ List.replicate count (Reply.result QueryResult.empty)).take count

@[simp] theorem replies_zero (session : Session) : session.replies 0 = [] := rfl

theorem replies_succ (session : Session) (statement : String) (count : Nat) :
    session.replies (count + 1) =
      session.reply :: (session.execute statement).replies count := by
  have filled (script : List (Reply QueryResult)) :
      (script ++ List.replicate (count + 1) (Reply.result QueryResult.empty)).take count =
        (script ++ List.replicate count (Reply.result QueryResult.empty)).take count := by
    have enough : min (count - script.length) (count + 1) = min (count - script.length) count := by
      omega
    rw [List.take_append, List.take_append, List.take_replicate, List.take_replicate, enough]
  rw [replies, reply, replies, execute]
  cases session.script with
  | nil =>
      rw [List.nil_append, List.replicate_succ, List.take_succ_cons]
      simp
  | cons reply rest =>
      rw [List.cons_append, List.take_succ_cons, filled rest]
      rfl

end Session

namespace Program

def replies (p : Program α) (session : Session) : List (Reply QueryResult) :=
  session.replies (p.sent session).length

@[simp] theorem replies_finished (ending : Ending α) (session : Session) :
    (finished ending).replies session = [] := by
  simp [replies]

@[simp] theorem replies_report (notice : Notice) (rest : Program α) (session : Session) :
    (report notice rest).replies session = rest.replies session := rfl

theorem replies_send (statement : String) (next : QueryResult → Program α) (session : Session) :
    (send statement next).replies session =
      session.reply :: match session.reply with
        | .result result => (next result).replies (session.execute statement)
        | _ => [] := by
  rw [replies, sent_send, List.length_cons, session.replies_succ statement]
  cases session.reply <;> rfl

/-! ## Programs and the replies to them -/

/-- What becomes of the replies to a program. A failure and a lost reply have nothing behind them,
so nothing more is sent, and the program ends as they say: with the failure, which the log shows
once, or with the loss, which it does not show. Where all replies are results, the log shows no
error and the ending is one that belongs to these results. -/
structure PassesOn (p : Program α) (session : Session)
    (belongs : List QueryResult → Ending α → Prop) : Prop where
  failed : ∀ message, .failure message ∈ p.replies session →
    (∃ results : List QueryResult, p.replies session = results.map .result ++ [.failure message]) ∧
      (p.run session).ending = .outcome (.error (.driver message)) ∧
      (p.run session).lines .error = [message]
  lost : .lost ∈ p.replies session →
    (∃ results : List QueryResult, p.replies session = results.map .result ++ [.lost]) ∧
      (p.run session).ending = .outcome (.error .dropped) ∧
      (p.run session).lines .error = []
  answered : ∀ results, p.replies session = results.map .result →
    belongs results (p.run session).ending ∧ (p.run session).lines .error = []

/-- The program reports no error, and behind any results its ending belongs to them. -/
def Meets (belongs : List QueryResult → Ending α → Prop) : Program α → Prop
  | finished ending => belongs [] ending
  | report notice rest => notice.level ≠ .error ∧ rest.Meets belongs
  | send _ next => ∀ result, (next result).Meets fun results => belongs (result :: results)

/-- A run ends behind results alone, or behind results and one reply that is none. -/
theorem Meets.run_cases {belongs : List QueryResult → Ending α → Prop} {p : Program α}
    (meets : p.Meets belongs) (session : Session) :
    ∃ results,
      (p.replies session = results.map .result ∧ belongs results (p.run session).ending ∧
        (p.run session).lines .error = []) ∨
      ∃ last fault, last.outcome = .error fault ∧
        p.replies session = results.map .result ++ [last] ∧
        (p.run session).ending = .outcome (.error fault) ∧
        (p.run session).lines .error = last.notices.map Notice.text := by
  induction p generalizing session belongs with
  | finished ending => exact ⟨[], .inl ⟨replies_finished _ _, meets, rfl⟩⟩
  | report notice rest ih =>
      obtain ⟨calm, behind⟩ := meets
      have silent : ((report notice rest).run session).lines .error =
          (rest.run session).lines .error := by
        simp [run, Ran.lines, calm]
      obtain ⟨results, told⟩ := ih behind session
      refine ⟨results, ?_⟩
      rw [silent]
      exact told
  | send statement next ih =>
      cases reply : session.reply with
      | result result =>
          have onward : (send statement next).run session =
              (next result).run (session.execute statement) := by
            rw [run, reply]
          obtain ⟨results, told⟩ := ih result (meets result) (session.execute statement)
          refine ⟨result :: results, ?_⟩
          rw [replies_send, reply, onward]
          rcases told with ⟨replies, ended, calm⟩ | ⟨last, fault, bad, replies, ended, lines⟩
          · refine .inl ⟨?_, ended, calm⟩
            simp only [replies, List.map_cons]
          · refine .inr ⟨last, fault, bad, ?_, ended, lines⟩
            simp only [replies, List.map_cons, List.cons_append]
      | failure message =>
          refine ⟨[], .inr ⟨.failure message, _, rfl, ?_, ?_, ?_⟩⟩
          · rw [replies_send, reply, List.map_nil, List.nil_append]
          · rw [run, reply]
          · simp only [run, reply, Ran.lines]
            rfl
      | lost =>
          refine ⟨[], .inr ⟨.lost, _, rfl, ?_, ?_, ?_⟩⟩
          · rw [replies_send, reply, List.map_nil, List.nil_append]
          · rw [run, reply]
          · simp only [run, reply, Ran.lines]
            rfl

/-- What is told of a program over all results is told of each of its runs. -/
theorem Meets.passesOn {belongs : List QueryResult → Ending α → Prop} {p : Program α}
    (meets : p.Meets belongs) (session : Session) : p.PassesOn session belongs := by
  obtain ⟨given, told⟩ := meets.run_cases session
  rcases told with ⟨replies, ended, calm⟩ | ⟨last, fault, bad, replies, ended, lines⟩
  · refine ⟨?_, ?_, ?_⟩
    · intro message mem
      rw [replies] at mem
      obtain ⟨_, -, same⟩ := List.mem_map.1 mem
      cases same
    · intro mem
      rw [replies] at mem
      obtain ⟨_, -, same⟩ := List.mem_map.1 mem
      cases same
    · intro results same
      obtain rfl : given = results :=
        (List.map_inj_right fun _ _ => Reply.result.inj).1 (replies.symm.trans same)
      exact ⟨ended, calm⟩
  · -- A reply that is no result is the last one, since all in front of it are results.
    have is_last : ∀ {reply}, reply ∈ p.replies session → (∀ result, reply ≠ .result result) →
        reply = last := by
      intro reply mem other
      rw [replies, List.mem_append, List.mem_map, List.mem_singleton] at mem
      rcases mem with ⟨result, -, same⟩ | same
      · exact absurd same.symm (other result)
      · exact same
    refine ⟨?_, ?_, ?_⟩
    · intro message mem
      obtain rfl := is_last mem nofun
      obtain rfl : Fault.driver message = fault := by injection bad
      exact ⟨⟨given, replies⟩, ended, lines⟩
    · intro mem
      obtain rfl := is_last mem nofun
      obtain rfl : Fault.dropped = fault := by injection bad
      exact ⟨⟨given, replies⟩, ended, lines⟩
    · intro results same
      have mem : last ∈ results.map Reply.result := by
        rw [← same, replies]
        simp
      obtain ⟨result, -, rfl⟩ := List.mem_map.1 mem
      cases bad

/-! ## Parts of a program -/

theorem Meets.mono {belongs others : List QueryResult → Ending α → Prop} {p : Program α}
    (meets : p.Meets belongs)
    (implies : ∀ {results ending}, belongs results ending → others results ending) :
    p.Meets others := by
  induction p generalizing belongs others with
  | finished ending => exact implies meets
  | report notice rest ih => exact ⟨meets.1, ih meets.2 implies⟩
  | send statement next ih => exact fun result => ih result (meets result) implies

theorem Meets.reportAll {belongs : List QueryResult → Ending α → Prop} {p : Program α}
    (meets : p.Meets belongs) {notices : List Notice}
    (calm : ∀ notice ∈ notices, notice.level ≠ .error) : (reportAll notices p).Meets belongs := by
  induction notices with
  | nil => exact meets
  | cons notice rest ih =>
      rw [List.forall_mem_cons] at calm
      exact ⟨calm.1, ih calm.2⟩

/-- A program goes on behind its values, and its other endings are those of the whole. -/
theorem Meets.bind {middle : List QueryResult → Ending α → Prop}
    {belongs : List QueryResult → Ending β → Prop} {p : Program α} {next : α → Program β}
    (meets : p.Meets middle)
    (value : ∀ results a, middle results (.outcome (.ok a)) →
      (next a).Meets fun more => belongs (results ++ more))
    (fault : ∀ results f, middle results (.outcome (.error f)) →
      belongs results (.outcome (.error f)))
    (stop : ∀ results, middle results .aborted → belongs results .aborted) :
    (p >>= next).Meets belongs := by
  induction p generalizing middle belongs with
  | finished ending =>
      cases ending with
      | outcome result =>
          cases result with
          | ok a => exact value [] a meets
          | error f => exact fault [] f meets
      | aborted => exact stop [] meets
  | report notice rest ih => exact ⟨meets.1, ih meets.2 value fault stop⟩
  | send statement rest ih =>
      intro result
      exact ih result (meets result) (fun results => value (result :: results))
        (fun results => fault (result :: results)) (fun results => stop (result :: results))

end Program

/-! ## Endings of an operation -/

/-- In front of the last of some results the gateway may fail, and behind them all the program
ends as they say. -/
def Ending.Behind (size : Nat) (finish : List QueryResult → Ending α) (results : List QueryResult)
    (ending : Ending α) : Prop :=
  (results.length < size ∧ ∃ f, ending = .outcome (.error (.failure f))) ∨
    (results.length = size ∧ ending = finish results)

/-- The program asks for nothing, and gives a value or a failure of the gateway. -/
def Ending.Unasked (results : List QueryResult) (ending : Ending α) : Prop :=
  results = [] ∧ ((∃ f, ending = .outcome (.error (.failure f))) ∨ ∃ a, ending = .outcome (.ok a))

namespace Program

variable {size more : Nat} {finish : List QueryResult → Ending β} {next : α → Program β}

theorem meets_ofCheck (check : Except Failure α) : (ofCheck check).Meets Ending.Unasked := by
  cases check with
  | ok a => exact ⟨rfl, .inr ⟨a, rfl⟩⟩
  | error f => exact ⟨rfl, .inl ⟨f, rfl⟩⟩

/-- A check in front of a program may fail as the program may. -/
theorem Meets.behind_check {p : Program α} (meets : p.Meets Ending.Unasked) (some_left : 0 < size)
    (behind : ∀ a, (next a).Meets (Ending.Behind size finish)) :
    (p >>= next).Meets (Ending.Behind size finish) := by
  apply meets.bind
  · rintro results a ⟨rfl, -⟩
    exact behind a
  · rintro results f ⟨rfl, ⟨g, same⟩ | ⟨a, same⟩⟩
    · cases same
      exact .inl ⟨some_left, g, rfl⟩
    · cases same
  · rintro results ⟨-, ⟨f, same⟩ | ⟨a, same⟩⟩ <;> cases same

/-- A program that makes a value of its results goes on behind the value. -/
theorem Meets.behind_value {value : List QueryResult → α} {p : Program α}
    (meets : p.Meets (Ending.Behind size fun results => .outcome (.ok (value results))))
    (behind : ∀ results, results.length = size →
      (next (value results)).Meets fun others =>
        Ending.Behind (size + more) finish (results ++ others)) :
    (p >>= next).Meets (Ending.Behind (size + more) finish) := by
  apply meets.bind
  · rintro results a (⟨-, f, same⟩ | ⟨enough, same⟩)
    · cases same
    · cases same
      exact behind results enough
  · rintro results f (⟨few, g, same⟩ | ⟨-, same⟩)
    · cases same
      exact .inl ⟨Nat.lt_add_right more few, g, rfl⟩
    · cases same
  · rintro results (⟨-, f, same⟩ | ⟨-, same⟩) <;> cases same

/-- A program that makes a value of its results may make an ending of the value. -/
theorem Meets.ends_as {value : List QueryResult → α} {p : Program α} (ending : α → Ending β)
    (meets : p.Meets (Ending.Behind size fun results => .outcome (.ok (value results)))) :
    (p >>= fun a => finished (ending a)).Meets
      (Ending.Behind size fun results => ending (value results)) := by
  change (p >>= fun a => finished (ending a)).Meets
    (Ending.Behind (size + 0) fun results => ending (value results))
  apply meets.behind_value
  intro results enough
  rw [Meets, List.append_nil]
  exact .inr ⟨enough, rfl⟩

/-- What is made of a single result may be said in another way. -/
theorem Meets.of_single {p : Program β} (meets : p.Meets (Ending.Behind 1 finish))
    {others : List QueryResult → Ending β} (same : ∀ result, finish [result] = others [result]) :
    p.Meets (Ending.Behind 1 others) := by
  apply meets.mono
  rintro results ending (failed | ⟨one, rfl⟩)
  · exact .inl failed
  · obtain ⟨result, rfl⟩ := List.length_eq_one_iff.1 one
    exact .inr ⟨rfl, same result⟩

end Program

end TableGateway

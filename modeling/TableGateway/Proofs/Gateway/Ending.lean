import TableGateway.Proofs.Gateway.Answer

/-!
# How operations end

An operation stops in the middle in one place only: where a row has the label that is asked for and
not the value under it. A driver whose rows have one value for every label never brings it there, so
with such a driver every run of an operation ends in an outcome.
-/

namespace TableGateway

variable {α : Type}

/-! ## Rows with all their values -/

/-- The row has one value for every label. -/
def Row.Complete (row : Row) : Prop :=
  row.values.length = row.labels.length

theorem Row.Complete.not_lacks {row : Row} (complete : row.Complete) (name : String) :
    ¬row.Lacks name := by
  rintro ⟨named, ends⟩
  have place := List.idxOf_lt_length_of_mem named
  rw [← complete] at place
  exact absurd place (Nat.not_lt.2 ends)

def QueryResult.Complete (result : QueryResult) : Prop :=
  ∀ row ∈ result.toRows, row.Complete

def Session.Complete (session : Session) : Prop :=
  ∀ result, .result result ∈ session.script → result.Complete

theorem Session.Complete.of_mem_replies {session : Session} (complete : session.Complete)
    {count : Nat} {result : QueryResult} (mem : .result result ∈ session.replies count) :
    result.Complete := by
  rcases List.mem_append.1 (List.mem_of_mem_take mem) with scripted | filled
  · exact complete result scripted
  · obtain rfl : result = .empty := Reply.result.inj (List.eq_of_mem_replicate filled)
    intro row mem
    cases mem

/-! ## Operations -/

namespace Operation

/-- A driver with complete rows does not stop an operation. -/
theorem not_stopsMidway_of_complete (op : Operation α) (t : Table) {session : Session}
    (complete : session.Complete) : ¬op.StopsMidway t session := by
  rintro ⟨results, replies, stops⟩
  cases op with
  | findOne field condition paging =>
      obtain ⟨answer, row, rfl, first, lacks⟩ := stops
      have answered :
          .result answer ∈ ((findOne field condition paging).program t).replies session := by
        rw [replies]
        exact List.mem_singleton_self _
      have all := complete.of_mem_replies answered row (List.mem_of_mem_head? first)
      exact all.not_lacks field lacks
  | _ => exact stops.elim

/-- A driver with complete rows brings every operation to an outcome. -/
theorem exists_outcome (op : Operation α) (t : Table) {session : Session}
    (complete : session.Complete) : ∃ outcome, (op.run t session).ending = .outcome outcome := by
  cases ended : (op.run t session).ending with
  | outcome outcome => exact ⟨outcome, rfl⟩
  | aborted =>
      exact absurd ((op.ending_eq_aborted_iff t session).1 ended)
        (op.not_stopsMidway_of_complete t complete)

end Operation

end TableGateway

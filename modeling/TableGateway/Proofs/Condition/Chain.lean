import TableGateway.Notice
import TableGateway.Proofs.ReadBack.Clause

/-!
# Clauses added one after the other

A clause is added behind the clauses that a condition has. A key and a raw fragment have none and
give way to the first clause, which is reported; nothing else ever does. So of a chain of clauses of
any length all are written, in order and each behind its own conjunction, also where some of them are
about one field.
-/

namespace TableGateway

open ReadBack (declared readClauses readClauses_whereClauses whereClauses_eq_nil_iff)
open Sql (Dialect clauseText joinedClauses whereClauses whereText)

namespace Condition

/-- A key or a raw fragment, which a clause takes the place of. -/
def GivesWay (condition : Condition) : Prop :=
  (∃ value, condition = key value) ∨ ∃ sql, condition = raw sql

/-- Clauses behind what introduces them: `WHERE` in front of the first clause of all, its own
conjunction in front of any other one. -/
def introduced (dialect : Dialect) (first : Bool) : List Clause → List Char
  | [] => []
  | clause :: rest =>
      (if first then " WHERE ".toList else ' ' :: clause.2.conjunction.spelling.toList ++ [' ']) ++
        clauseText dialect clause ++ introduced dialect false rest

variable {dialect : Dialect} {pk : PrimaryKey} {condition : Condition}

/-! ## What a chain comes to -/

theorem chain_cons (condition : Condition) (clause : Clause) (rest : List Clause) :
    condition.chain (clause :: rest) =
      (((condition.and clause.1 clause.2).chain rest).1,
        condition.andNotices ++ ((condition.and clause.1 clause.2).chain rest).2) := rfl

/-- A chain is the list of all clauses. -/
theorem chain_fst (condition : Condition) (first : Clause) (more : List Clause) :
    (condition.chain (first :: more)).1 = list (condition.clauses ++ first :: more) := by
  induction more generalizing condition first with
  | nil => rfl
  | cons next more ih =>
      have behind := ih (condition.and first.1 first.2) next
      rw [chain_cons, behind]
      change list ((condition.clauses ++ [first]) ++ next :: more) = _
      rw [List.append_assoc, List.singleton_append]

/-- Only the first clause of a chain can take the place of something. -/
theorem chain_snd (condition : Condition) (first : Clause) (more : List Clause) :
    (condition.chain (first :: more)).2 = condition.andNotices := by
  induction more generalizing condition first with
  | nil => exact List.append_nil _
  | cons next more ih =>
      have behind := ih (condition.and first.1 first.2) next
      rw [chain_cons, behind]
      exact List.append_nil _

theorem isReplaced_iff : condition.isReplaced = true ↔ condition.GivesWay := by
  cases condition <;> simp [isReplaced, GivesWay]

/-! ## What is written for it -/

theorem introduced_false (dialect : Dialect) (items : List Clause) :
    introduced dialect false items = joinedClauses dialect items := by
  induction items with
  | nil => rfl
  | cons clause rest ih => simp [introduced, joinedClauses, ih]

theorem introduced_true (dialect : Dialect) (items : List Clause) :
    introduced dialect true items = whereClauses dialect items := by
  cases items with
  | nil => rfl
  | cons clause rest =>
      rw [introduced, introduced_false, if_pos rfl]
      rfl

theorem joinedClauses_append (dialect : Dialect) (items added : List Clause) :
    joinedClauses dialect (items ++ added) =
      joinedClauses dialect items ++ joinedClauses dialect added := by
  induction items with
  | nil => rfl
  | cons clause rest ih => simp only [List.cons_append, joinedClauses, ih, List.append_assoc]

/-- Further clauses are written behind the others. -/
theorem whereClauses_append (dialect : Dialect) (items added : List Clause) :
    whereClauses dialect (items ++ added) =
      whereClauses dialect items ++
        introduced dialect (whereClauses dialect items).isEmpty added := by
  cases items with
  | nil => exact (introduced_true dialect added).symm
  | cons first rest =>
      have written : (whereClauses dialect (first :: rest)).isEmpty = false := by
        rw [List.isEmpty_eq_false_iff, Ne, whereClauses_eq_nil_iff]
        exact List.cons_ne_nil first rest
      rw [written, introduced_false]
      change " WHERE ".toList ++ clauseText dialect first ++ joinedClauses dialect (rest ++ added) = _
      rw [joinedClauses_append, ← List.append_assoc]
      rfl

theorem whereText_of_clauses (fits : ¬condition.GivesWay) :
    whereText dialect pk condition = .ok (whereClauses dialect condition.clauses) := by
  cases condition with
  | everything | keyed clauses | list clauses => rfl
  | key value => exact absurd (.inl ⟨value, rfl⟩) fits
  | raw sql => exact absurd (.inr ⟨sql, rfl⟩) fits

theorem clauses_of_givesWay (replaced : condition.GivesWay) : condition.clauses = [] := by
  rcases replaced with ⟨value, rfl⟩ | ⟨sql, rfl⟩ <;> rfl

/-- Clauses that are added are written, whatever was there before. -/
theorem whereText_chain (condition : Condition) {added : List Clause} (some_clause : added ≠ []) :
    whereText dialect pk (condition.chain added).1 =
      .ok (whereClauses dialect (condition.clauses ++ added)) := by
  obtain ⟨first, more, rfl⟩ := List.exists_cons_of_ne_nil some_clause
  rw [chain_fst]
  rfl

/-- No clause of a chain is lost in silence. Behind clauses, or behind nothing, every further clause
is written behind the text that was there, in order and with its own introduction, and nothing is
reported. A key and a raw fragment give way to the first clause, which is reported once and as a
warning, and then all clauses of the chain are written. What is written is read back as every clause,
also where a field comes twice. -/
theorem chain_keeps_clauses (dialect : Dialect) (pk : PrimaryKey) (condition : Condition)
    (added : List Clause) :
    (¬condition.GivesWay → (condition.chain added).2 = [] ∧
      ∃ text longer, whereText dialect pk condition = .ok text ∧
        whereText dialect pk (condition.chain added).1 = .ok longer ∧
        longer = text ++ introduced dialect text.isEmpty added ∧
        readClauses dialect longer = some ((condition.clauses ++ added).map declared)) ∧
    (condition.GivesWay → added ≠ [] →
      (condition.chain added).2 = [.conditionReplaced condition] ∧
      (Notice.conditionReplaced condition).level = .warn ∧
      ∃ text, whereText dialect pk (condition.chain added).1 = .ok text ∧
        text = introduced dialect true added ∧
        readClauses dialect text = some (added.map declared)) := by
  constructor
  · intro fits
    have start : whereText dialect pk condition = _ := whereText_of_clauses fits
    have silent : condition.andNotices = [] :=
      if_neg (fun replaced => fits (isReplaced_iff.1 replaced))
    refine ⟨?_, _, _, start, ?_, whereClauses_append dialect _ added,
      readClauses_whereClauses dialect _⟩
    · cases added with
      | nil => rfl
      | cons first more => rw [chain_snd, silent]
    · cases added with
      | nil => rw [List.append_nil, ← start]; rfl
      | cons first more => exact whereText_chain condition (List.cons_ne_nil first more)
  · intro replaced some_clause
    have told : condition.andNotices = [.conditionReplaced condition] :=
      if_pos (isReplaced_iff.2 replaced)
    have written : whereText dialect pk (condition.chain added).1 =
        .ok (whereClauses dialect added) := by
      rw [whereText_chain condition some_clause, clauses_of_givesWay replaced, List.nil_append]
    refine ⟨?_, rfl, _, written, (introduced_true dialect added).symm,
      readClauses_whereClauses dialect added⟩
    obtain ⟨first, more, rfl⟩ := List.exists_cons_of_ne_nil some_clause
    rw [chain_snd, told]

/-- A raw fragment gives way to a chain that names a field twice. -/
theorem chain_keeps_repeated_field :
    let added : List Clause := [("age", .compare .greater (.int64 18) .or),
      ("name", .equals (.varchar "Ada")), ("age", .compare .less (.int64 65) .or)]
    (chain (raw "age > 3") added).2.length = 1 ∧
      ∃ text, whereText .mysql (.single "id") (chain (raw "age > 3") added).1 = .ok text ∧
        readClauses .mysql text = some (added.map declared) := by
  intro added
  obtain ⟨-, replaced⟩ := chain_keeps_clauses .mysql (.single "id") (raw "age > 3") added
  obtain ⟨told, -, text, written, -, read⟩ := replaced (.inr ⟨_, rfl⟩) (List.cons_ne_nil _ _)
  exact ⟨congrArg List.length told, text, written, read⟩

end Condition

end TableGateway

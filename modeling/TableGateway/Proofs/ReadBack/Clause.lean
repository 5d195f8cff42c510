import TableGateway.Proofs.ReadBack.Literal
import TableGateway.Sql.Clause

/-!
# Conditions read back

A reader of the `WHERE` of a statement. It knows the parentheses around a clause, the words between
two clauses and the operators, and leaves names and literals to their own readers. What it finds in
the text of a condition is the sequence of clauses that was declared, so that neither a name nor a
value can add a clause, drop one or turn one into another.
-/

namespace TableGateway.ReadBack

open Sql (Dialect clauseText identifier joinedClauses literal operand textLiteral whereClauses
  whereText widened?)

/-- What a clause says about a field. -/
structure Comparison where
  field : List Char
  operator : Operator
  comparand : Literal

/-! ## The reader -/

/-- The operators, those of two words in front of those that they start with. -/
def operators : List Operator :=
  [.equal, .notEqual, .lessGreater, .less, .lessEqual, .greater, .greaterEqual, .nullSafeEqual,
    .like, .notLike, .isIn, .notIn, .isNot, .is, .regexp, .notRegexp]

def readOperator : Reader Operator :=
  readWord (fun o => o.spelling.toList ++ [' ']) operators

def readComparison (dialect : Dialect) (text : List Char) : Option (Comparison × List Char) := do
  let text ← after? ['('] text
  let (field, text) ← readName dialect text
  let text ← after? [' '] text
  let (operator, text) ← readOperator text
  let (comparand, text) ← readLiteral dialect text
  let rest ← after? [')'] text
  return (⟨field, operator, comparand⟩, rest)

def readConjunction : Reader Conjunction :=
  readWord (fun c => ' ' :: c.spelling.toList ++ [' ']) [.and, .or]

def readJoined (dialect : Dialect) (text : List Char) :
    Option ((Conjunction × Comparison) × List Char) := do
  let (conjunction, text) ← readConjunction text
  let (comparison, rest) ← readComparison dialect text
  return ((conjunction, comparison), rest)

/-- Reads a whole `WHERE`: the first clause, and each other one with its conjunction. -/
def readWhere (dialect : Dialect) (text : List Char) :
    Option (Comparison × List (Conjunction × Comparison)) := do
  let text ← after? " WHERE ".toList text
  let (first, text) ← readComparison dialect text
  let more ← readAll (readJoined dialect) text
  return (first, more)

def readClauses (dialect : Dialect) (text : List Char) : Option (List Comparison) :=
  if text = [] then some []
  else (readWhere dialect text).map fun read => read.1 :: read.2.map Prod.snd

/-! ## What was declared -/

/-- The text that a predicate looks for: a search for a text without wildcards is for the text
anywhere. -/
def sought (o : Operator) (text : List Char) : List Char :=
  if (o = .like ∨ o = .notLike) ∧ '%' ∉ text ∧ '?' ∉ text then '%' :: text ++ ['%'] else text

def comparand (p : Predicate) : Literal :=
  match p.value with
  | .varchar text => .text (sought p.operator text.toList)
  | v => content v

/-- What a clause has to say. -/
def declared (clause : Clause) : Comparison :=
  ⟨clause.1.toList, clause.2.operator, comparand clause.2⟩

def joined (clause : Clause) : Conjunction × Comparison :=
  (clause.2.conjunction, declared clause)

/-! ## Clauses read back -/

theorem widens_iff (o : Operator) (text : List Char) :
    (o.isLike && text.all fun c => c != '%' && c != '?') = true ↔
      (o = .like ∨ o = .notLike) ∧ '%' ∉ text ∧ '?' ∉ text := by
  have search : o.isLike = true ↔ o = .like ∨ o = .notLike := by
    cases o <;> simp [Operator.isLike]
  have bare : (text.all fun c => c != '%' && c != '?') = true ↔ '%' ∉ text ∧ '?' ∉ text := by
    simp only [List.all_eq_true, Bool.and_eq_true, bne_iff_ne]
    constructor
    · intro each
      exact ⟨fun mem => (each _ mem).1 rfl, fun mem => (each _ mem).2 rfl⟩
    · rintro ⟨percent, mark⟩ c mem
      exact ⟨fun same => percent (same ▸ mem), fun same => mark (same ▸ mem)⟩
  rw [Bool.and_eq_true, search, bare]

theorem operand_varchar (dialect : Dialect) {p : Predicate} {text : String}
    (value : p.value = .varchar text) :
    operand dialect p = textLiteral dialect (sought p.operator text.toList) := by
  rw [operand, widened?, value, sought]
  simp only [widens_iff]
  by_cases wide : (p.operator = .like ∨ p.operator = .notLike) ∧
      '%' ∉ text.toList ∧ '?' ∉ text.toList
  · rw [if_pos wide, if_pos wide]
  · rw [if_neg wide, if_neg wide, literal]

/-- What stands on the right hand side of a clause is the literal of a value, also where a search
is widened. -/
theorem exists_operand (dialect : Dialect) (p : Predicate) :
    ∃ v, operand dialect p = literal dialect v ∧ content v = comparand p := by
  by_cases isText : ∃ text, p.value = .varchar text
  · obtain ⟨text, value⟩ := isText
    refine ⟨.varchar (String.ofList (sought p.operator text.toList)), ?_, ?_⟩
    · rw [operand_varchar dialect value, literal, String.toList_ofList]
    · rw [comparand, value, content, String.toList_ofList]
  · refine ⟨p.value, ?_, ?_⟩
    · rw [operand, widened?]
      split <;> simp_all
    · rw [comparand]
      split <;> simp_all

/-- A literal does not start with the word that turns `IS` into `IS NOT`. -/
theorem after?_not_of_readLiteralWithin {dialect : Dialect} {depth : Nat} {text : List Char}
    {read : Literal × List Char} (h : readLiteralWithin dialect depth text = some read) :
    after? "NOT ".toList text = none := by
  cases negated : after? "NOT ".toList text with
  | none => rfl
  | some rest =>
      rw [eq_append_of_after? negated] at h
      cases depth <;> simp [readLiteralWithin, readScalar, after?] at h

theorem readOperator_spelling (o : Operator) {rest : List Char}
    (literal : after? "NOT ".toList rest = none) :
    readOperator (o.spelling.toList ++ ' ' :: rest) = some (o, rest) := by
  cases o <;> simp_all [readOperator, readWord, operators, Operator.spelling, after?]

theorem readConjunction_spelling (c : Conjunction) (rest : List Char) :
    readConjunction (' ' :: c.spelling.toList ++ ' ' :: rest) = some (c, rest) := by
  cases c <;> simp [readConjunction, readWord, Conjunction.spelling, after?]

theorem readComparison_clauseText (dialect : Dialect) (clause : Clause) (rest : List Char) :
    readComparison dialect (clauseText dialect clause ++ rest) = some (declared clause, rest) := by
  obtain ⟨v, written, said⟩ := exists_operand dialect clause.2
  have value : readLiteral dialect (literal dialect v ++ ')' :: rest) =
      some (content v, ')' :: rest) :=
    readLiteralWithin_literal dialect _ v (by simp) (Next.cons rest (.inl rfl))
  have operator : readOperator (clause.2.operator.spelling.toList ++
      ' ' :: (literal dialect v ++ ')' :: rest)) =
        some (clause.2.operator, literal dialect v ++ ')' :: rest) :=
    readOperator_spelling clause.2.operator (after?_not_of_readLiteralWithin value)
  have name : readName dialect (identifier dialect clause.1.toList ++
      ' ' :: (clause.2.operator.spelling.toList ++ ' ' :: (literal dialect v ++ ')' :: rest))) =
        some (clause.1.toList, ' ' :: (clause.2.operator.spelling.toList ++
          ' ' :: (literal dialect v ++ ')' :: rest))) :=
    readName_identifier dialect clause.1.toList (Next.cons _ (by decide))
  rw [clauseText, written, declared, ← said]
  simp [readComparison, after?, name, operator, value]

theorem readJoined_clauseText (dialect : Dialect) (clause : Clause) (rest : List Char) :
    readJoined dialect (' ' :: clause.2.conjunction.spelling.toList ++
        ' ' :: clauseText dialect clause ++ rest) = some (joined clause, rest) := by
  have conjunction := readConjunction_spelling clause.2.conjunction
    (clauseText dialect clause ++ rest)
  have comparison := readComparison_clauseText dialect clause rest
  simp only [List.append_assoc, List.cons_append] at conjunction ⊢
  simp [readJoined, conjunction, comparison, joined]

theorem joinedClauses_eq_flatMap (dialect : Dialect) (clauses : List Clause) :
    joinedClauses dialect clauses = clauses.flatMap fun clause =>
      ' ' :: clause.2.conjunction.spelling.toList ++ ' ' :: clauseText dialect clause := by
  induction clauses with
  | nil => rfl
  | cons clause rest ih => rw [joinedClauses, ih, List.flatMap_cons]

theorem readAll_joinedClauses (dialect : Dialect) (clauses : List Clause) :
    readAll (readJoined dialect) (joinedClauses dialect clauses) = some (clauses.map joined) := by
  rw [joinedClauses_eq_flatMap]
  apply readAll_flatMap
  · intro clause _
    exact List.cons_ne_nil _ _
  · intro clause _ rest
    exact readJoined_clauseText dialect clause rest

/-- The text of a sequence of clauses says the clauses, in order and nothing else. -/
theorem readWhere_whereClauses (dialect : Dialect) (first : Clause) (more : List Clause) :
    readWhere dialect (whereClauses dialect (first :: more)) =
      some (declared first, more.map joined) := by
  have comparison := readComparison_clauseText dialect first (joinedClauses dialect more)
  have behind := readAll_joinedClauses dialect more
  have written : whereClauses dialect (first :: more) =
      " WHERE ".toList ++ (clauseText dialect first ++ joinedClauses dialect more) :=
    List.append_assoc ..
  rw [written, readWhere, after?_append]
  simp [comparison, behind]

theorem whereClauses_eq_nil_iff {dialect : Dialect} {items : List Clause} :
    whereClauses dialect items = [] ↔ items = [] := by
  cases items with
  | nil => exact iff_of_true rfl rfl
  | cons clause rest =>
      change " WHERE ".toList ++ clauseText dialect clause ++ joinedClauses dialect rest = [] ↔ _
      simp

theorem readClauses_whereClauses (dialect : Dialect) (items : List Clause) :
    readClauses dialect (whereClauses dialect items) = some (items.map declared) := by
  cases items with
  | nil => rfl
  | cons first more =>
      have some_text : whereClauses dialect (first :: more) ≠ [] := by
        rw [Ne, whereClauses_eq_nil_iff]
        exact List.cons_ne_nil _ _
      rw [readClauses, if_neg some_text, readWhere_whereClauses]
      simp [joined, Function.comp_def]

/-- A condition with clauses is always written, and its text is read back as the clauses that were
declared: as many, in their order, each with its field, its operator and its literal, and each but
the first with its conjunction. -/
theorem readWhere_whereText (dialect : Dialect) (key : PrimaryKey) {condition : Condition}
    {first : Clause} {more : List Clause} (clauses : condition.clauses = first :: more) :
    ∃ text, whereText dialect key condition = .ok text ∧
      readWhere dialect text = some (declared first, more.map joined) := by
  refine ⟨whereClauses dialect (first :: more), ?_, readWhere_whereClauses dialect first more⟩
  cases condition with
  | everything => cases clauses
  | key value => cases clauses
  | raw sql => cases clauses
  | keyed entries =>
      rw [Condition.clauses] at clauses
      rw [whereText, Sql.whereOf, clauses]
      rfl
  | list items =>
      rw [Condition.clauses] at clauses
      rw [whereText, Sql.whereOf, clauses]
      rfl

/-- Neither a field nor a text can pass for punctuation. -/
theorem readWhere_whereText_punctuation :
    ∃ text, whereText .generic (.single "id")
        (.list [("a\"", .equals (.varchar "') OR ('")), ("b", .compare .like (.varchar "c") .or)]) =
          .ok text ∧
      readWhere .generic text =
        some (⟨"a\"".toList, .equal, .text "') OR ('".toList⟩,
          [(.or, ⟨"b".toList, .like, .text "%c%".toList⟩)]) := by
  have clauses : (Condition.list [("a\"", .equals (.varchar "') OR ('")),
      ("b", .compare .like (.varchar "c") .or)]).clauses =
        ("a\"", .equals (.varchar "') OR ('")) :: [("b", .compare .like (.varchar "c") .or)] := rfl
  obtain ⟨text, written, back⟩ := readWhere_whereText .generic (.single "id") clauses
  refine ⟨text, written, ?_⟩
  rw [back]
  rfl

end TableGateway.ReadBack

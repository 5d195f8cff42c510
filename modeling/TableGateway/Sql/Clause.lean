import TableGateway.Sql.Literal
import TableGateway.Condition.Basic

/-!
# Conditions in a statement

Every clause is written in parentheses of its own, the first behind `WHERE` and each other one
behind its conjunction. A search for a text without wildcards looks for it anywhere.
-/

namespace TableGateway.Sql

open Numeric (Binary64)

/-- The text that a clause searches for with a wildcard at both ends: that of a `LIKE` whose text
has no wildcard of its own. -/
def widened? (predicate : Predicate) : Option (List Char) :=
  match predicate.value with
  | .varchar text =>
      if predicate.operator.isLike && text.toList.all (fun c => c != '%' && c != '?') then
        some ('%' :: text.toList ++ ['%'])
      else none
  | _ => none

def operand (dialect : Dialect) (predicate : Predicate) : List Char :=
  match widened? predicate with
  | some text => textLiteral dialect text
  | none => literal dialect predicate.value

def clauseText (dialect : Dialect) (clause : Clause) : List Char :=
  '(' :: identifier dialect clause.1.toList ++ ' ' :: clause.2.operator.spelling.toList ++
    ' ' :: operand dialect clause.2 ++ [')']

def joinedClauses (dialect : Dialect) : List Clause → List Char
  | [] => []
  | clause :: rest =>
      ' ' :: clause.2.conjunction.spelling.toList ++ ' ' :: clauseText dialect clause ++
        joinedClauses dialect rest

def whereClauses (dialect : Dialect) : List Clause → List Char
  | [] => []
  | clause :: rest => " WHERE ".toList ++ clauseText dialect clause ++ joinedClauses dialect rest

def keyClause (key : PrimaryKey) (value : Value) : Except Failure Clause :=
  match key with
  | .single field => .ok (field, .equals value)
  | .composite _ => .error (.invalidCall .compositeKeyInput)

/-- What is written for a condition: clauses, or a fragment as it is. -/
inductive Where where
  | clauses (items : List Clause)
  | fragment (sql : List Char)

def whereOf (key : PrimaryKey) : Condition → Except Failure Where
  | .everything => .ok (.clauses [])
  | .key value => (keyClause key value).map fun clause => .clauses [clause]
  | .raw sql =>
      if sql.isEmpty then .ok (.clauses [])
      else if isKeyShaped sql then
        (keyClause key (.varchar sql)).map fun clause => .clauses [clause]
      else .ok (.fragment sql.toList)
  | .keyed clauses => .ok (.clauses clauses.entries)
  | .list clauses => .ok (.clauses clauses)

def Where.text (dialect : Dialect) : Where → List Char
  | clauses items => whereClauses dialect items
  | fragment sql => " WHERE ".toList ++ sql

def clauseNonFinite (clause : Clause) : List Binary64 :=
  nonFinite clause.2.value

def Where.nonFinite : Where → List Binary64
  | clauses items => items.flatMap clauseNonFinite
  | fragment _ => []

/-- The `WHERE` of a condition, nothing for one that every row satisfies. -/
def whereText (dialect : Dialect) (key : PrimaryKey) (condition : Condition) :
    Except Failure (List Char) :=
  (whereOf key condition).map (Where.text dialect)

end TableGateway.Sql

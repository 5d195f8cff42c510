import TableGateway.Condition.Predicate

/-!
# Conditions

A condition says which rows a statement is about: every row, the row with a key, the rows that a
raw fragment of SQL selects, or the rows that satisfy a sequence of clauses. A raw text that looks
like a key is one.
-/

namespace TableGateway

abbrev Clause : Type := String × Predicate

/-- Which rows a statement is about. -/
inductive Condition where
  /-- Every row. -/
  | everything
  /-- The row whose single key field has a value. -/
  | key (value : Value)
  /-- A fragment of SQL that is written as it is. -/
  | raw (sql : String)
  /-- Clauses on distinct fields. -/
  | keyed (clauses : OrderedMap Predicate)
  /-- Clauses in order. -/
  | list (clauses : List Clause)
  deriving Inhabited

/-- A text that could be a key: not empty, without blanks and without any of `= < > "`. -/
def isKeyShaped (text : String) : Bool :=
  !text.isEmpty &&
    text.toList.all fun c => !(Text.isBlank c || c == '=' || c == '<' || c == '>' || c == '"')

namespace Condition

def ofRecord (record : Record) : Condition :=
  keyed (record.map .equals)

/-- A condition that no clause is written for. -/
def isEmpty : Condition → Bool
  | everything => true
  | key _ => false
  | raw sql => sql.isEmpty
  | keyed clauses => clauses.isEmpty
  | list clauses => clauses.isEmpty

/-- The clauses that a further clause is added to. A key or a raw fragment has none. -/
def clauses : Condition → List Clause
  | keyed clauses => clauses.entries
  | list clauses => clauses
  | _ => []

/-- A further clause takes the place of the whole condition. -/
def isReplaced : Condition → Bool
  | key _ | raw _ => true
  | _ => false

def and (condition : Condition) (field : String) (predicate : Predicate) : Condition :=
  list (condition.clauses ++ [(field, predicate)])

def keyRecord (value : Value) : PrimaryKey → Record
  | .single field => OrderedMap.singleton field value
  | .composite _ => ∅

/-- The fields that a condition mentions, each with the value it is compared with last. -/
def filterRecord (key : PrimaryKey) : Condition → Record
  | everything => ∅
  | Condition.key value => keyRecord value key
  | raw sql => if isKeyShaped sql then keyRecord (.varchar sql) key else ∅
  | keyed clauses => clauses.map Predicate.value
  | list clauses => OrderedMap.ofList (clauses.map fun clause => (clause.1, clause.2.value))

/-- The form of a key or a raw fragment in messages. -/
def describe : Condition → List Char
  | key value => Value.labelled "Key" value.describe
  | raw sql => Value.labelled "Raw" (Text.quoted sql.toList)
  | _ => []

end Condition

end TableGateway

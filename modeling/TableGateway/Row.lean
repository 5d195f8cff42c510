import TableGateway.Value.Basic

/-!
# Rows and results

A row pairs the labels of a result with the values of one line. Labels may repeat, and a driver may
deliver fewer or more values than labels. A statement answers with rows or with counts.
-/

namespace TableGateway

/-- The values of one line under the labels of a result. -/
structure Row where
  labels : List String
  values : List Value
  deriving Inhabited

inductive ColumnAccess where
  /-- No such label. -/
  | absent
  | found (value : Value)
  /-- The label is there and its value is not. -/
  | beyond
  deriving Inhabited

def columnIn (name : String) : List String → List Value → ColumnAccess
  | [], _ => .absent
  | label :: labels, values =>
      if label = name then
        match values with
        | value :: _ => .found value
        | [] => .beyond
      else columnIn name labels values.tail

namespace Row

/-- What the row has under the first label of this name. -/
def column (row : Row) (name : String) : ColumnAccess :=
  columnIn name row.labels row.values

/-- Labels and values in pairs, up to the shorter of the two. -/
def pairs (row : Row) : List (String × Value) :=
  row.labels.zip row.values

def toRecord (row : Row) : Record :=
  OrderedMap.ofList row.pairs

end Row

structure Affected where
  rows : Nat
  lastId : Option Int
  deriving DecidableEq, Inhabited

def Affected.none : Affected := ⟨0, Option.none⟩

inductive QueryResult where
  | rows (lines : List Row)
  | affected (effect : Affected)
  deriving Inhabited

namespace QueryResult

/-- The answer of a script that has none left. -/
def empty : QueryResult := rows []

/-- The rows of an answer; a change has none. -/
def toRows : QueryResult → List Row
  | rows lines => lines
  | affected _ => []

def toAffected : QueryResult → Affected
  | rows _ => .none
  | affected effect => effect

def ofValues (labels : List String) (lines : List (List Value)) : QueryResult :=
  rows (lines.map fun values => ⟨labels, values⟩)

end QueryResult

end TableGateway

import TableGateway.Failure

/-!
# Resolving a key

A row is identified by a key value, by a record that carries the key fields, or by the key values
in order. Resolving one of these against a primary key gives the record of exactly the key fields,
none of them null.
-/

namespace TableGateway

/-- What a caller identifies a row by. -/
inductive KeySource where
  /-- The value of a single key field. -/
  | scalar (value : Value)
  /-- A record with the key fields among others. -/
  | record (record : Record)
  /-- Values in the order of the key fields. -/
  | positional (values : List Value)

/-- A list stands for the key values in order, any other value for itself. -/
def KeySource.ofValue : Value → KeySource
  | .list values => positional values
  | value => scalar value

/-- A value that is there and not null. -/
def present? : Option Value → Option Value
  | some .null => none
  | value? => value?

namespace PrimaryKey

def takeFields : List String → Record → Except Failure (List (String × Value))
  | [], _ => .ok []
  | field :: rest, record =>
      match present? (record.get? field) with
      | some value => do
          let more ← takeFields rest (record.swapRemove field)
          return (field, value) :: more
      | none => .error (.invalidCall (.missingKeyField field))

def zipFields : List String → List Value → Except Failure (List (String × Value))
  | [], _ => .ok []
  | field :: rest, values =>
      match present? values.head? with
      | some value => do
          let more ← zipFields rest values.tail
          return (field, value) :: more
      | none => .error (.invalidCall (.missingKeyField field))

def singleValue? (field : String) : KeySource → Option Value
  | .scalar value => some value
  | .record record => record.get? field
  | .positional values => values.head?

/-- The record that identifies one row. -/
def resolve : PrimaryKey → KeySource → Except Failure Record
  | single field, source =>
      match present? (singleValue? field source) with
      | some value => .ok (OrderedMap.singleton field value)
      | none => .error (.invalidParameter .missingKey)
  | composite _, .scalar _ => .error (.invalidCall .compositeKeyInput)
  | composite fields, .record record => (takeFields fields record).map OrderedMap.ofList
  | composite fields, .positional values => (zipFields fields values).map OrderedMap.ofList

end PrimaryKey

end TableGateway

import TableGateway.Calendar.Basic
import TableGateway.Numeric.Decimal
import TableGateway.OrderedMap
import TableGateway.Text.Listing
import TableGateway.Uuid

/-!
# Values of a database

A `Value` is what a condition compares with, what a field of a record holds and what a cell of a
row is decoded to. `null` is the only form of a missing value. A `Record` maps fields to values in
the order in which they were given.

A primary key is one field or an ordered list of fields. A list counts as composite whatever its
length.
-/

namespace TableGateway

open Calendar (Date Time Timestamp)
open Numeric (Binary64 Decimal)

/-- A value of one of the column types, or a list of values for `IN`. -/
inductive Value where
  | null
  | boolean (b : Bool)
  | int64 (n : Int64)
  | uint64 (n : UInt64)
  | float64 (x : Binary64)
  | decimal (d : Decimal)
  | varchar (text : String)
  | blob (octets : List UInt8)
  | date (d : Date)
  | time (t : Time)
  | timestamp (t : Timestamp)
  | uuid (id : Uuid)
  | list (items : List Value)
  deriving Inhabited

abbrev Record : Type := OrderedMap Value

namespace Value

def isNull : Value → Bool
  | null => true
  | _ => false

/-- A value that can identify a row on its own. -/
def isScalar : Value → Bool
  | null => false
  | list _ => false
  | _ => true

def text? : Value → Option String
  | varchar text => some text
  | _ => none

mutual

/-- Equality as the database layer sees it: one variant and equal content, where decimals compare
as numbers and floating point numbers as IEEE 754 says. -/
def same : Value → Value → Bool
  | null, null => true
  | boolean a, boolean b => a == b
  | int64 a, int64 b => a == b
  | uint64 a, uint64 b => a == b
  | float64 a, float64 b => a.same b
  | decimal a, decimal b => a.same b
  | varchar a, varchar b => a == b
  | blob a, blob b => a == b
  | date a, date b => a == b
  | time a, time b => a == b
  | timestamp a, timestamp b => a == b
  | uuid a, uuid b => a == b
  | list a, list b => sameItems a b
  | _, _ => false

def sameItems : List Value → List Value → Bool
  | [], [] => true
  | a :: as, b :: bs => same a b && sameItems as bs
  | _, _ => false

end

def isOneOf (value : Value) (values : List Value) : Bool :=
  values.any fun other => other.same value

end Value

/-! ## Primary keys -/

inductive PrimaryKey where
  | single (field : String)
  | composite (fields : List String)
  deriving DecidableEq

namespace PrimaryKey

/-- The key of a table that names none. -/
def standard : PrimaryKey := single "id"

instance : Inhabited PrimaryKey := ⟨standard⟩

def fields : PrimaryKey → List String
  | single field => [field]
  | composite fields => fields

def isComposite : PrimaryKey → Bool
  | single _ => false
  | composite _ => true

/-- The field alone, or the fields in parentheses. -/
def text : PrimaryKey → List Char
  | single field => field.toList
  | composite fields => '(' :: Text.listed Text.comma (fields.map String.toList) ++ [')']

end PrimaryKey

end TableGateway

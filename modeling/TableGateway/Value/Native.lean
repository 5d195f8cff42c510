import TableGateway.Text.Utf8
import TableGateway.Value.IntegerType
import TableGateway.Value.Text

/-!
# Native types

The types a program works with, nested to any depth by optional values and lists. Every member of a
type has a value; a value converts to a type when it has the type's variant or, for numbers and
texts, one that holds the same content.
-/

namespace TableGateway

open Calendar (Date Time Timestamp)
open Numeric (Binary64 Decimal)

inductive NativeType where
  | integer (type : IntegerType)
  | single
  | double
  | boolean
  | text
  | decimal
  | octets
  | date
  | time
  | timestamp
  | uuid
  | option (inner : NativeType)
  | list (inner : NativeType)
  deriving DecidableEq, Inhabited

inductive ConversionError where
  /-- The value has no member of the type. -/
  | mismatch (value : Value) (target : String)
  /-- The octets are no text. -/
  | utf8 (fault : Text.Utf8Fault)
  deriving Inhabited

def ConversionError.message : ConversionError → String
  | mismatch value target =>
      "Cannot convert " ++ String.ofList value.describe ++ " to " ++ target
  | utf8 fault => fault.message

namespace NativeType

/-- The members of a native type. Numbers of single precision are kept as the numbers of double
precision that they equal. -/
def Member : NativeType → Type
  | integer t => t.Member
  | single => Binary64
  | double => Binary64
  | boolean => Bool
  | text => String
  | decimal => Decimal
  | octets => List UInt8
  | date => Date
  | time => Time
  | timestamp => Timestamp
  | uuid => Uuid
  | option inner => Option inner.Member
  | list inner => List inner.Member

/-- The type's name in messages; both floating point types go by the wider one's. -/
def name : NativeType → String
  | integer t => t.name
  | single => "f64"
  | double => "f64"
  | boolean => "bool"
  | text => "alloc::string::String"
  | decimal => "rust_decimal::decimal::Decimal"
  | octets => "alloc::boxed::Box<[u8]>"
  | date => "time::date::Date"
  | time => "time::time::Time"
  | timestamp => "time::plain_date_time::PlainDateTime"
  | uuid => "uuid::Uuid"
  | option inner => "core::option::Option<" ++ inner.name ++ ">"
  | list inner => "alloc::vec::Vec<" ++ inner.name ++ ">"

def toValue : (t : NativeType) → t.Member → Value
  | integer t, n => t.toValue n
  | single, x => .float64 x
  | double, x => .float64 x
  | boolean, b => .boolean b
  | text, s => .varchar s
  | decimal, d => .decimal d
  | octets, bytes => .blob bytes
  | date, d => .date d
  | time, t => .time t
  | timestamp, t => .timestamp t
  | uuid, id => .uuid id
  | option _, none => .null
  | option inner, some x => inner.toValue x
  | list inner, xs => .list (xs.map inner.toValue)

/-- The number that a numeric value denotes, rounded to double precision. -/
def doubleOf? : Value → Option Binary64
  | .float64 x => some x
  | .int64 n => some (Binary64.ofInt n.toInt)
  | .uint64 n => some (Binary64.ofInt n.toNat)
  | .decimal d => some d.toBinary64
  | _ => none

/-- The truth value of a value: of an integer, whether it differs from zero. -/
def boolOf? : Value → Option Bool
  | .boolean b => some b
  | .int64 n => some (n != 0)
  | .uint64 n => some (n != 0)
  | _ => none

def decimalOf? : Value → Option Decimal
  | .decimal d => some d
  | _ => none

def octetsOf? : Value → Option (List UInt8)
  | .blob bytes => some bytes
  | _ => none

def dateOf? : Value → Option Date
  | .date d => some d
  | _ => none

def timeOf? : Value → Option Time
  | .time t => some t
  | _ => none

def timestampOf? : Value → Option Timestamp
  | .timestamp t => some t
  | _ => none

def uuidOf? : Value → Option Uuid
  | .uuid id => some id
  | _ => none

def orMismatch (value : Value) (t : NativeType) (found : Option α) : Except ConversionError α :=
  match found with
  | some x => .ok x
  | none => .error (.mismatch value t.name)

theorem orMismatch_eq_ok_iff {value : Value} {t : NativeType} {found : Option α} {x : α} :
    orMismatch value t found = .ok x ↔ found = some x := by
  cases found <;> simp [orMismatch]

theorem orMismatch_eq_error_iff {value : Value} {t : NativeType} {found : Option α}
    {e : ConversionError} :
    orMismatch value t found = .error e ↔ found = none ∧ .mismatch value t.name = e := by
  cases found <;> simp [orMismatch]

/-- The text of a text value, or the one that octets encode. -/
def textOf : Value → Except ConversionError String
  | .varchar s => .ok s
  | .blob bytes => (Text.decodeUtf8 bytes).mapError .utf8
  | value => .error (.mismatch value text.name)

def ofItems (convert : Value → Except ConversionError α) :
    List Value → Except ConversionError (List α)
  | [] => .ok []
  | item :: rest => do
      let x ← convert item
      let xs ← ofItems convert rest
      return x :: xs

def ofValue : (t : NativeType) → Value → Except ConversionError t.Member
  | integer t, value => orMismatch value (integer t) (t.ofValue? value)
  | single, value => orMismatch value single ((doubleOf? value).map Binary64.toSingle)
  | double, value => orMismatch value double (doubleOf? value)
  | boolean, value => orMismatch value boolean (boolOf? value)
  | text, value => textOf value
  | decimal, value => orMismatch value decimal (decimalOf? value)
  | octets, value => orMismatch value octets (octetsOf? value)
  | date, value => orMismatch value date (dateOf? value)
  | time, value => orMismatch value time (timeOf? value)
  | timestamp, value => orMismatch value timestamp (timestampOf? value)
  | uuid, value => orMismatch value uuid (uuidOf? value)
  | option inner, value =>
      match value with
      | .null => .ok none
      | value => (inner.ofValue value).map some
  | list inner, value =>
      match value with
      | .list items => ofItems inner.ofValue items
      | value => .error (.mismatch value (list inner).name)

def roundTrip (t : NativeType) (value : Value) : Except ConversionError Value :=
  (t.ofValue value).map t.toValue

end NativeType

end TableGateway

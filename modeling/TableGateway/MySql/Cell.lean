import TableGateway.Calendar.Reader
import TableGateway.MySql.Column
import TableGateway.Notice
import TableGateway.Numeric.Scientific
import TableGateway.Row
import TableGateway.Text.Utf8
import TableGateway.Value.IntegerType

/-!
# Cells and rows of a MySQL result

A cell is delivered as octets or as a number, a moment or a span of time, and is decoded by the
family of its column. Octets of numbers, dates and times are read as ASCII. Octets of all other
columns are kept: as a text where the column has one and they encode one, as a blob elsewhere.

A line of cells becomes a row when each cell can be decoded under its column. The first one that
cannot refuses the whole line, and is reported with its column.
-/

namespace TableGateway.MySql

open Calendar (Date Time Timestamp)
open Numeric (Binary64 Decimal readInteger?)

/-- A date and a time of day as they are delivered, whether they exist or not. -/
structure Moment where
  year : Nat
  month : Nat
  day : Nat
  hour : Nat
  minute : Nat
  second : Nat
  microsecond : Nat
  deriving DecidableEq, Inhabited

structure Span where
  isNegative : Bool
  days : Nat
  hours : Nat
  minutes : Nat
  seconds : Nat
  microseconds : Nat
  deriving DecidableEq, Inhabited

/-- A cell of a result. A number of 32 bits is delivered as the equal one of 64 bits. -/
inductive Cell where
  | null
  | octets (content : List UInt8)
  | signed (n : Int64)
  | unsigned (n : UInt64)
  | floating (x : Binary64)
  | moment (m : Moment)
  | span (s : Span)
  deriving Inhabited

def Moment.date? (m : Moment) : Option Date :=
  Date.ofParts? m.year m.month m.day

def Moment.time? (m : Moment) : Option Time :=
  Time.ofParts? m.hour m.minute m.second (m.microsecond * 1000)

def Span.time? (s : Span) : Option Time :=
  if s.isNegative || s.days ≠ 0 then none
  else Time.ofParts? s.hours s.minutes s.seconds (s.microseconds * 1000)

namespace Cell

/-- Each octet as the character of its number, which is the character of an ASCII octet. -/
def characters (content : List UInt8) : List Char :=
  content.map fun octet => Char.ofNat octet.toNat

def integer? : Cell → Option Int
  | octets content => readInteger? (characters content)
  | signed n => some n.toInt
  | unsigned n => some n.toNat
  | _ => none

/-- The floating point number that a cell holds; an integer is none. -/
def floating? : Cell → Option Binary64
  | octets content => Binary64.read? (characters content)
  | floating x => some x
  | _ => none

def decimal? : Cell → Option Decimal
  | octets content => Decimal.read? (characters content)
  | signed n => Decimal.ofInt? n.toInt
  | unsigned n => Decimal.ofInt? n.toNat
  | _ => none

/-- The date that a cell holds. The time of day of a moment is dropped. -/
def date? : Cell → Option Date
  | octets content => Date.read? (characters content)
  | moment m => m.date?
  | _ => none

def timestamp? : Cell → Option Timestamp
  | octets content => Timestamp.read? (characters content)
  | moment m => m.date?.bind fun date => m.time?.map fun time => ⟨date, time⟩
  | _ => none

def time? : Cell → Option Time
  | octets content => Time.read? (characters content)
  | span s => s.time?
  | _ => none

/-- Octets as a text, unless they are binary or encode none. -/
def textOrBlob (isBinary : Bool) (content : List UInt8) : Value :=
  if isBinary then .blob content
  else
    match Text.decodeUtf8 content with
    | .ok text => .varchar text
    | .error _ => .blob content

/-- The value of a cell as it is, where moments and spans have none. -/
def content? (isBinary : Bool) : Cell → Option Value
  | null => some .null
  | octets content => some (textOrBlob isBinary content)
  | signed n => some (.int64 n)
  | unsigned n => some (.uint64 n)
  | floating x => some (.float64 x)
  | moment _ | span _ => none

end Cell

def Column.decode? (column : Column) : Cell → Option Value
  | .null => some .null
  | cell =>
      match column.type.family with
      | .integer =>
          let held : IntegerType := ⟨!column.isUnsigned, .w64⟩
          (cell.integer?.bind held.member?).map held.toValue
      | .floating => cell.floating?.map .float64
      | .decimal => cell.decimal?.map .decimal
      | .date => cell.date?.map .date
      | .timestamp => cell.timestamp?.map .timestamp
      | .time => cell.time?.map .time
      | .content => cell.content? column.isBinary

/-! ## Lines -/

/-- The values of the cells under their columns, or the first cell that cannot be decoded with its
column. A cell that is missing, or was taken before, is null. -/
def decodeCells : List Column → List (Option Cell) → Except (Column × Cell) (List Value)
  | [], _ => .ok []
  | column :: columns, cells =>
      match column.decode? (cells.head?.join.getD .null) with
      | none => .error (column, cells.head?.join.getD .null)
      | some value => (decodeCells columns cells.tail).map (value :: ·)

def decodeRow (columns : List Column) (cells : List (Option Cell)) :
    Except (Column × Cell) Row :=
  (decodeCells columns cells).map fun values => ⟨columns.map Column.name, values⟩

/-- What decoding a line of cells reports, with a cell shown as `describe` shows it. -/
def decodeNotices (describe : Cell → String) (columns : List Column)
    (cells : List (Option Cell)) : List Notice :=
  match decodeRow columns cells with
  | .ok _ => []
  | .error (column, cell) => [.undecodableColumn column.name (describe cell)]

end TableGateway.MySql

import TableGateway.Calendar.Text
import TableGateway.Numeric.Shortest
import TableGateway.Text.Parts
import TableGateway.Text.Listing
import TableGateway.Text.Substitute
import TableGateway.Value.Text

/-!
# Identifiers and literals

How a dialect of SQL writes a name and a value. The generic dialect puts names between double
quotes and doubles the quotes inside a name or a text. MySQL puts each part of a dotted name between
backticks and escapes the special characters of a text with a backslash.
-/

namespace TableGateway.Sql

open Numeric (Binary64 FloatStyle digits integerText)
open Text (comma double parts separated)

inductive Dialect where
  | generic
  | mysql
  deriving DecidableEq, Inhabited

/-- A text between two marks, with the marks inside it doubled. -/
def enclosed (mark : Char) (text : List Char) : List Char :=
  mark :: double mark text ++ [mark]

/-- A name in a statement. A dotted name in MySQL has one part more than it has dots. -/
def identifier : Dialect → List Char → List Char
  | .generic, name => enclosed '"' name
  | .mysql, name => Text.listed ['.'] ((parts '.' name).map (enclosed '`'))

def backslashed (c : Char) : List Char :=
  if c = '\x00' then ['\\', '0']
  else if c = '\x08' then ['\\', 'b']
  else if c = '\t' then ['\\', 't']
  else if c = '\n' then ['\\', 'n']
  else if c = '\r' then ['\\', 'r']
  else if c = '\x1a' then ['\\', 'Z']
  else if c = '\'' then ['\\', '\'']
  else if c = '"' then ['\\', '"']
  else if c = '\\' then ['\\', '\\']
  else [c]

def textLiteral : Dialect → List Char → List Char
  | .generic, text => enclosed '\'' text
  | .mysql, text => '\'' :: text.flatMap backslashed ++ ['\'']

def hexPair (octet : UInt8) : List Char :=
  [(Nat.digitChar (octet.toNat / 16)).toUpper, (Nat.digitChar (octet.toNat % 16)).toUpper]

def blobLiteral (octets : List UInt8) : List Char :=
  'X' :: '\'' :: octets.flatMap hexPair ++ ['\'']

/-- A finite number; null in place of any other. -/
def floatLiteral (x : Binary64) : List Char :=
  if x.isFinite then x.text FloatStyle.statement else "NULL".toList

def plainLiteral (text : List Char) : List Char :=
  '\'' :: text ++ ['\'']

def literal (dialect : Dialect) : Value → List Char
  | .null => "NULL".toList
  | .boolean b => Value.boolText b
  | .int64 n => integerText n.toInt
  | .uint64 n => digits n.toNat
  | .float64 x => floatLiteral x
  | .decimal d => d.text
  | .varchar text => textLiteral dialect text.toList
  | .blob octets => blobLiteral octets
  | .date d => plainLiteral d.literal
  | .time t => plainLiteral t.literal
  | .timestamp t => plainLiteral t.literal
  | .uuid id => plainLiteral id.text
  | .list items => '(' :: separated comma (items.map (literal dialect)) ++ [')']

mutual

/-- The numbers of a value that are written as null, in order. -/
def nonFinite : Value → List Binary64
  | .float64 x => if x.isFinite then [] else [x]
  | .list items => nonFiniteItems items
  | _ => []

def nonFiniteItems : List Value → List Binary64
  | [] => []
  | item :: rest => nonFinite item ++ nonFiniteItems rest

end

end TableGateway.Sql

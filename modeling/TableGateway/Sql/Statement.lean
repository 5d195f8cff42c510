import TableGateway.Notice
import TableGateway.Paging
import TableGateway.Sql.Clause

/-!
# Statements

The four statements on a table and the three of a transaction. A condition that does not fit the
key of the table fails the whole statement.

A statement may also be given as a template with placeholders: `??` takes the next value as a name
and `?` as a literal. Placeholders without a value stay as they are, and what a value writes is not
looked at again.
-/

namespace TableGateway.Sql

open Numeric (Binary64)
open Text (comma separated)

inductive Statement where
  | select (condition : Condition) (paging : Paging)
  | insert (fields : Record)
  | update (fields : Record) (condition : Condition)
  | delete (condition : Condition)

def assignment (dialect : Dialect) (field : String × Value) : List Char :=
  identifier dialect field.1.toList ++ " = ".toList ++ literal dialect field.2

def assignments (dialect : Dialect) (fields : Record) : List Char :=
  separated comma (fields.entries.map (assignment dialect))

namespace Statement

def head (dialect : Dialect) (table : String) : Statement → List Char
  | select _ _ => "SELECT * FROM ".toList ++ identifier dialect table.toList
  | insert fields =>
      "INSERT INTO ".toList ++ identifier dialect table.toList ++ " SET ".toList ++
        assignments dialect fields
  | update fields _ =>
      "UPDATE ".toList ++ identifier dialect table.toList ++ " SET ".toList ++
        assignments dialect fields
  | delete _ => "DELETE FROM ".toList ++ identifier dialect table.toList

def condition : Statement → Condition
  | select condition _ => condition
  | insert _ => .everything
  | update _ condition => condition
  | delete condition => condition

def tail : Statement → List Char
  | select _ paging => paging.text
  | _ => []

def chars (dialect : Dialect) (table : String) (key : PrimaryKey) (s : Statement) :
    Except Failure (List Char) :=
  (whereText dialect key s.condition).map fun text => s.head dialect table ++ text ++ s.tail

def text (dialect : Dialect) (table : String) (key : PrimaryKey) (s : Statement) :
    Except Failure String :=
  (s.chars dialect table key).map String.ofList

def fields : Statement → Record
  | insert fields => fields
  | update fields _ => fields
  | _ => ∅

def headNonFinite (s : Statement) : List Binary64 :=
  nonFiniteItems s.fields.values

/-- The numbers written as null in the condition, none when it fails. -/
def conditionNonFinite (key : PrimaryKey) (s : Statement) : List Binary64 :=
  match whereOf key s.condition with
  | .ok w => w.nonFinite
  | .error _ => []

def notices (key : PrimaryKey) (s : Statement) : List Notice :=
  (s.headNonFinite ++ s.conditionNonFinite key).map .nonFinite

end Statement

inductive Transaction where
  | start
  | commit
  | rollback
  deriving DecidableEq, Inhabited

def Transaction.text : Transaction → String
  | start => "START TRANSACTION"
  | commit => "COMMIT"
  | rollback => "ROLLBACK"

/-! ## Templates -/

/-- A value as a name: a text by itself, a list as the names of its items, and any other value by
its short form. -/
def valueIdentifier (dialect : Dialect) : Value → List Char
  | .varchar text => identifier dialect text.toList
  | .list items => separated comma (items.map (valueIdentifier dialect))
  | value => identifier dialect value.display

/-- Fills the placeholders of a template with values. -/
def fill (dialect : Dialect) : List Char → List Value → List Char
  | [], _ => []
  | '?' :: '?' :: rest, value :: values =>
      valueIdentifier dialect value ++ fill dialect rest values
  | '?' :: '?' :: rest, [] => '?' :: '?' :: fill dialect rest []
  | '?' :: rest, value :: values => literal dialect value ++ fill dialect rest values
  | c :: rest, values => c :: fill dialect rest values

def fillNonFinite : List Char → List Value → List Binary64
  | [], _ => []
  | _, [] => []
  | '?' :: '?' :: rest, _ :: values => fillNonFinite rest values
  | '?' :: rest, value :: values => nonFinite value ++ fillNonFinite rest values
  | _ :: rest, values => fillNonFinite rest values

end TableGateway.Sql

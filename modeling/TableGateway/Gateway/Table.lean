import TableGateway.Gateway.Config
import TableGateway.Gateway.Session
import TableGateway.Sql.Statement

/-!
# Tables

A table handle has a driver, an accepted configuration and a validator. Its operations are programs
that send one statement, or two for `replace`. Every statement is checked before it is sent; the
second one of `replace` only when the first has been answered. Only the fields of the configured
constraints are ever written.
-/

namespace TableGateway

open Sql (Statement Transaction)

structure Table where
  backend : Backend
  config : TableConfig
  validator : Validator
  accepted : config.check = .ok ()

inductive Replaced where
  /-- A row with the key was there. -/
  | updated (effect : Affected)
  /-- No row had the key. -/
  | inserted (effect : Affected)
  deriving Inhabited

namespace Replaced

def affected : Replaced → Affected
  | updated effect => effect
  | inserted effect => effect

def isInserted : Replaced → Bool
  | updated _ => false
  | inserted _ => true

end Replaced

/-- Sends a statement, with a notice of it. -/
def Backend.execute (backend : Backend) (statement : String) : Program QueryResult :=
  .report (.statement backend.name statement) (.send statement .value)

def Backend.query (backend : Backend) (template : String) (values : List Value) :
    Program QueryResult :=
  Program.reportAll ((Sql.fillNonFinite template.toList values).map .nonFinite)
    (backend.execute (String.ofList (Sql.fill backend.dialect template.toList values)))

/-- Sends a statement of a transaction, without a notice of it. -/
def Backend.transact (_ : Backend) (transaction : Transaction) : Program Unit :=
  .send transaction.text fun _ => .value ()

namespace Table

def ofConfig (backend : Backend) (config : TableConfig) (validator : Validator) :
    Except Failure Table :=
  match h : config.check with
  | .ok () => .ok ⟨backend, config, validator, h⟩
  | .error f => .error f

def perform (t : Table) (s : Statement) : Program QueryResult :=
  Program.reportAll (s.notices t.config.primaryKey) do
    let text ← Program.ofCheck (s.text t.backend.dialect t.config.table t.config.primaryKey)
    t.backend.execute text

def search (t : Table) (condition : Condition) (paging : Paging) : Program (List Row) := do
  let result ← t.perform (.select condition paging)
  return result.toRows

def find (t : Table) (condition : Condition) (paging : Paging) : Program (Option Row) := do
  let rows ← t.search condition paging.singleRow
  return rows.head?

def findByKey (t : Table) (source : KeySource) : Program (Option Row) := do
  let key ← Program.ofCheck (t.config.primaryKey.resolve source)
  t.find (.ofRecord key) .unspecified

/-- One column of a row that may be there. A value that the row lacks stops the program. -/
def columnOf (field : String) : Option Row → Program (Option Value)
  | none => .value none
  | some row =>
      match row.column field with
      | .absent => .value none
      | .found value => .value (some value)
      | .beyond => .finished .aborted

def findOne (t : Table) (field : String) (condition : Condition) (paging : Paging) :
    Program (Option Value) := do
  let row ← t.find condition paging
  columnOf field row

def findAll (t : Table) (paging : Paging) : Program (List Row) :=
  t.search .everything paging

def validate (t : Table) (record : Record) (requested : Option RequestedConstraints) :
    Program Unit :=
  match requested with
  | none => .value ()
  | some requested =>
      let constraints := requested.resolve t.config.constraints
      Program.reportAll (t.validator.notices record constraints)
        (Program.ofCheck (t.validator.validate record constraints))

/-- The fields of a record that the table lets be written, at least one. -/
def writable (t : Table) (data : Record) : Except Failure Record :=
  let kept := data.filter fun field _ => t.config.constraints.contains field
  if kept.isEmpty then .error (.invalidParameter (.noWritableFields t.config.table))
  else .ok kept

def insert (t : Table) (data : Record) (requested : Option RequestedConstraints) :
    Program Affected := do
  t.validate data requested
  let fields ← Program.ofCheck (t.writable data)
  let result ← t.perform (.insert fields)
  return result.toAffected

/-- Sets the writable fields of a record on the rows that satisfy a condition. What is checked are
the fields that the condition names. -/
def update (t : Table) (condition : Condition) (data : Record)
    (requested : Option RequestedConstraints) : Program Affected := do
  t.validate (condition.filterRecord t.config.primaryKey) requested
  let fields ← Program.ofCheck (t.writable data)
  Program.reportAll (if condition.isEmpty then [.updatingEveryRow t.config.table] else []) do
    let result ← t.perform (.update fields condition)
    return result.toAffected

/-- Updates the row with the key of a record, or inserts the record when there is none. -/
def replace (t : Table) (data : Record) (requested : Option RequestedConstraints) :
    Program Replaced := do
  let key ← Program.ofCheck (t.config.primaryKey.resolve (.record data))
  let existing ← t.find (.ofRecord key) .unspecified
  match existing with
  | some _ => do
      let affected ← t.update (.ofRecord key) data requested
      return .updated affected
  | none => do
      let affected ← t.insert data requested
      return .inserted affected

def remove (t : Table) (condition : Condition) : Program Affected :=
  Program.reportAll (if condition.isEmpty then [.deletingEveryRow t.config.table] else []) do
    let result ← t.perform (.delete condition)
    return result.toAffected

def query (t : Table) (template : String) (values : List Value) : Program QueryResult :=
  t.backend.query template values

end Table

end TableGateway

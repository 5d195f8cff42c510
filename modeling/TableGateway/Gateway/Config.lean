import TableGateway.Constraint.Check

/-!
# Configuration of a table

The name of a table, its primary key, and the constraints of its fields, whose names are the only
ones that the table lets be written.
-/

namespace TableGateway

structure TableConfig where
  table : String
  primaryKey : PrimaryKey
  constraints : ConstraintMap

namespace TableConfig

/-- A table with the standard key and no field that can be written. -/
def named (table : String) : TableConfig := ⟨table, .standard, ∅⟩

def withKey (config : TableConfig) (key : PrimaryKey) : TableConfig :=
  { config with primaryKey := key }

def withConstraint (config : TableConfig) (field : String) (c : Constraint) : TableConfig :=
  { config with constraints := config.constraints.insert field c }

def withConstraints (config : TableConfig) (constraints : ConstraintMap) : TableConfig :=
  { config with constraints := config.constraints.merge constraints }

/-- Adds fields without a rule, where they are not there already. -/
def withFields (config : TableConfig) (fields : List String) : TableConfig :=
  fields.foldl (fun config field =>
    if config.constraints.contains field then config
    else config.withConstraint field .free) config

/-- A key that names at least one field and no blank one. -/
def hasUsableKey (config : TableConfig) : Bool :=
  !config.primaryKey.fields.isEmpty && !config.primaryKey.fields.any Text.isAllBlank

/-- Refuses a table without a name or without a usable key. -/
def check (config : TableConfig) : Except Failure Unit :=
  if Text.isAllBlank config.table then .error (.invalidParameter .tableNameRequired)
  else if config.hasUsableKey then .ok ()
  else .error (.invalidParameter (.unusableKey config.primaryKey config.table))

end TableConfig

end TableGateway

import TableGateway.Value.Basic
import TableGateway.Value.Text

/-!
# Failures of the gateway

A failure is what the gateway refuses on its own, without asking the driver: a call that does not
fit the table, a parameter that means nothing, or a record that breaks its constraints. Each cause
is a constructor of its own, and the wording stands in one place.
-/

namespace TableGateway

abbrev Violations : Type := OrderedMap (List String)

/-- Calls that do not fit the table or the place they are made from. -/
inductive CallError where
  /-- A single value cannot stand for a composite key. -/
  | compositeKeyInput
  | missingKeyField (field : String)
  /-- Nothing runs that could carry the operation. -/
  | noRuntime
  | described (message : String)
  deriving Inhabited

inductive ParameterError where
  | missingKey
  | unsupportedOperator (text : String)
  | unsupportedConjunction (text : String)
  | tooFewParts
  | tooManyParts
  | operatorNotText (part : Value)
  | conjunctionNotText (part : Value)
  | tableNameRequired
  | unusableKey (key : PrimaryKey) (table : String)
  | noWritableFields (table : String)
  | described (message : String)
  deriving Inhabited

/-- What the gateway refuses on its own. -/
inductive Failure where
  | invalidCall (error : CallError)
  | invalidParameter (error : ParameterError)
  | validationFailed (violations : Violations)
  deriving Inhabited

def CallError.message : CallError → String
  | compositeKeyInput => "invalid input for composite primary key"
  | missingKeyField field => "missing '" ++ field ++ "' for composite primary key"
  | noRuntime => "no tokio runtime is running, the operation was not started"
  | described message => message

def ParameterError.message : ParameterError → String
  | missingKey => "missing primary key"
  | unsupportedOperator text => "unsupported operator `" ++ text ++ "` in condition"
  | unsupportedConjunction text => "unsupported conjunction `" ++ text ++ "` in condition"
  | tooFewParts => "not enough parameters for condition"
  | tooManyParts => "too many parameters for condition"
  | operatorNotText part =>
      "the operator of a condition must be a string, found Some(" ++
        String.ofList part.describe ++ ")"
  | conjunctionNotText part =>
      "the conjunction of a condition must be a string, found " ++ String.ofList part.describe
  | tableNameRequired => "table name is required"
  | unusableKey key table =>
      "invalid primary key `" ++ String.ofList key.text ++ "` for table `" ++ table ++ "`"
  | noWritableFields table => "no writable fields for table `" ++ table ++ "`"
  | described message => message

def Violations.messages (violations : Violations) : List String :=
  violations.values.flatten

def Failure.message : Failure → String
  | invalidCall error => "Invalid call: " ++ error.message
  | invalidParameter error => "Invalid parameter: " ++ error.message
  | validationFailed violations =>
      "Validation failed:" ++
        String.join (violations.messages.map fun message => " " ++ message ++ ";")

end TableGateway

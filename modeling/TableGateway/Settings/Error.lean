import TableGateway.Json.Basic
import TableGateway.Numeric.Shortest
import TableGateway.Text.Character

/-!
# Errors of settings

Settings that are no JSON are told apart from those that are JSON of another shape. The first error
in the order of the text counts.
-/

namespace TableGateway.Settings

open Json (Document SyntaxFault)
open Numeric (FloatStyle integerText)

inductive Expected where
  | text
  | sequence
  | settings
  deriving DecidableEq, Inhabited

inductive Error where
  | notJson (fault : SyntaxFault)
  | missingField (name : String)
  | duplicateField (name : String)
  | invalidType (found : Document) (expected : Expected)
  /-- An array without any of the elements of settings. -/
  | noElements
  /-- Neither a text nor a list of texts. -/
  | noKey
  deriving Inhabited

abbrev Checked : Type → Type := Except Error

def Expected.message : Expected → String
  | text => "a string"
  | sequence => "a sequence"
  | settings => "struct TableSettings"

/-- The kind of a value, with its content when that is short. -/
def foundText : Document → String
  | .null => "null"
  | .boolean b => "boolean `" ++ (if b then "true" else "false") ++ "`"
  | .integer n => "integer `" ++ String.ofList (integerText n) ++ "`"
  | .float x => "floating point `" ++ String.ofList (x.text FloatStyle.statement) ++ "`"
  | .string s => "string " ++ String.ofList (Text.quoted s.toList)
  | .array _ => "sequence"
  | .object _ => "map"

def Error.message : Error → String
  | notJson _ => "syntax error"
  | missingField name => "missing field `" ++ name ++ "`"
  | duplicateField name => "duplicate field `" ++ name ++ "`"
  | invalidType found expected =>
      "invalid type: " ++ foundText found ++ ", expected " ++ expected.message
  | noElements => "invalid length 0, expected struct TableSettings with 3 elements"
  | noKey => "data did not match any variant of untagged enum PrimaryKey"

def ofParsed (read : Json.Parsed α) : Checked α :=
  read.mapError .notJson

end TableGateway.Settings

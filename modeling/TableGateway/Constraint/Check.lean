import TableGateway.Constraint.Basic
import TableGateway.Key.Resolve
import TableGateway.Notice

/-!
# Checking constraints

Each rule gives the messages of what it finds wrong with a value; the messages of a field are those
of its rules in the order presence, length, numericality, inclusion, exclusion, format.
-/

namespace TableGateway

open Numeric (Binary64 FloatStyle)

/-- Nothing to speak of: missing, null, or empty up to blanks. -/
def isBlankValue : Option Value → Bool
  | none => true
  | some .null => true
  | some (.varchar text) => Text.isAllBlank text
  | some (.list items) => items.isEmpty
  | some (.blob octets) => octets.isEmpty
  | some _ => false

/-- The number that a rule compares, rounded to double precision. -/
def Value.number? : Value → Option Binary64
  | int64 n => some (Binary64.ofInt n.toInt)
  | uint64 n => some (Binary64.ofInt n.toNat)
  | float64 x => if x.isFinite then some x else none
  | decimal d => some d.toBinary64
  | _ => none

def Value.length? : Value → Option Nat
  | varchar text => some text.length
  | list items => some items.length
  | blob octets => some octets.length
  | _ => none

/-- Only texts, lists and blobs have a length, a text that of its characters. -/
theorem Value.length?_eq_some_iff {value : Value} {n : Nat} :
    value.length? = some n ↔
      (∃ text, value = .varchar text ∧ text.toList.length = n) ∨
      (∃ items, value = .list items ∧ items.length = n) ∨
      ∃ octets, value = .blob octets ∧ octets.length = n := by
  cases value <;> simp [length?, String.length_toList]

def Value.formatText? : Value → Option (List Char)
  | varchar text => some text.toList
  | int64 n => some (int64 n).display
  | uint64 n => some (uint64 n).display
  | float64 x => some (float64 x).display
  | decimal d => some (decimal d).display
  | _ => none

def complain (holds : Bool) (message : String) : List String :=
  if holds then [] else [message]

def countMessage (bound : Option Nat) (holds : Nat → Bool) (before after : String) :
    List String :=
  match bound with
  | some n => complain (holds n) (before ++ toString n ++ after)
  | none => []

def boundMessage (field label : String) (bound : Option Binary64) (holds : Binary64 → Bool) :
    List String :=
  match bound with
  | some b =>
      complain (holds b)
        (field ++ " must be " ++ label ++ " " ++ String.ofList (b.text FloatStyle.plain))
  | none => []

def LengthRule.check (rule : LengthRule) (field : String) (value : Value) : List String :=
  match value.length? with
  | none => [field ++ " has an incorrect length"]
  | some n =>
      countMessage rule.exactly (· == n) (field ++ " is the wrong length (should be ")
        " characters)" ++
      countMessage rule.minimum (· ≤ n) (field ++ " is too short (minimum is ") " characters)" ++
      countMessage rule.maximum (n ≤ ·) (field ++ " is too long (maximum is ") " characters)"

def NumberRule.check (rule : NumberRule) (field : String) (value : Value) : List String :=
  match value.number? with
  | none => [field ++ " is not a number"]
  | some x =>
      complain (!(rule.onlyInteger && x.hasFraction)) (field ++ " must be an integer") ++
      boundMessage field "greater than" rule.greaterThan (·.lt x) ++
      boundMessage field "greater than or equal to" rule.greaterOrEqual (·.le x) ++
      boundMessage field "less than" rule.lessThan x.lt ++
      boundMessage field "less than or equal to" rule.lessOrEqual x.le

def checkFormat (regex : Pattern.Regex) (field : String) (value : Value) : List String :=
  complain ((value.formatText?.map regex.isMatch).getD false) (field ++ " is invalid")

namespace Constraint

def checkValue (c : Constraint) (field : String) (value : Value) : List String :=
  (match c.length with
    | some rule => rule.check field value
    | none => []) ++
  (match c.numericality with
    | some rule => rule.check field value
    | none => []) ++
  (match c.inclusion with
    | some values => complain (value.isOneOf values) (field ++ " is not included in the list")
    | none => []) ++
  (match c.exclusion with
    | some values => complain (!value.isOneOf values) (field ++ " is restricted")
    | none => []) ++
  (match c.format with
    | some regex => checkFormat regex field value
    | none => [])

def check (c : Constraint) (field : String) (value? : Option Value) : List String :=
  complain (!(c.presence && isBlankValue value?)) (field ++ " can't be blank") ++
    match present? value? with
    | some value => c.checkValue field value
    | none => []

end Constraint

/-- Finds what breaks the constraints in a record. -/
abbrev Validator : Type := Record → ConstraintMap → Violations

/-- Puts the messages of the fields that have any under their fields. -/
def violationsOf (messages : String → Constraint → List String) (constraints : ConstraintMap) :
    Violations :=
  (constraints.mapEntries messages).filter fun _ found => !found.isEmpty

namespace Validator

def rules : Validator :=
  fun record constraints =>
    violationsOf (fun field c => c.check field (record.get? field)) constraints

def lenient : Validator := fun _ _ => ∅

/-- Refuses every constrained field and says how many fields it was given. -/
def strict : Validator :=
  fun record constraints =>
    violationsOf (fun field _ => [field ++ " refused (" ++ toString record.size ++ ")"])
      constraints

def failure? (validator : Validator) (record : Record) (constraints : ConstraintMap) :
    Option Violations :=
  let violations := validator record constraints
  if violations.isEmpty then none else some violations

def validate (validator : Validator) (record : Record) (constraints : ConstraintMap) :
    Except Failure Unit :=
  match validator.failure? record constraints with
  | some violations => .error (.validationFailed violations)
  | none => .ok ()

def notices (validator : Validator) (record : Record) (constraints : ConstraintMap) :
    List Notice :=
  match validator.failure? record constraints with
  | some violations => [.validationFailed violations]
  | none => []

end Validator

end TableGateway

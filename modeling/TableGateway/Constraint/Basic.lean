import TableGateway.Pattern.Reader
import TableGateway.Value.Basic

/-!
# Constraints

What the value of a field must satisfy. Every rule may be absent; all rules but presence have
nothing to say about a field that is missing or null. A `ConstraintMap` holds the constraints of a
table in order, and its keys are the only fields that the table lets be written.
-/

namespace TableGateway

open Numeric (Binary64)

/-- Bounds for the number of characters, items or octets. -/
structure LengthRule where
  minimum : Option Nat
  maximum : Option Nat
  exactly : Option Nat
  deriving DecidableEq, Inhabited

structure NumberRule where
  onlyInteger : Bool
  greaterThan : Option Binary64
  greaterOrEqual : Option Binary64
  lessThan : Option Binary64
  lessOrEqual : Option Binary64
  deriving DecidableEq, Inhabited

structure Constraint where
  presence : Bool
  length : Option LengthRule
  numericality : Option NumberRule
  inclusion : Option (List Value)
  exclusion : Option (List Value)
  format : Option Pattern.Regex
  deriving Inhabited

abbrev ConstraintMap : Type := OrderedMap Constraint

namespace Constraint

def free : Constraint := ⟨false, none, none, none, none, none⟩

/-- Adds the rule that a text between anchors matches a pattern. The pattern is pasted between the
anchors as text. -/
def withFormat (c : Constraint) (pattern : String) : Pattern.Checked Constraint := do
  let regex ← Pattern.read (Pattern.anchored pattern)
  return { c with format := some regex }

end Constraint

inductive RequestedConstraints where
  /-- Those of the table. -/
  | configured
  /-- Those of the table, with some fields replaced or added. -/
  | merge (overrides : ConstraintMap)

/-- The constraints to check: an override replaces the whole constraint of its field. -/
def RequestedConstraints.resolve (requested : RequestedConstraints) (configured : ConstraintMap) :
    ConstraintMap :=
  match requested with
  | .configured => configured
  | merge overrides => if overrides.isEmpty then configured else configured.merge overrides

/-- Without overrides nothing is merged, which is the same as merging nothing. -/
theorem RequestedConstraints.resolve_merge (configured overrides : ConstraintMap) :
    (merge overrides).resolve configured = configured.merge overrides := by
  rw [resolve]
  split
  case isTrue none =>
    have entries : overrides.entries = [] := List.isEmpty_iff.1 none
    rw [OrderedMap.merge, entries]
    rfl
  case isFalse => rfl

end TableGateway

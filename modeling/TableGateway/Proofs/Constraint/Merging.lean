import TableGateway.Proofs.Constraint.Rules
import TableGateway.Gateway.Table

/-!
# Constraints merged for one call

Overrides are laid over the configured constraints field by field: a field keeps its place, a new
one comes behind, and an override replaces the whole constraint of its field. So every field is
reported as the constraints that it comes from alone would report it. The overrides are those of one
check only: what a table lets be written are the configured fields all the same.
-/

namespace TableGateway

/-- The constraints that a field of a merged map comes from. -/
def ConstraintMap.origin (configured overrides : ConstraintMap) (field : String) : ConstraintMap :=
  if field ∈ overrides.keys then overrides else configured

variable {configured overrides : ConstraintMap} {record : Record} {field : String}

theorem get?_merge_eq_origin :
    (configured.merge overrides).get? field =
      (ConstraintMap.origin configured overrides field).get? field := by
  rw [ConstraintMap.origin]
  split
  case isTrue overridden => exact OrderedMap.get?_merge_of_mem overridden
  case isFalse kept => exact OrderedMap.get?_merge_of_not_mem kept

namespace Validator

/-- A field is reported as the constraints it comes from report it. -/
theorem get?_rules_merge :
    (rules record (configured.merge overrides)).get? field =
      (rules record (ConstraintMap.origin configured overrides field)).get? field := by
  rw [get?_rules, get?_rules, get?_merge_eq_origin]

theorem entries_rules (record : Record) (constraints : ConstraintMap) :
    (rules record constraints).entries =
      constraints.keys.filterMap fun field =>
        ((rules record constraints).get? field).map (field, ·) :=
  OrderedMap.entries_eq_filterMap constraints.nodup (keys_rules_sublist record constraints)

end Validator

/-- Constraints are merged field by field. The fields are the configured ones in their order and
behind them the new ones in theirs, each with the whole constraint that overrides it if there is one
and else with the configured one. The rules report every field in this order, and report about it
what they report under the overrides alone, if it is overridden, or else under the configured
constraints alone. Merging nothing is the same as asking for the configured constraints, with every
validator, and a table whose call asks for merged constraints goes on from the check as if the call
had asked for none: it lets the fields of its own constraints be written. -/
theorem merges_constraints (configured overrides : ConstraintMap) (record : Record) :
    let merged := (RequestedConstraints.merge overrides).resolve configured
    merged.keys = configured.keys ++ overrides.keys.filter (fun field => field ∉ configured.keys) ∧
    (∀ field, merged.get? field = (overrides.get? field).or (configured.get? field)) ∧
    (Validator.rules record merged).entries = merged.keys.filterMap (fun field =>
      ((Validator.rules record (ConstraintMap.origin configured overrides field)).get? field).map
        (field, ·)) ∧
    (∀ t : Table, t.validate record (some (.merge ∅)) = t.validate record (some .configured)) ∧
    ∀ (t : Table) (data : Record) (condition : Condition),
      t.insert data (some (.merge overrides)) = (do
        t.validate data (some (.merge overrides))
        t.insert data none) ∧
      t.update condition data (some (.merge overrides)) = (do
        t.validate (condition.filterRecord t.config.primaryKey) (some (.merge overrides))
        t.update condition data none) := by
  intro merged
  have same : merged = configured.merge overrides :=
    RequestedConstraints.resolve_merge configured overrides
  refine ⟨?_, ?_, ?_, fun t => rfl, fun t data condition => ⟨rfl, rfl⟩⟩
  · rw [same, OrderedMap.keys_merge]
  · intro field
    rw [same, OrderedMap.get?_merge]
  · have report := Validator.entries_rules record (configured.merge overrides)
    simp only [Validator.get?_rules_merge] at report
    rw [same]
    exact report

/-- A field that is overridden keeps its place. -/
example : ((RequestedConstraints.merge (.ofList [("age", .free), ("name", .free)])).resolve
    (.ofList [("name", { Constraint.free with presence := true }), ("email", .free)])).keys =
      ["name", "email", "age"] := by
  rfl

end TableGateway

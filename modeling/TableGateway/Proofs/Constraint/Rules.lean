import TableGateway.Constraint.Check
import TableGateway.Proofs.Key.Taken

/-!
# Rules on their own

A constraint has six rules, and what it says about a value is what each of them says on its own, in
one fixed order. A rule speaks exactly when it is broken, and about a value that is missing or null
only presence speaks. So a field is reported exactly when it breaks one of its own rules, and what
is reported about it depends on nothing but its value and its constraint.
-/

namespace TableGateway

open Numeric (Binary64)

inductive Rule where
  | presence
  | length
  | numericality
  | inclusion
  | exclusion
  | format
  deriving DecidableEq

def Rule.inOrder : List Rule :=
  [.presence, .length, .numericality, .inclusion, .exclusion, .format]

structure LengthRule.Holds (rule : LengthRule) (n : Nat) : Prop where
  exactly : ∀ m ∈ rule.exactly, m = n
  minimum : ∀ m ∈ rule.minimum, m ≤ n
  maximum : ∀ m ∈ rule.maximum, n ≤ m

structure NumberRule.Holds (rule : NumberRule) (x : Binary64) : Prop where
  onlyInteger : rule.onlyInteger = true → x.hasFraction = false
  greaterThan : ∀ b ∈ rule.greaterThan, b.lt x = true
  greaterOrEqual : ∀ b ∈ rule.greaterOrEqual, b.le x = true
  lessThan : ∀ b ∈ rule.lessThan, x.lt b = true
  lessOrEqual : ∀ b ∈ rule.lessOrEqual, x.le b = true

namespace Constraint

/-- The constraint with one of its rules and no other. -/
def only (c : Constraint) : Rule → Constraint
  | .presence => { free with presence := c.presence }
  | .length => { free with length := c.length }
  | .numericality => { free with numericality := c.numericality }
  | .inclusion => { free with inclusion := c.inclusion }
  | .exclusion => { free with exclusion := c.exclusion }
  | .format => { free with format := c.format }

/-- A value that is there is as a rule demands. A rule on lengths, numbers or texts demands that the
value has one. -/
def Keeps (c : Constraint) (value : Value) : Rule → Prop
  | .presence => c.presence = true → isBlankValue (some value) = false
  | .length => ∀ rule ∈ c.length, ∃ n, value.length? = some n ∧ rule.Holds n
  | .numericality => ∀ rule ∈ c.numericality, ∃ x, value.number? = some x ∧ rule.Holds x
  | .inclusion => ∀ values ∈ c.inclusion, value.isOneOf values = true
  | .exclusion => ∀ values ∈ c.exclusion, value.isOneOf values = false
  | .format => ∀ regex ∈ c.format, ∃ text, value.formatText? = some text ∧ regex.isMatch text = true

/-- A field breaks a rule: its value is there and not as the rule demands, or presence is demanded
of a field without a value. -/
def Breaks (c : Constraint) (value? : Option Value) (rule : Rule) : Prop :=
  match present? value? with
  | some value => ¬c.Keeps value rule
  | none => rule = .presence ∧ c.presence = true

/-! ## A rule speaks when it is broken -/

theorem complain_eq_nil_iff {holds : Bool} {message : String} :
    complain holds message = [] ↔ holds = true := by
  cases holds <;> simp [complain]

theorem countMessage_eq_nil_iff {bound : Option Nat} {holds : Nat → Bool}
    {before after : String} :
    countMessage bound holds before after = [] ↔ ∀ n ∈ bound, holds n = true := by
  cases bound <;> simp [countMessage, complain_eq_nil_iff]

theorem boundMessage_eq_nil_iff {field label : String} {bound : Option Binary64}
    {holds : Binary64 → Bool} :
    boundMessage field label bound holds = [] ↔ ∀ b ∈ bound, holds b = true := by
  cases bound <;> simp [boundMessage, complain_eq_nil_iff]

theorem lengthRule_check_eq_nil_iff {rule : LengthRule} {field : String} {value : Value} :
    rule.check field value = [] ↔ ∃ n, value.length? = some n ∧ rule.Holds n := by
  rw [LengthRule.check]
  cases value.length? with
  | none => simp
  | some n =>
      simp only [List.append_eq_nil_iff, countMessage_eq_nil_iff, beq_iff_eq, decide_eq_true_eq,
        Option.some.injEq, exists_eq_left']
      constructor
      · rintro ⟨⟨exactly, minimum⟩, maximum⟩
        exact ⟨exactly, minimum, maximum⟩
      · rintro ⟨exactly, minimum, maximum⟩
        exact ⟨⟨exactly, minimum⟩, maximum⟩

theorem numberRule_check_eq_nil_iff {rule : NumberRule} {field : String} {value : Value} :
    rule.check field value = [] ↔ ∃ x, value.number? = some x ∧ rule.Holds x := by
  rw [NumberRule.check]
  cases value.number? with
  | none => simp
  | some x =>
      have whole : (!(rule.onlyInteger && x.hasFraction)) = true ↔
          (rule.onlyInteger = true → x.hasFraction = false) := by
        cases rule.onlyInteger <;> simp
      simp only [List.append_eq_nil_iff, complain_eq_nil_iff, boundMessage_eq_nil_iff, whole,
        Option.some.injEq, exists_eq_left']
      constructor
      · rintro ⟨⟨⟨⟨integer, greater⟩, least⟩, less⟩, most⟩
        exact ⟨integer, greater, least, less, most⟩
      · rintro ⟨integer, greater, least, less, most⟩
        exact ⟨⟨⟨⟨integer, greater⟩, least⟩, less⟩, most⟩

theorem checkFormat_eq_nil_iff {regex : Pattern.Regex} {field : String} {value : Value} :
    checkFormat regex field value = [] ↔
      ∃ text, value.formatText? = some text ∧ regex.isMatch text = true := by
  rw [checkFormat, complain_eq_nil_iff]
  cases value.formatText? <;> simp

theorem check_only_some_eq_nil_iff {c : Constraint} {field : String} {value : Value}
    (there : value ≠ .null) (rule : Rule) :
    (c.only rule).check field (some value) = [] ↔ c.Keeps value rule := by
  have present : present? (some value) = some value := present?_eq_some_iff.2 ⟨rfl, there⟩
  cases rule with
  | presence =>
      rw [Keeps, check, present]
      cases demanded : c.presence <;>
        simp [only, free, checkValue, complain_eq_nil_iff, demanded]
  | length =>
      rw [Keeps, check, present]
      cases limits : c.length <;>
        simp [only, free, checkValue, complain_eq_nil_iff, limits, lengthRule_check_eq_nil_iff]
  | numericality =>
      rw [Keeps, check, present]
      cases limits : c.numericality <;>
        simp [only, free, checkValue, complain_eq_nil_iff, limits, numberRule_check_eq_nil_iff]
  | inclusion =>
      rw [Keeps, check, present]
      cases listed : c.inclusion <;> simp [only, free, checkValue, complain_eq_nil_iff, listed]
  | exclusion =>
      rw [Keeps, check, present]
      cases listed : c.exclusion <;> simp [only, free, checkValue, complain_eq_nil_iff, listed]
  | format =>
      rw [Keeps, check, present]
      cases pattern : c.format <;>
        simp [only, free, checkValue, complain_eq_nil_iff, pattern, checkFormat_eq_nil_iff]

/-- About a field without a value only presence speaks, when it is demanded. -/
theorem check_of_present?_eq_none {value? : Option Value} (missing : present? value? = none)
    (c : Constraint) (field : String) :
    c.check field value? = complain (!c.presence) (field ++ " can't be blank") := by
  have blank : isBlankValue value? = true := by
    cases value? with
    | none => rfl
    | some value => cases value <;> first | rfl | cases missing
  rw [check, missing, blank, Bool.and_true, List.append_nil]

theorem check_only_eq_nil_iff {c : Constraint} {field : String} {value? : Option Value}
    {rule : Rule} : (c.only rule).check field value? = [] ↔ ¬c.Breaks value? rule := by
  cases there : present? value? with
  | none =>
      rw [check_of_present?_eq_none there, complain_eq_nil_iff, Breaks, there]
      cases rule <;> simp [only, free]
  | some value =>
      obtain ⟨rfl, notNull⟩ := present?_eq_some_iff.1 there
      rw [check_only_some_eq_nil_iff notNull, Breaks, there]
      exact Classical.not_not.symm

/-! ## The rules speak one after the other -/

theorem check_eq_flatMap (c : Constraint) (field : String) (value? : Option Value) :
    c.check field value? = Rule.inOrder.flatMap fun rule => (c.only rule).check field value? := by
  cases there : present? value? with
  | none =>
      simp only [check_of_present?_eq_none there]
      simp [Rule.inOrder, only, free, complain]
  | some value =>
      simp only [check, there]
      simp [Rule.inOrder, only, free, checkValue, complain]

end Constraint

/-! ## Reports -/

def justRule (rule : Rule) (constraints : ConstraintMap) : ConstraintMap :=
  constraints.map fun c => c.only rule

namespace Validator

def report (validator : Validator) (record : Record) (constraints : ConstraintMap)
    (field : String) : List String :=
  ((validator record constraints).get? field).getD []

variable {record : Record} {constraints : ConstraintMap} {field : String}

theorem get?_rules :
    (rules record constraints).get? field =
      ((constraints.get? field).map fun c => c.check field (record.get? field)).filter
        fun messages => !messages.isEmpty := by
  rw [rules, violationsOf, OrderedMap.get?_filter, OrderedMap.get?_mapEntries]

theorem report_rules_of_eq_none (free : constraints.get? field = none) :
    rules.report record constraints field = [] := by
  rw [report, get?_rules, free]
  rfl

theorem report_rules_of_eq_some {c : Constraint} (constrained : constraints.get? field = some c) :
    rules.report record constraints field = c.check field (record.get? field) := by
  rw [report, get?_rules, constrained, Option.map_some, Option.filter_some]
  cases c.check field (record.get? field) <;> rfl

theorem get?_justRule (rule : Rule) :
    (justRule rule constraints).get? field = (constraints.get? field).map fun c => c.only rule :=
  OrderedMap.get?_mapEntries _ constraints field

/-- What is reported about a field is what each rule alone reports about it. -/
theorem report_eq_flatMap :
    rules.report record constraints field =
      Rule.inOrder.flatMap fun rule => rules.report record (justRule rule constraints) field := by
  cases constrained : constraints.get? field with
  | none =>
      have alone : ∀ rule, rules.report record (justRule rule constraints) field = [] := fun rule =>
        report_rules_of_eq_none (by rw [get?_justRule, constrained, Option.map_none])
      simp only [alone]
      exact report_rules_of_eq_none constrained
  | some c =>
      have alone : ∀ rule, rules.report record (justRule rule constraints) field =
          (c.only rule).check field (record.get? field) := fun rule =>
        report_rules_of_eq_some (by rw [get?_justRule, constrained, Option.map_some])
      simp only [alone]
      exact (report_rules_of_eq_some constrained).trans (c.check_eq_flatMap field _)

theorem report_justRule_ne_nil_iff {rule : Rule} :
    rules.report record (justRule rule constraints) field ≠ [] ↔
      ∃ c, constraints.get? field = some c ∧ c.Breaks (record.get? field) rule := by
  cases constrained : constraints.get? field with
  | none =>
      rw [report_rules_of_eq_none (by rw [get?_justRule, constrained, Option.map_none])]
      simp
  | some c =>
      rw [report_rules_of_eq_some (by rw [get?_justRule, constrained, Option.map_some]), Ne,
        Constraint.check_only_eq_nil_iff]
      simp

theorem mem_keys_rules_iff :
    field ∈ (rules record constraints).keys ↔ rules.report record constraints field ≠ [] := by
  rw [OrderedMap.mem_keys_iff, report, get?_rules]
  cases constraints.get? field with
  | none => simp
  | some c =>
      rw [Option.map_some, Option.filter_some]
      cases c.check field (record.get? field) <;> simp

/-- A field is reported when it breaks a rule of its own. -/
theorem mem_keys_rules_iff_exists_breaks :
    field ∈ (rules record constraints).keys ↔
      ∃ c rule, constraints.get? field = some c ∧ c.Breaks (record.get? field) rule := by
  have every : ∀ rule, rule ∈ Rule.inOrder := by
    intro rule
    cases rule <;> decide
  rw [mem_keys_rules_iff, report_eq_flatMap]
  constructor
  · intro found
    obtain ⟨message, mem⟩ := List.exists_mem_of_ne_nil _ found
    obtain ⟨rule, -, said⟩ := List.mem_flatMap.1 mem
    obtain ⟨c, constrained, breaks⟩ := report_justRule_ne_nil_iff.1 (List.ne_nil_of_mem said)
    exact ⟨c, rule, constrained, breaks⟩
  · rintro ⟨c, rule, constrained, breaks⟩ silent
    exact report_justRule_ne_nil_iff.2 ⟨c, constrained, breaks⟩
      (List.flatMap_eq_nil_iff.1 silent rule (every rule))

/-- The fields are reported in the order of the constraints. -/
theorem keys_rules_sublist (record : Record) (constraints : ConstraintMap) :
    (rules record constraints).keys.Sublist constraints.keys := by
  have kept : ((constraints.mapEntries fun field c => c.check field (record.get? field)).filter
      fun _ messages => !messages.isEmpty).keys.Sublist
        (constraints.mapEntries fun field c => c.check field (record.get? field)).keys :=
    List.filter_sublist.map Prod.fst
  rwa [OrderedMap.keys_mapEntries] at kept

/-- About a field without a value only presence speaks. -/
theorem report_of_missing (missing : present? (record.get? field) = none) :
    rules.report record constraints field =
      rules.report record (justRule .presence constraints) field := by
  cases constrained : constraints.get? field with
  | none =>
      rw [report_rules_of_eq_none constrained,
        report_rules_of_eq_none (by rw [get?_justRule, constrained, Option.map_none])]
  | some c =>
      rw [report_rules_of_eq_some constrained,
        report_rules_of_eq_some (by rw [get?_justRule, constrained, Option.map_some]),
        Constraint.check_of_present?_eq_none missing, Constraint.check_of_present?_eq_none missing]
      rfl

/-- The rules of a constraint are independent. What is reported about a field is what its rules
report on their own, one after the other, and a rule reports something exactly when the field breaks
it; about a field that is missing or null only presence reports. The fields that are reported are
those that break a rule of their own, in the order of the constraints, and what is reported about a
field is the same in every record and under all constraints that agree on this field. -/
theorem rules_independent (record : Record) (constraints : ConstraintMap) :
    (∀ field, rules.report record constraints field =
      Rule.inOrder.flatMap fun rule => rules.report record (justRule rule constraints) field) ∧
    (∀ field rule, rules.report record (justRule rule constraints) field ≠ [] ↔
      ∃ c, constraints.get? field = some c ∧ c.Breaks (record.get? field) rule) ∧
    (∀ field, record.get? field = none ∨ record.get? field = some .null →
      rules.report record constraints field =
        rules.report record (justRule .presence constraints) field) ∧
    (rules record constraints).keys.Sublist constraints.keys ∧
    (∀ field, field ∈ (rules record constraints).keys ↔
      ∃ c rule, constraints.get? field = some c ∧ c.Breaks (record.get? field) rule) ∧
    ∀ (other : Record) (others : ConstraintMap) (field : String),
      other.get? field = record.get? field → others.get? field = constraints.get? field →
        (rules other others).get? field = (rules record constraints).get? field := by
  refine ⟨fun field => report_eq_flatMap, fun field rule => report_justRule_ne_nil_iff, ?_,
    keys_rules_sublist record constraints, fun field => mem_keys_rules_iff_exists_breaks, ?_⟩
  · intro field missing
    apply report_of_missing
    rcases missing with missing | null
    · rw [missing]
      rfl
    · rw [null]
      rfl
  · intro other others field value constraint
    rw [get?_rules, get?_rules, value, constraint]

end Validator

/-- A list without items is reported by every rule that it breaks. -/
example :
    let c : Constraint :=
      { Constraint.free with
        presence := true
        length := some ⟨some 1, none, none⟩
        numericality := some ⟨true, none, none, none, none⟩
        inclusion := some []
        exclusion := some [.list [], .null] }
    c.check "tags" (some (.list [])) =
      ["tags can't be blank", "tags is too short (minimum is 1 characters)",
        "tags is not a number", "tags is not included in the list", "tags is restricted"] := by
  rfl

end TableGateway

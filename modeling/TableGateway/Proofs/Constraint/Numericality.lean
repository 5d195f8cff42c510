import TableGateway.Constraint.Check
import TableGateway.Proofs.Numeric.Rounding

/-!
# Numbers are judged as floating point numbers

A rule for numbers judges an integer or a decimal by the floating point number nearest to it. So an
exact number is judged as it is, unless it is rounded to a bound or to a whole number: then it
passes for that bound or for that whole number.
-/

namespace TableGateway

open Numeric (Binary64 FloatStyle IsWhole)
open Numeric.Binary64 (Nearest)

def Value.exactNumber? : Value → Option ℚ
  | int64 n => some n.toInt
  | uint64 n => some n.toNat
  | decimal d => some (ReadBack.decimalNumber d)
  | _ => none

/-- What is compared is the nearest floating point number. -/
theorem Value.exists_nearest {value : Value} {q : ℚ} (exact : value.exactNumber? = some q) :
    ∃ r, value.number? = some r ∧ Nearest q r := by
  cases value with
  | int64 n =>
      obtain rfl := Option.some.inj exact
      have range : n.toInt.natAbs < 2 ^ 96 := by
        have low := n.le_toInt
        have high := n.toInt_lt
        omega
      exact ⟨_, rfl, Binary64.nearest_ofInt range⟩
  | uint64 n =>
      obtain rfl := Option.some.inj exact
      have range : (n.toNat : ℤ).natAbs < 2 ^ 96 := by
        have high := n.toNat_lt
        omega
      exact ⟨_, rfl, Binary64.nearest_ofInt range⟩
  | decimal d =>
      obtain rfl := Option.some.inj exact
      exact ⟨_, rfl, Binary64.nearest_toBinary64 d⟩
  | _ => cases exact

/-! ## The bounds of a rule -/

inductive NumberBound where
  | greaterThan
  | greaterOrEqual
  | lessThan
  | lessOrEqual
  deriving DecidableEq

namespace NumberBound

def inOrder : List NumberBound :=
  [greaterThan, greaterOrEqual, lessThan, lessOrEqual]

theorem mem_inOrder (bound : NumberBound) : bound ∈ inOrder := by
  cases bound <;> decide

def of? (rule : NumberRule) : NumberBound → Option Binary64
  | greaterThan => rule.greaterThan
  | greaterOrEqual => rule.greaterOrEqual
  | lessThan => rule.lessThan
  | lessOrEqual => rule.lessOrEqual

def label : NumberBound → String
  | greaterThan => "greater than"
  | greaterOrEqual => "greater than or equal to"
  | lessThan => "less than"
  | lessOrEqual => "less than or equal to"

def holds : NumberBound → Binary64 → Binary64 → Bool
  | greaterThan, x, b => b.lt x
  | greaterOrEqual, x, b => b.le x
  | lessThan, x, b => x.lt b
  | lessOrEqual, x, b => x.le b

def Admits : NumberBound → ℚ → ℚ → Prop
  | greaterThan, x, b => b < x
  | greaterOrEqual, x, b => b ≤ x
  | lessThan, x, b => x < b
  | lessOrEqual, x, b => x ≤ b

def message (bound : NumberBound) (field : String) (b : Binary64) : String :=
  field ++ " must be " ++ bound.label ++ " " ++ String.ofList (b.text FloatStyle.plain)

theorem holds_iff {bound : NumberBound} {x b : Binary64} (finite_x : x.isFinite = true)
    (finite_b : b.isFinite = true) :
    bound.holds x b = true ↔ bound.Admits x.toRat b.toRat := by
  cases bound with
  | greaterThan => exact Binary64.lt_iff_toRat_lt finite_b finite_x
  | greaterOrEqual => exact Binary64.le_iff_toRat_le finite_b finite_x
  | lessThan => exact Binary64.lt_iff_toRat_lt finite_x finite_b
  | lessOrEqual => exact Binary64.le_iff_toRat_le finite_x finite_b

/-- A number that is not rounded to the bound compares as what it is rounded to. -/
theorem admits_iff_of_ne {bound : NumberBound} {q : ℚ} {r b : Binary64} (nearest : Nearest q r)
    (finite : b.isFinite = true) (apart : r.toRat ≠ b.toRat) :
    bound.Admits r.toRat b.toRat ↔ bound.Admits q b.toRat := by
  have less := nearest.lt_iff finite apart
  have greater := nearest.gt_iff finite apart
  cases bound with
  | greaterThan => exact greater
  | greaterOrEqual => simpa only [Admits, not_lt] using not_congr less
  | lessThan => exact less
  | lessOrEqual => simpa only [Admits, not_lt] using not_congr greater

end NumberBound

/-! ## Messages -/

def wholeMessage (field : String) : String :=
  field ++ " must be an integer"

/-- The text of a number does not go on as a label does. -/
theorem not_mem_text (x : Binary64) : 'o' ∉ x.text FloatStyle.plain := by
  have digit {n : Nat} : 'o' ∉ Numeric.digits n := fun mem => by
    cases ReadBack.isDigit_digits mem
  have positional (n : Nat) (e : Int) : 'o' ∉ Numeric.positionalText false n e := by
    rw [Numeric.positionalText]
    split
    case isTrue => simp [digit]
    case isFalse =>
      intro mem
      rcases List.mem_append.1 mem with front | back
      · simpa [digit] using List.mem_of_mem_take front
      · rcases List.mem_cons.1 back with point | back
        · cases point
        · simpa [digit] using List.mem_of_mem_drop back
  have unsigned : 'o' ∉ x.unsignedText FloatStyle.plain := by
    rw [Binary64.unsignedText]
    split
    case isTrue => exact positional 0 0
    case isFalse => exact positional _ _
  rw [Binary64.text]
  cases x.isNegative <;> cases x.isFinite <;> cases x.isNaN <;> simp [unsigned]

namespace NumberBound

theorem message_eq_append (bound : NumberBound) (field : String) (b : Binary64) :
    (bound.message field b).toList =
      field.toList ++ " must be ".toList ++
        (bound.label.toList ++ ' ' :: b.text FloatStyle.plain) := by
  simp [message]

/-- The message tells the comparison: no number goes on as the longer one of two labels does. -/
theorem eq_of_message_eq {bound other : NumberBound} {field : String} {b c : Binary64}
    (same : bound.message field b = other.message field c) : bound = other := by
  have texts := congrArg String.toList same
  rw [message_eq_append, message_eq_append] at texts
  have labels := List.append_cancel_left texts
  have left := not_mem_text b
  have right := not_mem_text c
  -- Where the labels differ early, the texts do; the longer one of two goes on with an `o`.
  cases bound <;> cases other <;> simp [label] at labels ⊢
  case greaterThan.greaterOrEqual => exact left (labels ▸ List.mem_cons_self)
  case greaterOrEqual.greaterThan => exact right (labels ▸ List.mem_cons_self)
  case lessThan.lessOrEqual => exact left (labels ▸ List.mem_cons_self)
  case lessOrEqual.lessThan => exact right (labels ▸ List.mem_cons_self)

theorem message_ne_wholeMessage (bound : NumberBound) (field : String) (b : Binary64) :
    bound.message field b ≠ wholeMessage field := by
  intro same
  have texts := congrArg String.toList same
  rw [message_eq_append, wholeMessage, String.toList_append, List.append_assoc] at texts
  have labels := List.append_cancel_left texts
  cases bound <;> simp [label] at labels

end NumberBound

/-! ## What a rule reports -/

theorem mem_complain_iff {holds : Bool} {message text : String} :
    text ∈ complain holds message ↔ holds = false ∧ text = message := by
  cases holds <;> simp [complain]

section Check

variable {rule : NumberRule} {value : Value} {r b : Binary64} {field : String}

/-- The messages of a rule about a number. -/
theorem check_eq_append (number : value.number? = some r) :
    rule.check field value =
      complain (!(rule.onlyInteger && r.hasFraction)) (wholeMessage field) ++
        NumberBound.inOrder.flatMap fun bound =>
          boundMessage field bound.label (bound.of? rule) (bound.holds r) := by
  rw [NumberRule.check, number]
  simp only [NumberBound.inOrder, List.flatMap_cons, List.flatMap_nil, List.append_nil,
    List.append_assoc]
  rfl

/-- What a bound adds to the messages. -/
theorem mem_boundMessage_iff {bound : NumberBound} {text : String} :
    text ∈ boundMessage field bound.label (bound.of? rule) (bound.holds r) ↔
      ∃ b, bound.of? rule = some b ∧ bound.holds r b = false ∧ text = bound.message field b := by
  cases limit : bound.of? rule with
  | none => simp [boundMessage]
  | some b =>
      simp only [boundMessage, mem_complain_iff, Option.some.injEq, exists_eq_left']
      rfl

theorem wholeMessage_mem_check_iff (number : value.number? = some r) :
    wholeMessage field ∈ rule.check field value ↔
      rule.onlyInteger = true ∧ ¬IsWhole r.toRat := by
  have others : ¬∃ bound ∈ NumberBound.inOrder,
      wholeMessage field ∈ boundMessage field bound.label (bound.of? rule) (bound.holds r) := by
    rintro ⟨bound, -, mem⟩
    obtain ⟨b, -, -, same⟩ := mem_boundMessage_iff.1 mem
    exact bound.message_ne_wholeMessage field b same.symm
  rw [check_eq_append number, List.mem_append, List.mem_flatMap, or_iff_left others,
    mem_complain_iff, ← Binary64.hasFraction_eq_false_iff]
  simp

theorem message_mem_check_iff (number : value.number? = some r) {bound : NumberBound}
    (limit : bound.of? rule = some b) :
    bound.message field b ∈ rule.check field value ↔ bound.holds r b = false := by
  have first : bound.message field b ∉
      complain (!(rule.onlyInteger && r.hasFraction)) (wholeMessage field) := fun mem =>
    bound.message_ne_wholeMessage field b (mem_complain_iff.1 mem).2
  rw [check_eq_append number, List.mem_append, or_iff_right first, List.mem_flatMap]
  constructor
  · rintro ⟨other, -, mem⟩
    obtain ⟨c, found, fails, same⟩ := mem_boundMessage_iff.1 mem
    obtain rfl := NumberBound.eq_of_message_eq same
    obtain rfl := Option.some.inj (limit.symm.trans found)
    exact fails
  · intro fails
    exact ⟨bound, bound.mem_inOrder, mem_boundMessage_iff.2 ⟨b, limit, fails, rfl⟩⟩

end Check

/-! ## What a constraint reports -/

/-- A text that says what a field must be, as the messages about numbers do and no others. -/
def Demands (field text : String) : Prop :=
  ∃ rest, text.toList = field.toList ++ " must be ".toList ++ rest

theorem demands_wholeMessage (field : String) : Demands field (wholeMessage field) :=
  ⟨"an integer".toList, by simp [wholeMessage]⟩

theorem NumberBound.demands_message (bound : NumberBound) (field : String) (b : Binary64) :
    Demands field (bound.message field b) :=
  ⟨_, bound.message_eq_append field b⟩

/-- Among the messages about an exact number those of the rule for numbers are told by what they
say. -/
theorem mem_check_iff_of_demands {c : Constraint} {rule : NumberRule} {value : Value} {q : ℚ}
    {field text : String} (exact : value.exactNumber? = some q)
    (limits : c.numericality = some rule) (demands : Demands field text) :
    text ∈ c.check field (some value) ↔ text ∈ rule.check field value := by
  obtain ⟨rest, said⟩ := demands
  -- The other rules go on behind the field with another word.
  have other {tail : String} (differs : ¬" must be ".toList <+: tail.toList) :
      text ≠ field ++ tail := by
    rintro rfl
    rw [String.toList_append, List.append_assoc] at said
    exact differs ⟨rest, (List.append_cancel_left said).symm⟩
  have there : present? (some value) = some value := by
    cases value <;> first | rfl | cases exact
  have lengthless : value.length? = none := by
    cases value <;> first | rfl | cases exact
  simp only [Constraint.check, there, Constraint.checkValue, limits, List.mem_append]
  constructor
  · rintro (presence | (((length | number) | inclusion) | exclusion) | format)
    · exact absurd (mem_complain_iff.1 presence).2 (other (by decide))
    · cases limited : c.length with
      | none => simp [limited] at length
      | some limit =>
          simp only [limited, LengthRule.check, lengthless, List.mem_singleton] at length
          exact absurd length (other (by decide))
    · exact number
    · cases listed : c.inclusion with
      | none => simp [listed] at inclusion
      | some values =>
          simp only [listed, mem_complain_iff] at inclusion
          exact absurd inclusion.2 (other (by decide))
    · cases listed : c.exclusion with
      | none => simp [listed] at exclusion
      | some values =>
          simp only [listed, mem_complain_iff] at exclusion
          exact absurd exclusion.2 (other (by decide))
    · cases pattern : c.format with
      | none => simp [pattern] at format
      | some regex =>
          simp only [pattern, checkFormat, mem_complain_iff] at format
          exact absurd format.2 (other (by decide))
  · intro number
    exact .inr (.inl (.inl (.inl (.inr number))))

/-! ## Exact numbers -/

section Exact

variable {c : Constraint} {rule : NumberRule} {value : Value} {q : ℚ} {r b : Binary64}
  {field : String} (limits : c.numericality = some rule) (exact : value.exactNumber? = some q)
  (number : value.number? = some r)

include limits exact number

/-- An exact number is reported as having a fraction when what is compared has one. -/
theorem wholeMessage_mem_iff :
    wholeMessage field ∈ c.check field (some value) ↔
      rule.onlyInteger = true ∧ ¬IsWhole r.toRat := by
  rw [mem_check_iff_of_demands exact limits (demands_wholeMessage field),
    wholeMessage_mem_check_iff number]

/-- An exact number is reported for a bound when what is compared fails the comparison. -/
theorem message_mem_iff {bound : NumberBound} (nearest : Nearest q r)
    (limit : bound.of? rule = some b) (finite : b.isFinite = true) :
    bound.message field b ∈ c.check field (some value) ↔ ¬bound.Admits r.toRat b.toRat := by
  rw [mem_check_iff_of_demands exact limits (bound.demands_message field b),
    message_mem_check_iff number limit, ← NumberBound.holds_iff nearest.finite finite,
    Bool.not_eq_true]

end Exact

/-- A rule for numbers judges an integer or a decimal by the floating point number nearest to it, of
which there is one. The number is reported as having a fraction when it has one and is not rounded
to a whole number. It is reported for a finite bound when what it is rounded to fails the
comparison; that is, unless it is rounded to the bound itself, when it fails the comparison. -/
theorem judges_nearest {c : Constraint} {rule : NumberRule} {value : Value} {q : ℚ}
    (limits : c.numericality = some rule) (exact : value.exactNumber? = some q) (field : String) :
    ∃ r, Nearest q r ∧ (∀ other, Nearest q other → other.toRat = r.toRat) ∧
      (wholeMessage field ∈ c.check field (some value) ↔
        rule.onlyInteger = true ∧ ¬IsWhole q ∧ ¬IsWhole r.toRat) ∧
      ∀ bound b, NumberBound.of? rule bound = some b → b.isFinite = true →
        (bound.message field b ∈ c.check field (some value) ↔ ¬bound.Admits r.toRat b.toRat) ∧
        (r.toRat ≠ b.toRat →
          (bound.message field b ∈ c.check field (some value) ↔ ¬bound.Admits q b.toRat)) := by
  obtain ⟨r, number, nearest⟩ := value.exists_nearest exact
  refine ⟨r, nearest, fun other also => also.unique nearest, ?_, fun bound b limit finite => ?_⟩
  · have rounded : ¬IsWhole r.toRat → ¬IsWhole q := mt nearest.isWhole
    rw [wholeMessage_mem_iff limits exact number, and_iff_right_of_imp rounded]
  · have judged : bound.message field b ∈ c.check field (some value) ↔
        ¬bound.Admits r.toRat b.toRat := message_mem_iff limits exact number nearest limit finite
    refine ⟨judged, fun apart => ?_⟩
    rw [judged, bound.admits_iff_of_ne nearest finite apart]

/-- A number is reported as it is: as having a fraction when it has one, and for a finite bound when
it fails the comparison. -/
structure ReportsExactly (c : Constraint) (rule : NumberRule) (value : Value) (q : ℚ)
    (field : String) : Prop where
  fraction : wholeMessage field ∈ c.check field (some value) ↔
    rule.onlyInteger = true ∧ ¬IsWhole q
  bounds : ∀ bound b, NumberBound.of? rule bound = some b → b.isFinite = true →
    (bound.message field b ∈ c.check field (some value) ↔ ¬bound.Admits q b.toRat)

section ReportsExactly

variable {c : Constraint} {rule : NumberRule} {value : Value} {q : ℚ}
  (limits : c.numericality = some rule) (exact : value.exactNumber? = some q)

include limits exact

end ReportsExactly

/-! ## A number of 54 bits -/

def beyond53Bits : NumberRule :=
  { onlyInteger := true
    greaterThan := some (Binary64.ofInt (2 ^ 53))
    greaterOrEqual := none
    lessThan := none
    lessOrEqual := none }

theorem toRat_ofInt_two_pow : (Binary64.ofInt (2 ^ 53)).toRat = 2 ^ 53 := by
  have rounded : Nearest ((2 ^ 53 : ℤ) : ℚ) (Binary64.ofInt (2 ^ 53)) :=
    Binary64.nearest_ofInt (by decide)
  rw [rounded.eq_intCast (by decide), Int.cast_pow, Int.cast_ofNat]

/-- The next number is as near to `2 ^ 53` as to the number of the format behind it, and the
significand of `2 ^ 53` is even. -/
theorem ofInt_two_pow_add_one : Binary64.ofInt (2 ^ 53 + 1) = Binary64.ofInt (2 ^ 53) := by
  decide

theorem exactNumber?_two_pow_add_one :
    (Value.int64 9007199254740993).exactNumber? = some (2 ^ 53 + 1) := by
  have integer : (9007199254740993 : Int64).toInt = 9007199254740993 := by decide
  rw [Value.exactNumber?, integer]
  norm_num

/-- The number is whole, but it is reported for the bound that it is rounded to. -/
theorem judges_nearest_of_54_bits :
    let c : Constraint := { Constraint.free with numericality := some beyond53Bits }
    let value : Value := .int64 9007199254740993
    c.numericality = some beyond53Bits ∧ value.exactNumber? = some (2 ^ 53 + 1) ∧
      wholeMessage "n" ∉ c.check "n" (some value) ∧
      NumberBound.greaterThan.message "n" (Binary64.ofInt (2 ^ 53)) ∈ c.check "n" (some value) := by
  intro c value
  obtain ⟨r, -, unique, whole, judged⟩ := judges_nearest (c := c) rfl
    exactNumber?_two_pow_add_one "n"
  have here : r.toRat = 2 ^ 53 := by
    have nearest : Nearest ((2 ^ 53 + 1 : ℤ) : ℚ) (Binary64.ofInt (2 ^ 53 + 1)) :=
      Binary64.nearest_ofInt (by decide)
    rw [ofInt_two_pow_add_one] at nearest
    rw [← toRat_ofInt_two_pow]
    exact (unique _ (by exact_mod_cast nearest)).symm
  refine ⟨rfl, exactNumber?_two_pow_add_one, ?_, ?_⟩
  · rw [whole]
    rintro ⟨-, -, fraction⟩
    exact fraction ⟨2 ^ 53, by rw [here]; norm_num⟩
  · rw [(judged .greaterThan _ rfl (by decide)).1, here, toRat_ofInt_two_pow]
    exact lt_irrefl _

def almostOne : Numeric.Decimal :=
  ⟨false, 99999999999999999999, 20, by decide, by decide⟩

/-- Numbers are not always judged as they are: one that is greater than a bound is reported as not
being greater, and one with a fraction is not reported as having one. -/
theorem not_reportsExactly :
    let c : Constraint := { Constraint.free with numericality := some beyond53Bits }
    (Value.int64 9007199254740993).exactNumber? = some (2 ^ 53 + 1) ∧
      ¬ReportsExactly c beyond53Bits (.int64 9007199254740993) (2 ^ 53 + 1) "n" ∧
      (Value.decimal almostOne).exactNumber? = some (1 - 1 / 10 ^ 20) ∧
      ¬ReportsExactly c beyond53Bits (.decimal almostOne) (1 - 1 / 10 ^ 20) "n" := by
  intro c
  have exact_decimal : (Value.decimal almostOne).exactNumber? = some (1 - 1 / 10 ^ 20) := by
    rw [Value.exactNumber?, ReadBack.decimalNumber, Numeric.Decimal.coefficient, almostOne]
    norm_num
  refine ⟨exactNumber?_two_pow_add_one, fun reports => ?_, exact_decimal, fun reports => ?_⟩
  · have number : (Value.int64 9007199254740993).number? = some (Binary64.ofInt (2 ^ 53)) := by
      rw [← ofInt_two_pow_add_one]
      rfl
    obtain ⟨r, found, nearest⟩ := Value.exists_nearest exactNumber?_two_pow_add_one
    obtain rfl := Option.some.inj (number.symm.trans found)
    have claimed := reports.bounds .greaterThan _ rfl nearest.finite
    rw [message_mem_iff rfl exactNumber?_two_pow_add_one number nearest rfl nearest.finite,
      toRat_ofInt_two_pow] at claimed
    exact claimed.1 (lt_irrefl _) (lt_add_one _)
  · have one : IsWhole almostOne.toBinary64.toRat :=
      Binary64.hasFraction_eq_false_iff.1 (by decide)
    have fraction : ¬IsWhole (1 - 1 / 10 ^ 20 : ℚ) := by
      rintro ⟨n, same⟩
      have scaled : (n * 10 ^ 20 : ℚ) = 10 ^ 20 - 1 := by
        rw [same]
        norm_num
      have scaled : n * 10 ^ 20 = 10 ^ 20 - 1 := by exact_mod_cast scaled
      omega
    have claimed := reports.fraction.2 ⟨rfl, fraction⟩
    rw [wholeMessage_mem_iff rfl exact_decimal rfl] at claimed
    exact claimed.2 one

end TableGateway

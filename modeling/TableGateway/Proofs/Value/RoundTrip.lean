import TableGateway.Value.Native

/-!
# Native values and back

Every type gives its members a variant of their own, and only an optional type has a member whose
value is null. So a member comes back from its value whatever lists and optional types its type is
made of, as long as no optional type stands directly in another one: there the value of an absent
inner member is taken for that of an absent outer one.
-/

namespace TableGateway

namespace IntegerType

attribute [local instance (high)] instPowNat

/-- The integers of a signed type are among those of 64 bits. -/
theorem Member.bounds {t : IntegerType} (n : t.Member) :
    if t.signed then -2 ^ (63 : Nat) ≤ n.val ∧ n.val < 2 ^ (63 : Nat)
    else 0 ≤ n.val ∧ n.val < 2 ^ (64 : Nat) := by
  obtain ⟨n, least, greatest⟩ := n
  obtain ⟨signed, width⟩ := t
  cases signed <;> cases width <;>
    simp [IntegerType.least, IntegerType.greatest, Width.bits] at least greatest ⊢ <;> omega

theorem toValue_ne_null {t : IntegerType} (n : t.Member) : t.toValue n ≠ .null := by
  rw [toValue]
  split <;> nofun

theorem ofValue?_toValue {t : IntegerType} (n : t.Member) : t.ofValue? (t.toValue n) = some n := by
  have bounds := n.bounds
  have given : (t.toValue n).integer? t.signed = some n.val := by
    cases signed : t.signed with
    | true =>
        rw [signed, if_pos rfl] at bounds
        rw [toValue, signed, if_pos rfl, Value.integer?]
        exact congrArg some (Int64.toInt_ofInt_of_le bounds.1 bounds.2)
    | false =>
        rw [signed, if_neg nofun] at bounds
        rw [toValue, signed, if_neg nofun, Value.integer?, UInt64.toNat_ofNat']
        have small : n.val.toNat % 2 ^ 64 = n.val.toNat := Nat.mod_eq_of_lt (by omega)
        rw [small, Int.toNat_of_nonneg bounds.1]
  rw [ofValue?, given, Option.bind_some, member?, dif_pos ⟨n.least_le, n.le_greatest⟩]

end IntegerType

namespace NativeType

def isOption : NativeType → Bool
  | option _ => true
  | _ => false

/-- No number of the type has single precision. -/
def isDouble : NativeType → Bool
  | single => false
  | option inner => inner.isDouble
  | list inner => inner.isDouble
  | _ => true

/-- No optional type stands directly in another one. -/
def optionsApart : NativeType → Bool
  | option inner => !inner.isOption && inner.optionsApart
  | list inner => inner.optionsApart
  | _ => true

def Returns {t : NativeType} (x : t.Member) : Prop :=
  t.ofValue (t.toValue x) = .ok x

/-! ## Null -/

theorem toValue_ne_null {t : NativeType} (solid : t.isOption = false) (x : t.Member) :
    t.toValue x ≠ .null := by
  cases t with
  | integer t => exact IntegerType.toValue_ne_null x
  | option inner => cases solid
  | _ => nofun

theorem ofValue_option_of_ne_null {inner : NativeType} {value : Value} (there : value ≠ .null) :
    (option inner).ofValue value = (inner.ofValue value).map some := by
  cases value with
  | null => exact absurd rfl there
  | _ => rfl

/-! ## Lists -/

theorem ofItems_map {α β : Type} {convert : Value → Except ConversionError α} {f : β → Value}
    {g : β → α} {xs : List β} (each : ∀ x ∈ xs, convert (f x) = .ok (g x)) :
    ofItems convert (xs.map f) = .ok (xs.map g) := by
  induction xs with
  | nil => rfl
  | cons x xs ih =>
      obtain ⟨first, others⟩ := List.forall_mem_cons.1 each
      rw [List.map_cons, ofItems, first, ih others]
      rfl

theorem returns_list {inner : NativeType} {xs : List inner.Member} (each : ∀ x ∈ xs, Returns x) :
    Returns (t := list inner) xs := by
  have items := ofItems_map (g := id) each
  rw [List.map_id] at items
  exact items

/-! ## All types -/

/-- Every member of a type comes back from its value, if no optional type stands directly in another
one. -/
theorem returns_of_optionsApart {t : NativeType} (double : t.isDouble = true)
    (apart : t.optionsApart = true) (x : t.Member) : Returns x := by
  induction t with
  | single => cases double
  | integer t => exact orMismatch_eq_ok_iff.2 (IntegerType.ofValue?_toValue x)
  | option inner ih =>
      obtain ⟨solid, apart⟩ := (Bool.and_eq_true _ _).mp apart
      cases x with
      | none => rfl
      | some x =>
          have there : inner.toValue x ≠ .null := toValue_ne_null (Bool.not_eq_true' _ ▸ solid) x
          have inside : inner.ofValue (inner.toValue x) = .ok x := ih double apart x
          change (option inner).ofValue (inner.toValue x) = .ok (some x)
          rw [ofValue_option_of_ne_null there, inside]
          rfl
  | list inner ih => exact returns_list fun y _ => ih double apart y
  | _ => rfl

/-- Where an optional type stands directly in another one, some member does not come back. -/
theorem exists_not_returns {t : NativeType} (nested : t.optionsApart = false) :
    ∃ x : t.Member, ¬Returns x := by
  induction t with
  | option inner ih =>
      cases kind : inner.isOption with
      | true =>
          cases inner with
          | option inner =>
              -- Its value is null, and that is read as the absence of the outer member.
              refine ⟨some none, ?_⟩
              intro same
              cases same
          | _ => cases kind
      | false =>
          rw [optionsApart, kind] at nested
          obtain ⟨x, differs⟩ := ih nested
          refine ⟨some x, ?_⟩
          intro same
          apply differs
          change (option inner).ofValue (inner.toValue x) = .ok (some x) at same
          rw [ofValue_option_of_ne_null (toValue_ne_null kind x)] at same
          cases back : inner.ofValue (inner.toValue x) with
          | error e =>
              rw [back] at same
              cases same
          | ok y =>
              rw [back] at same
              exact back.trans (congrArg Except.ok (Option.some.inj (Except.ok.inj same)))
  | list inner ih =>
      obtain ⟨x, differs⟩ := ih nested
      refine ⟨[x], ?_⟩
      intro same
      apply differs
      change ofItems inner.ofValue [inner.toValue x] = .ok [x] at same
      cases back : inner.ofValue (inner.toValue x) with
      | error e =>
          rw [ofItems, back] at same
          cases same
      | ok y =>
          rw [ofItems, back] at same
          exact back.trans (congrArg Except.ok (List.cons.inj (Except.ok.inj same)).1)
  | _ => cases nested

/-- Of a type without single precision all members come back from their values, bit by bit and place
by place, exactly when no optional type stands directly in another one. -/
theorem returns_iff_optionsApart {t : NativeType} (double : t.isDouble = true) :
    (∀ x : t.Member, t.ofValue (t.toValue x) = .ok x) ↔ t.optionsApart = true := by
  constructor
  · intro returns
    cases apart : t.optionsApart with
    | true => rfl
    | false =>
        obtain ⟨x, differs⟩ := exists_not_returns apart
        exact absurd (returns x) differs
  · exact returns_of_optionsApart double

/-- Absent numbers in a list that may itself be absent. -/
theorem returns_absent_in_list :
    let t : NativeType := .option (.list (.option .double))
    let x : t.Member := some [none, some Numeric.Binary64.nan]
    t.isDouble = true ∧ t.optionsApart = true ∧ t.ofValue (t.toValue x) = .ok x := by
  intro t x
  exact ⟨rfl, rfl, (returns_iff_optionsApart rfl).2 rfl x⟩

end NativeType

end TableGateway

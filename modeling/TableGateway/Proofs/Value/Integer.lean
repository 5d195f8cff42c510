import TableGateway.Proofs.ReadBack.Numeral
import TableGateway.Proofs.Text.Layout
import TableGateway.Value.Native

/-!
# Conversion to integers

What integer a value denotes is said here without the conversion: by the number in it, by the whole
number that a coefficient and its scale are, or by the sign and the digits between the blanks of a
text. A conversion to an integer type gives exactly the integer that a value denotes, when the type
holds it, and else fails. A decimal is converted through its text, of which nothing but the digits
of the whole number is left once its zeros are stripped. The sign of a zero, which an unsigned type
would refuse, is stripped with them.
-/

namespace TableGateway

open Numeric (Decimal digits integerText readDigits? readInteger? readNatural?)
open ReadBack (digits_ne_nil integerText_eq isDigit_digits ofDigitChars_digits signText)
open Text (IsGap IsSolid exists_trim_append isBlank trim trim_append)

/-! ## Integers in digits -/

/-- What may stand in front of the digits of a number, and the integer that is then written. A minus
is for signed types only. -/
inductive Signs (signed : Bool) (n : Nat) : List Char → Int → Prop where
  | plain : Signs signed n [] n
  | plus : Signs signed n ['+'] n
  | minus (allowed : signed = true) : Signs signed n ['-'] (-n)

/-- A sign, if any, and one or more ASCII digits. -/
inductive WritesInteger (signed : Bool) : List Char → Int → Prop where
  | digits {sign ds : List Char} {n : Int} (ne_nil : ds ≠ [])
      (all : ∀ c ∈ ds, c.isDigit = true) (signs : Signs signed (Nat.ofDigitChars 10 ds 0) sign n) :
      WritesInteger signed (sign ++ ds) n

theorem readDigits?_eq_some_iff {text : List Char} {n : Nat} :
    readDigits? text = some n ↔
      text ≠ [] ∧ (∀ c ∈ text, c.isDigit = true) ∧ Nat.ofDigitChars 10 text 0 = n := by
  cases text with
  | nil => simp [readDigits?]
  | cons c text => simp [readDigits?, and_assoc]

/-- Digits have no sign in front of them. -/
theorem readNatural?_of_digits {ds : List Char} (ne_nil : ds ≠ [])
    (all : ∀ c ∈ ds, c.isDigit = true) :
    readNatural? ds = readDigits? ds ∧ readInteger? ds = (readDigits? ds).map Int.ofNat := by
  obtain ⟨c, more, rfl⟩ := List.exists_cons_of_ne_nil ne_nil
  have digit := all c List.mem_cons_self
  have plus : c ≠ '+' := by
    rintro rfl
    cases digit
  have minus : c ≠ '-' := by
    rintro rfl
    cases digit
  constructor
  · unfold readNatural?
    split
    · next same => exact absurd (List.cons.inj same).1 plus
    · rfl
  · unfold readInteger?
    split
    · next same => exact absurd (List.cons.inj same).1 minus
    · next same => exact absurd (List.cons.inj same).1 plus
    · rfl

theorem readInteger?_minus (text : List Char) :
    readInteger? ('-' :: text) = (readDigits? text).map fun m : Nat => -(m : Int) := by
  rw [readInteger?]
  cases readDigits? text <;> rfl

theorem readNatural?_minus (text : List Char) : readNatural? ('-' :: text) = none := by
  change readDigits? ('-' :: text) = none
  simp [readDigits?]

theorem WritesInteger.of_readDigits? {signed : Bool} {sign text : List Char} {m : Nat} {n : Int}
    (read : readDigits? text = some m) (signs : Signs signed m sign n) :
    WritesInteger signed (sign ++ text) n := by
  obtain ⟨ne_nil, all, rfl⟩ := readDigits?_eq_some_iff.1 read
  exact .digits ne_nil all signs

/-- Reading finds the integer that a text writes, and none in any other text. -/
theorem writtenInteger?_eq_some_iff {signed : Bool} {text : List Char} {n : Int} :
    writtenInteger? signed text = some n ↔ WritesInteger signed text n := by
  constructor
  · intro read
    cases signed with
    | false =>
        obtain ⟨m, natural, rfl⟩ := Option.map_eq_some_iff.1 read
        unfold readNatural? at natural
        split at natural
        · exact .of_readDigits? natural .plus
        · exact .of_readDigits? natural .plain
    | true =>
        change readInteger? text = some n at read
        unfold readInteger? at read
        split at read
        · next rest =>
            change readInteger? ('-' :: rest) = some n at read
            rw [readInteger?_minus] at read
            obtain ⟨m, digits, rfl⟩ := Option.map_eq_some_iff.1 read
            exact .of_readDigits? digits (.minus rfl)
        · obtain ⟨m, digits, rfl⟩ := Option.map_eq_some_iff.1 read
          exact .of_readDigits? digits .plus
        · obtain ⟨m, digits, rfl⟩ := Option.map_eq_some_iff.1 read
          exact .of_readDigits? digits .plain
  · rintro ⟨ne_nil, all, signs⟩
    have read := readDigits?_eq_some_iff.2 ⟨ne_nil, all, rfl⟩
    cases signs with
    | plain =>
        obtain ⟨natural, integer⟩ := readNatural?_of_digits ne_nil all
        rw [List.nil_append]
        cases signed with
        | false => exact congrArg (Option.map Int.ofNat) (natural.trans read)
        | true => exact integer.trans (congrArg (Option.map Int.ofNat) read)
    | plus => cases signed <;> exact congrArg (Option.map Int.ofNat) read
    | minus allowed =>
        rw [allowed]
        exact (readInteger?_minus _).trans (congrArg (Option.map fun m : Nat => -(m : Int)) read)

/-- The text of an integer is read back, unless it has a minus that is not allowed. -/
theorem writtenInteger?_integerText {signed : Bool} {n m : Int} (allowed : signed = true ∨ 0 ≤ m) :
    writtenInteger? signed (integerText n) = some m ↔ n = m := by
  by_cases negative : n < 0
  · rw [integerText_eq, signText, if_pos (decide_eq_true negative)]
    cases signed with
    | false =>
        have refused : writtenInteger? false (['-'] ++ digits n.natAbs) = none :=
          congrArg (Option.map Int.ofNat) (readNatural?_minus (digits n.natAbs))
        rw [refused]
        constructor
        · rintro ⟨⟩
        · rintro rfl
          exact absurd (allowed.resolve_left Bool.false_ne_true) (Int.not_le.2 negative)
    | true =>
        have read : writtenInteger? true (['-'] ++ digits n.natAbs) = some n := by
          have writes : WritesInteger true (['-'] ++ digits n.natAbs) _ :=
            .digits (digits_ne_nil n.natAbs) (fun _ => isDigit_digits) (.minus rfl)
          rw [ofDigitChars_digits, ← Int.eq_neg_natAbs_of_nonpos (Int.le_of_lt negative)] at writes
          exact writtenInteger?_eq_some_iff.2 writes
        rw [read, Option.some.injEq]
  · have read : writtenInteger? signed (integerText n) = some n := by
      have writes : WritesInteger signed ([] ++ digits n.natAbs) _ :=
        .digits (digits_ne_nil n.natAbs) (fun _ => isDigit_digits) .plain
      rw [ofDigitChars_digits, Int.natAbs_of_nonneg (Int.not_lt.1 negative)] at writes
      rw [integerText_eq, signText, if_neg (by simpa using negative)]
      exact writtenInteger?_eq_some_iff.2 writes
    rw [read, Option.some.injEq]

/-! ## Whole decimals -/

namespace Numeric.Decimal

theorem isZero_fract_iff (x : Decimal) :
    x.fract.isZero = true ↔ ∃ n : Int, x.coefficient = n * 10 ^ x.scale := by
  rw [isZero, beq_iff_eq]
  change x.magnitude % 10 ^ x.scale = 0 ↔ _
  rw [← Nat.dvd_iff_mod_eq_zero, ← natAbs_coefficient, ← Int.natCast_dvd, Nat.cast_pow]
  exact ⟨fun ⟨n, same⟩ => ⟨n, same.trans (Int.mul_comm _ _)⟩,
    fun ⟨n, same⟩ => ⟨n, same.trans (Int.mul_comm _ _)⟩⟩

/-- Of a whole number all places are stripped. -/
theorem stripZeros_mul (n scale : Nat) : stripZeros (n * 10 ^ scale) scale = (n, 0) := by
  induction scale with
  | zero => rw [Nat.pow_zero, Nat.mul_one, stripZeros]
  | succ scale ih =>
      rw [stripZeros, Nat.pow_succ, ← Nat.mul_assoc, if_pos (Nat.mul_mod_left _ _),
        Nat.mul_div_cancel _ (by decide), ih]

/-- A whole number is left with its digits, behind a minus when it is below zero. -/
theorem text_normalize {x : Decimal} {n : Int} (whole : x.coefficient = n * 10 ^ x.scale) :
    x.normalize.text = integerText n := by
  have positive : (0 : Int) < 10 ^ x.scale := Int.pow_pos (by decide)
  have magnitude : x.magnitude = n.natAbs * 10 ^ x.scale := by
    rw [← natAbs_coefficient, whole, Int.natAbs_mul, Int.natAbs_pow]
    rfl
  have stripped := magnitude ▸ stripZeros_mul n.natAbs x.scale
  have sign : x.normalize.negative = decide (n < 0) := by
    have below : n * 10 ^ x.scale < 0 * 10 ^ x.scale ↔ n < 0 := Int.mul_lt_mul_right positive
    rw [Int.zero_mul] at below
    rw [normalize, ← isNegative_coefficient, whole]
    exact decide_eq_decide.2 below
  have left : x.normalize.magnitude = n.natAbs := congrArg Prod.fst stripped
  have scale : x.normalize.scale = 0 := congrArg Prod.snd stripped
  rw [text, scale, left, sign, integerText_eq, signText]
  simp

/-- The text of a zero shows its sign, and the normalized text does not. -/
example :
    let zero : Decimal := ⟨true, 0, 2, by decide, by decide⟩
    zero.text = "-0.00".toList ∧ zero.normalize.text = "0".toList := by decide

end Numeric.Decimal

/-! ## Values -/

namespace Value

/-- The integer that a value denotes for a signed or an unsigned type. -/
inductive Denotes (signed : Bool) : Value → Int → Prop where
  | int64 (n : Int64) : Denotes signed (.int64 n) n.toInt
  | uint64 (n : UInt64) : Denotes signed (.uint64 n) n.toNat
  | false : Denotes signed (.boolean false) 0
  | true : Denotes signed (.boolean true) 1
  | decimal {d : Decimal} {n : Int} (whole : d.coefficient = n * 10 ^ d.scale) :
      Denotes signed (.decimal d) n
  | varchar {text : String} {before number after : List Char} {n : Int}
      (parts : text.toList = before ++ (number ++ after)) (front : IsGap before)
      (back : IsGap after) (writes : WritesInteger signed number n) :
      Denotes signed (.varchar text) n

end Value

theorem isBlank_of_isDigit {c : Char} (digit : c.isDigit = true) : isBlank c = false := by
  have bounds := Char.isDigit_iff_toNat.1 digit
  simp only [Char.reduceToNat] at bounds
  exact Text.isBlank_of_ascii (by omega) (by omega)

theorem WritesInteger.isSolid {signed : Bool} {text : List Char} {n : Int}
    (writes : WritesInteger signed text n) : IsSolid text := by
  obtain ⟨ne_nil, all, signs⟩ := writes
  refine ⟨List.append_ne_nil_of_right_ne_nil _ ne_nil, ?_⟩
  intro c mem
  rcases List.mem_append.1 mem with mem | mem
  · cases signs with
    | plain => cases mem
    | plus =>
        obtain rfl := List.mem_singleton.1 mem
        decide
    | minus =>
        obtain rfl := List.mem_singleton.1 mem
        decide
  · exact isBlank_of_isDigit (all c mem)

namespace Value

theorem integer?_decimal_eq_some_iff {signed : Bool} {d : Decimal} {n : Int}
    (allowed : signed = true ∨ 0 ≤ n) :
    (decimal d).integer? signed = some n ↔ d.coefficient = n * 10 ^ d.scale := by
  rw [integer?]
  by_cases whole : d.fract.isZero = true
  · obtain ⟨m, same⟩ := d.isZero_fract_iff.1 whole
    have positive : (10 : Int) ^ d.scale ≠ 0 := Int.pow_ne_zero (by decide)
    rw [if_pos whole, Decimal.text_normalize same, writtenInteger?_integerText allowed, same,
      Int.mul_eq_mul_right_iff positive]
  · rw [if_neg whole]
    constructor
    · nofun
    · intro same
      exact absurd (d.isZero_fract_iff.2 ⟨n, same⟩) whole

theorem integer?_varchar_eq_some_iff {signed : Bool} {text : String} {n : Int} :
    (varchar text).integer? signed = some n ↔ (varchar text).Denotes signed n := by
  rw [integer?, writtenInteger?_eq_some_iff]
  constructor
  · intro writes
    obtain ⟨before, after, parts, front, back⟩ := exists_trim_append text.toList
    exact .varchar parts front back writes
  · rintro (_ | _ | _ | _ | _ | ⟨parts, front, back, writes⟩)
    rw [parts, trim_append front writes.isSolid back]
    exact writes

/-- For a type that can hold it, a value gives the integer that it denotes and no other. -/
theorem integer?_eq_some_iff {signed : Bool} {value : Value} {n : Int}
    (allowed : signed = true ∨ 0 ≤ n) :
    value.integer? signed = some n ↔ value.Denotes signed n := by
  cases value with
  | int64 m =>
      constructor
      · intro same
        exact Option.some.inj same ▸ .int64 m
      · rintro ⟨⟩
        rfl
  | uint64 m =>
      constructor
      · intro same
        exact Option.some.inj same ▸ .uint64 m
      · rintro ⟨⟩
        rfl
  | boolean b =>
      constructor
      · intro same
        obtain rfl := Option.some.inj same
        cases b with
        | false => exact .false
        | true => exact .true
      · rintro ⟨⟩ <;> rfl
  | decimal d =>
      rw [integer?_decimal_eq_some_iff allowed]
      constructor
      · exact .decimal
      · rintro (_ | _ | _ | _ | whole)
        exact whole
  | varchar text => exact integer?_varchar_eq_some_iff
  | _ =>
      constructor
      · nofun
      · nofun

/-- A zero with a sign is an integer of an unsigned type too. -/
example : (decimal ⟨true, 0, 2, by decide, by decide⟩).integer? false = some 0 := by decide

end Value

/-! ## Types -/

namespace IntegerType

theorem member?_eq_some_iff {t : IntegerType} {n : Int} {m : t.Member} :
    t.member? n = some m ↔ n = m.val := by
  obtain ⟨m, least, greatest⟩ := m
  rw [member?]
  split
  case isTrue held => simp
  case isFalse out =>
    constructor
    · nofun
    · rintro rfl
      exact absurd ⟨least, greatest⟩ out

theorem Member.allowed {t : IntegerType} (m : t.Member) : t.signed = true ∨ 0 ≤ m.val := by
  cases signed : t.signed with
  | true => exact .inl rfl
  | false =>
      have least := m.least_le
      rw [IntegerType.least, signed] at least
      exact .inr least

theorem ofValue?_eq_some_iff {t : IntegerType} {value : Value} {m : t.Member} :
    t.ofValue? value = some m ↔ value.Denotes t.signed m.val := by
  rw [← Value.integer?_eq_some_iff m.allowed, ofValue?, Option.bind_eq_some_iff]
  constructor
  · rintro ⟨n, gives, held⟩
    rw [gives, member?_eq_some_iff.1 held]
  · intro gives
    exact ⟨m.val, gives, member?_eq_some_iff.2 rfl⟩

end IntegerType

namespace NativeType

/-- A conversion to an integer type succeeds exactly when the value denotes an integer that the type
holds, and then it gives that integer. All other values are a mismatch. -/
theorem converts_exactly (t : IntegerType) (value : Value) :
    (∀ m : t.Member, ofValue (integer t) value = .ok m ↔ value.Denotes t.signed m.val) ∧
    ((∃ m : t.Member, ofValue (integer t) value = .ok m) ↔
      ∃ n, value.Denotes t.signed n ∧ t.least ≤ n ∧ n ≤ t.greatest) ∧
    ∀ e, ofValue (integer t) value = .error e → e = .mismatch value t.name := by
  have gives : ∀ m : t.Member,
      ofValue (integer t) value = .ok m ↔ value.Denotes t.signed m.val := fun m =>
    orMismatch_eq_ok_iff.trans IntegerType.ofValue?_eq_some_iff
  refine ⟨gives, ?_, fun e failed => (orMismatch_eq_error_iff.1 failed).2.symm⟩
  constructor
  · rintro ⟨m, converted⟩
    exact ⟨m.val, (gives m).1 converted, m.least_le, m.le_greatest⟩
  · rintro ⟨n, denotes, least, greatest⟩
    exact ⟨⟨n, least, greatest⟩, (gives _).2 denotes⟩

end NativeType

end TableGateway

import TableGateway.Numeric.Decimal
import TableGateway.Numeric.Shortest
import TableGateway.Proofs.ReadBack.Numeral

/-!
# What a number is written as

Integers, decimals with their places and finite floating point numbers are written as numerals
behind a sign, so the reader takes each of them back: an integer and a decimal as the exact number,
a floating point number as the shortest decimal that stands for it.
-/

namespace TableGateway.ReadBack

open Numeric (Binary64 Decimal FloatStyle digits exponentText integerText
  length_paddedDigits_of_lt paddedDigits positionalText)

/-- The exact number of a decimal. -/
def decimalNumber (d : Decimal) : ℚ :=
  d.coefficient * (10 : ℚ) ^ (-(d.scale : Int))

/-- The decimal that a finite number is written as: the shortest one that rounds to it. -/
def floatNumber (x : Binary64) : ℚ :=
  if x.isZero then 0
  else
    signed x.isNegative
      ((x.shortest .toEven).digits * (10 : ℚ) ^ (x.shortest .toEven).exponent)

def IsNumeral (text : List Char) (q : ℚ) : Prop :=
  ∃ n : Numeral, n.text = text ∧ n.value = q

/-- A text is a numeral behind a sign for a number. -/
def Writes (text : List Char) (q : ℚ) : Prop :=
  ∃ negative number, ∃ unsigned, IsNumeral unsigned number ∧
    text = signText negative ++ unsigned ∧ q = signed negative number

theorem IsNumeral.writes {text : List Char} {q : ℚ} (numeral : IsNumeral text q)
    (negative : Bool) : Writes (signText negative ++ text) (signed negative q) :=
  ⟨negative, q, text, numeral, rfl, rfl⟩

theorem Writes.readNumber {text rest : List Char} {q : ℚ} (written : Writes text q)
    (ends : NumberOver rest) : readNumber (text ++ rest) = some (q, rest) := by
  obtain ⟨negative, number, unsigned, ⟨n, rfl, rfl⟩, rfl, rfl⟩ := written
  rw [List.append_assoc]
  exact readNumber_text negative n ends

/-- A number starts with a minus sign or a digit. -/
theorem Writes.exists_cons {text : List Char} {q : ℚ} (written : Writes text q) :
    ∃ c rest, text = c :: rest ∧ (c = '-' ∨ c.isDigit = true) := by
  obtain ⟨negative, number, unsigned, ⟨n, rfl, -⟩, rfl, -⟩ := written
  cases negative with
  | true => exact ⟨'-', n.text, rfl, .inl rfl⟩
  | false =>
      obtain ⟨d, more, shape⟩ := List.exists_cons_of_ne_nil n.whole_ne_nil
      refine ⟨d, more ++ (Numeral.pointText n.places ++ Numeral.powerText n.exponent), ?_,
        .inr (n.isDigit_whole d (by simp [shape]))⟩
      simp [signText, Numeral.text, shape]

/-! ## Integers -/

theorem isNumeral_digits (n : Nat) : IsNumeral (digits n) n := by
  refine ⟨⟨digits n, [], none, digits_ne_nil n, fun _ mem => isDigit_digits mem, by simp⟩, ?_, ?_⟩
  · simp [Numeral.text, Numeral.pointText, Numeral.powerText]
  · simp [Numeral.value, decimalValue, ofDigitChars_digits]

theorem writes_digits (n : Nat) : Writes (digits n) n :=
  (isNumeral_digits n).writes false

theorem signed_cast (negative : Bool) (n : Nat) :
    signed negative (n : ℚ) = ((signed negative (n : Int) : Int) : ℚ) := by
  cases negative <;> simp [signed]

theorem writes_integerText (i : Int) : Writes (integerText i) i := by
  have written := (isNumeral_digits i.natAbs).writes (decide (i < 0))
  rwa [← integerText_eq, signed_cast, signed_natAbs] at written

/-! ## Decimals -/

theorem isDigit_paddedDigits {width n : Nat} {c : Char} (mem : c ∈ paddedDigits width n) :
    c.isDigit = true := by
  rcases List.mem_append.1 mem with zero | digit
  · rw [List.eq_of_mem_replicate zero]
    rfl
  · exact isDigit_digits digit

theorem ofDigitChars_paddedDigits (width n : Nat) :
    Nat.ofDigitChars 10 (paddedDigits width n) 0 = n := by
  rw [paddedDigits, Nat.ofDigitChars_append, Nat.ofDigitChars_replicate_zero, Nat.mul_zero,
    ofDigitChars_digits]

/-- The digits in front of the point and behind it together are those of the coefficient. -/
theorem ofDigitChars_split {scale : Nat} (positive : 0 < scale) (n : Nat) :
    Nat.ofDigitChars 10 (digits (n / 10 ^ scale) ++ paddedDigits scale (n % 10 ^ scale)) 0 =
      n := by
  have short : n % 10 ^ scale < 10 ^ scale := Nat.mod_lt n (Nat.pow_pos (by decide))
  rw [Nat.ofDigitChars_append, ofDigitChars_digits, Nat.ofDigitChars_eq_ofDigitChars_zero,
    ofDigitChars_paddedDigits, length_paddedDigits_of_lt positive short]
  exact Nat.div_add_mod n (10 ^ scale)

theorem pointText_of_ne_nil {places : List Char} (nonempty : places ≠ []) :
    Numeral.pointText places = '.' :: places := by
  obtain ⟨place, more, rfl⟩ := List.exists_cons_of_ne_nil nonempty
  rfl

/-- Digits with a point among them, or behind all of them, are a numeral. -/
theorem isNumeral_places {n : Nat} {whole places : List Char} (nonempty : whole ≠ [])
    (further : places ≠ []) (all : ∀ c ∈ whole ++ places, c.isDigit = true)
    (number : Nat.ofDigitChars 10 (whole ++ places) 0 = n) :
    IsNumeral (whole ++ '.' :: places) (n * (10 : ℚ) ^ (-(places.length : Int))) := by
  have front : ∀ c ∈ whole, c.isDigit = true := fun c mem => all c (by simp [mem])
  have back : ∀ c ∈ places, c.isDigit = true := fun c mem => all c (by simp [mem])
  refine ⟨⟨whole, places, none, nonempty, front, back⟩, ?_, ?_⟩
  · simp [Numeral.text, Numeral.powerText, pointText_of_ne_nil further]
  · simp [Numeral.value, decimalValue, number]

theorem signed_mul (negative : Bool) (a b : ℚ) :
    signed negative (a * b) = signed negative a * b := by
  cases negative <;> simp [signed]

theorem isNumeral_decimal (a scale : Nat) :
    IsNumeral
      (digits (a / 10 ^ scale) ++
        if scale = 0 then [] else '.' :: paddedDigits scale (a % 10 ^ scale))
      (a * (10 : ℚ) ^ (-(scale : Int))) := by
  by_cases h : scale = 0
  · simpa [h] using isNumeral_digits a
  · have positive : 0 < scale := Nat.pos_of_ne_zero h
    have short : a % 10 ^ scale < 10 ^ scale := Nat.mod_lt a (Nat.pow_pos (by decide))
    have length := length_paddedDigits_of_lt positive short
    have further : paddedDigits scale (a % 10 ^ scale) ≠ [] := by
      intro empty
      rw [empty] at length
      exact h length.symm
    have all : ∀ c ∈ digits (a / 10 ^ scale) ++ paddedDigits scale (a % 10 ^ scale),
        c.isDigit = true := by
      intro c mem
      rcases List.mem_append.1 mem with whole | places
      · exact isDigit_digits whole
      · exact isDigit_paddedDigits places
    have numeral := isNumeral_places (digits_ne_nil _) further all (ofDigitChars_split positive a)
    rw [length] at numeral
    rwa [if_neg h]

theorem writes_decimal (d : Decimal) : Writes d.text (decimalNumber d) := by
  have written := (isNumeral_decimal d.magnitude d.scale).writes d.negative
  rw [signed_mul, signed_cast] at written
  have same : d.text = signText d.negative ++
      (digits (d.magnitude / 10 ^ d.scale) ++
        if d.scale = 0 then [] else '.' :: paddedDigits d.scale (d.magnitude % 10 ^ d.scale)) :=
    List.append_assoc _ _ _
  rwa [← same] at written

/-- Neither the scale nor the sign of a zero tells two decimals apart. -/
theorem same_iff_decimalNumber_eq {x y : Decimal} :
    x.same y = true ↔ decimalNumber x = decimalNumber y := by
  have power : ∀ scale : Nat, (10 : ℚ) ^ scale ≠ 0 := fun _ => pow_ne_zero _ (by norm_num)
  rw [Decimal.same, beq_iff_eq, decimalNumber, decimalNumber, zpow_neg, zpow_neg, zpow_natCast,
    zpow_natCast, ← div_eq_mul_inv, ← div_eq_mul_inv, div_eq_div_iff (power _) (power _)]
  exact_mod_cast Iff.rfl

/-! ## Floating point numbers -/

theorem isNumeral_whole (n k : Nat) :
    IsNumeral (digits n ++ List.replicate k '0' ++ ['.', '0']) (n * (10 : ℚ) ^ (k : Int)) := by
  have all : ∀ c ∈ (digits n ++ List.replicate k '0') ++ ['0'], c.isDigit = true := by
    intro c mem
    simp only [List.mem_append, List.mem_replicate, List.mem_singleton] at mem
    rcases mem with (digit | ⟨-, rfl⟩) | rfl
    · exact isDigit_digits digit
    · rfl
    · rfl
  have number : Nat.ofDigitChars 10 ((digits n ++ List.replicate k '0') ++ ['0']) 0 =
      10 * (10 ^ k * n) := by
    simp [Nat.ofDigitChars_append, ofDigitChars_digits, Nat.ofDigitChars_cons]
  have numeral := isNumeral_places (by simp [digits_ne_nil]) (by simp) all number
  have value : ((10 * (10 ^ k * n) : Nat) : ℚ) * (10 : ℚ) ^ (-((['0'].length : Nat) : Int)) =
      n * (10 : ℚ) ^ (k : Int) := by
    push_cast
    simp
    ring
  rwa [value] at numeral

/-- Digits of which the last ones, but not all, are put behind a point. -/
theorem isNumeral_pointed {ds : List Char} {n places : Nat} (positive : 0 < places)
    (longer : places < ds.length) (all : ∀ c ∈ ds, c.isDigit = true)
    (number : Nat.ofDigitChars 10 ds 0 = n) :
    IsNumeral (ds.take (ds.length - places) ++ '.' :: ds.drop (ds.length - places))
      (n * (10 : ℚ) ^ (-(places : Int))) := by
  have joined : ds.take (ds.length - places) ++ ds.drop (ds.length - places) = ds :=
    List.take_append_drop _ ds
  have behind : (ds.drop (ds.length - places)).length = places := by
    rw [List.length_drop]
    omega
  have front : ds.take (ds.length - places) ≠ [] := by
    refine List.ne_nil_of_length_pos ?_
    rw [List.length_take]
    omega
  have back : ds.drop (ds.length - places) ≠ [] := by
    refine List.ne_nil_of_length_pos ?_
    rwa [behind]
  have same : Nat.ofDigitChars 10
      (ds.take (ds.length - places) ++ ds.drop (ds.length - places)) 0 = n := by rwa [joined]
  have numeral := isNumeral_places front back (by rwa [joined]) same
  rwa [behind] at numeral

theorem isNumeral_positionalText (n : Nat) (e : Int) :
    IsNumeral (positionalText true n e) (n * (10 : ℚ) ^ e) := by
  by_cases whole : 0 ≤ e
  · obtain ⟨k, rfl⟩ := Int.eq_ofNat_of_zero_le whole
    simpa [positionalText] using isNumeral_whole n k
  · obtain ⟨k, rfl⟩ : ∃ k : Nat, e = -((k + 1 : Nat) : Int) := ⟨(-e).toNat - 1, by omega⟩
    have places : (- -((k + 1 : Nat) : Int)).toNat = k + 1 := by omega
    have all : ∀ c ∈ List.replicate (k + 1 + 1 - (digits n).length) '0' ++ digits n,
        c.isDigit = true := fun _ mem => isDigit_paddedDigits mem
    have longer : k + 1 <
        (List.replicate (k + 1 + 1 - (digits n).length) '0' ++ digits n).length := by
      rw [List.length_append, List.length_replicate]
      omega
    have numeral := isNumeral_pointed (Nat.succ_pos k) longer all
      (ofDigitChars_paddedDigits (k + 1 + 1) n)
    rwa [positionalText, if_neg whole, places]

theorem isNumeral_exponentText (n : Nat) (e : Int) :
    IsNumeral (exponentText n (e + ((digits n).length : Int) - 1)) (n * (10 : ℚ) ^ e) := by
  obtain ⟨d, more, shape⟩ := List.exists_cons_of_ne_nil (digits_ne_nil n)
  have all : ∀ c ∈ d :: more, c.isDigit = true := fun c mem => isDigit_digits (shape ▸ mem)
  refine ⟨⟨[d], more, some (e + ((digits n).length : Int) - 1), by simp,
    fun c mem => all c (by simp_all), fun c mem => all c (by simp [mem])⟩, ?_, ?_⟩
  · rw [exponentText, shape]
    cases more with
    | nil => rfl
    | cons next more => rfl
  · have number : Nat.ofDigitChars 10 (d :: more) 0 = n := shape ▸ ofDigitChars_digits n
    have order : e + ((digits n).length : Int) - 1 - (more.length : Int) = e := by
      rw [shape, List.length_cons]
      omega
    simp only [Numeral.value, decimalValue, List.singleton_append, number, Option.getD_some, order]

theorem isNumeral_unsignedText (x : Binary64) :
    IsNumeral (x.unsignedText FloatStyle.statement)
      (if x.isZero then 0
      else (x.shortest .toEven).digits * (10 : ℚ) ^ (x.shortest .toEven).exponent) := by
  unfold Binary64.unsignedText
  split
  · have zero := isNumeral_positionalText 0 0
    rw [Nat.cast_zero, zero_mul] at zero
    exact zero
  · let order := (x.shortest .toEven).exponent +
      ((digits (x.shortest .toEven).digits).length : Int) - 1
    change IsNumeral
      (if FloatStyle.statement.positional order then
        positionalText true (x.shortest .toEven).digits (x.shortest .toEven).exponent
      else exponentText (x.shortest .toEven).digits order) _
    split
    · exact isNumeral_positionalText _ _
    · exact isNumeral_exponentText _ _

theorem writes_float {x : Binary64} (finite : x.isFinite = true) :
    Writes (x.text FloatStyle.statement) (floatNumber x) := by
  have number : x.isNaN = false := by
    simp only [Binary64.isFinite, Binary64.isNaN, decide_eq_true_eq, decide_eq_false_iff_not]
      at finite ⊢
    omega
  have written := (isNumeral_unsignedText x).writes x.isNegative
  have same : x.text FloatStyle.statement =
      signText x.isNegative ++ x.unsignedText FloatStyle.statement := by
    simp [Binary64.text, number, finite, signText]
  have value : floatNumber x = signed x.isNegative
      (if x.isZero then 0
      else (x.shortest .toEven).digits * (10 : ℚ) ^ (x.shortest .toEven).exponent) := by
    unfold floatNumber
    split
    · simp [signed]
    · rfl
  rwa [same, value]

end TableGateway.ReadBack

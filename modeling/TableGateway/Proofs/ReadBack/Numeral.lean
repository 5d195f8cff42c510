import Mathlib.Algebra.Order.Field.Rat
import Mathlib.Tactic.FieldSimp
import Mathlib.Tactic.NormNum
import Mathlib.Tactic.Ring
import TableGateway.Numeric.Digits
import TableGateway.Proofs.ReadBack.Scan

/-!
# Numerals

A numeral has digits in front of a point and behind it and a power of ten; the point with its
digits and the power may be missing. The exact number that a numeral with an optional minus sign
writes is read back from it, in front of every text that cannot go on with a number.
-/

namespace TableGateway.ReadBack

open Numeric (digits integerText)

/-! ## The reader -/

def signed {α : Type} [Neg α] (negative : Bool) (a : α) : α :=
  if negative then -a else a

/-- The number of digits of which the last ones stand behind the point, times a power of ten. -/
def decimalValue (whole places : List Char) (exponent : Int) : ℚ :=
  Nat.ofDigitChars 10 (whole ++ places) 0 * (10 : ℚ) ^ (exponent - (places.length : Int))

def readSign : List Char → Bool × List Char
  | '-' :: rest => (true, rest)
  | text => (false, text)

def readDigits (text : List Char) : Option (List Char × List Char) :=
  if text.takeWhile Char.isDigit = [] then none
  else some (text.takeWhile Char.isDigit, text.dropWhile Char.isDigit)

/-- Reads a point and digits that may be missing together. -/
def readPlaces : Reader (List Char)
  | '.' :: rest => readDigits rest
  | text => some ([], text)

def readExponent : Reader Int
  | 'e' :: rest =>
      (readDigits (readSign rest).2).map fun read =>
        (signed (readSign rest).1 (Nat.ofDigitChars 10 read.1 0 : Int), read.2)
  | text => some (0, text)

/-- Reads the longest numeral at the front of a text, behind a sign, as the number it writes. -/
def readNumber (text : List Char) : Option (ℚ × List Char) := do
  let (negative, text) := readSign text
  let (whole, text) ← readDigits text
  let (places, text) ← readPlaces text
  let (exponent, text) ← readExponent text
  return (signed negative (decimalValue whole places exponent), text)

/-! ## What is read -/

def DigitsOver (text : List Char) : Prop :=
  Next (fun c => c.isDigit = false) text

/-- Nothing, or a text that a number cannot go on with. -/
def NumberOver (text : List Char) : Prop :=
  Next (fun c => c.isDigit = false ∧ c ≠ '.' ∧ c ≠ 'e') text

def signText (negative : Bool) : List Char :=
  if negative then ['-'] else []

/-- A number in digits. Without places there is no point, and the exponent may be missing. -/
structure Numeral where
  whole : List Char
  places : List Char
  exponent : Option Int
  whole_ne_nil : whole ≠ []
  isDigit_whole : ∀ c ∈ whole, c.isDigit = true
  isDigit_places : ∀ c ∈ places, c.isDigit = true

namespace Numeral

def pointText : List Char → List Char
  | [] => []
  | place :: more => '.' :: place :: more

def powerText : Option Int → List Char
  | none => []
  | some exponent => 'e' :: integerText exponent

def text (n : Numeral) : List Char :=
  n.whole ++ (pointText n.places ++ powerText n.exponent)

def value (n : Numeral) : ℚ :=
  decimalValue n.whole n.places (n.exponent.getD 0)

end Numeral

theorem NumberOver.digitsOver {rest : List Char} (ends : NumberOver rest) : DigitsOver rest :=
  ends.mono fun _ kind => kind.1

theorem isDigit_digits {n : Nat} {c : Char} (mem : c ∈ digits n) : c.isDigit = true :=
  Nat.isDigit_of_mem_toDigits (by decide) (by decide) mem

theorem digits_ne_nil (n : Nat) : digits n ≠ [] :=
  Nat.toDigits_ne_nil

theorem ofDigitChars_digits (n : Nat) : Nat.ofDigitChars 10 (digits n) 0 = n :=
  Nat.ofDigitChars_toDigits (by decide) (by decide)

theorem integerText_eq (i : Int) :
    integerText i = signText (decide (i < 0)) ++ digits i.natAbs := by
  cases i with
  | ofNat n => simp [integerText, signText]
  | negSucc n => simp [integerText, signText, Int.negSucc_lt_zero]

theorem signed_natAbs (i : Int) : signed (decide (i < 0)) (i.natAbs : Int) = i := by
  unfold signed
  split
  · next negative =>
      have : i < 0 := by simpa using negative
      omega
  · next negative =>
      have : ¬ i < 0 := by simpa using negative
      omega

theorem readDigits_append {ds rest : List Char} (nonempty : ds ≠ [])
    (all : ∀ c ∈ ds, c.isDigit = true) (ends : DigitsOver rest) :
    readDigits (ds ++ rest) = some (ds, rest) := by
  have taken : rest.takeWhile Char.isDigit = [] := by
    cases rest with
    | nil => rfl
    | cons c rest => simp [ends c rfl]
  have dropped : rest.dropWhile Char.isDigit = rest := by
    cases rest with
    | nil => rfl
    | cons c rest => simp [ends c rfl]
  rw [readDigits, List.takeWhile_append_of_pos all, List.dropWhile_append_of_pos all, taken,
    dropped, List.append_nil, if_neg nonempty]

theorem readSign_of_digit {c : Char} (rest : List Char) (digit : c.isDigit = true) :
    readSign (c :: rest) = (false, c :: rest) := by
  rw [readSign]
  intro more same
  obtain ⟨rfl, _⟩ := List.cons.inj same
  exact Bool.noConfusion digit

theorem readSign_signText (negative : Bool) {ds : List Char} (rest : List Char)
    (nonempty : ds ≠ []) (all : ∀ c ∈ ds, c.isDigit = true) :
    readSign (signText negative ++ (ds ++ rest)) = (negative, ds ++ rest) := by
  cases negative with
  | true => rfl
  | false =>
      cases ds with
      | nil => exact absurd rfl nonempty
      | cons c ds => exact readSign_of_digit (ds ++ rest) (all c (by simp))

theorem readPlaces_pointText {places rest : List Char}
    (all : ∀ c ∈ places, c.isDigit = true) (digits : DigitsOver rest)
    (point : rest.head? ≠ some '.') :
    readPlaces (Numeral.pointText places ++ rest) = some (places, rest) := by
  cases places with
  | nil =>
      rw [Numeral.pointText, List.nil_append, readPlaces]
      rintro more rfl
      exact point rfl
  | cons place more => exact readDigits_append (by simp) all digits

theorem readExponent_powerText (exponent : Option Int) {rest : List Char}
    (ends : NumberOver rest) :
    readExponent (Numeral.powerText exponent ++ rest) = some (exponent.getD 0, rest) := by
  cases exponent with
  | none =>
      rw [Numeral.powerText, List.nil_append, readExponent]
      · rfl
      · rintro more rfl
        exact (ends 'e' rfl).2.2 rfl
  | some i =>
      have nonempty := digits_ne_nil i.natAbs
      have all : ∀ c ∈ digits i.natAbs, c.isDigit = true := fun _ mem => isDigit_digits mem
      have sign := readSign_signText (decide (i < 0)) rest nonempty all
      have number := readDigits_append nonempty all ends.digitsOver
      rw [Numeral.powerText, integerText_eq, List.cons_append, List.append_assoc, readExponent,
        sign, number, Option.map_some, ofDigitChars_digits, signed_natAbs, Option.getD_some]

/-- What stands behind the digits in front of the point does not start with a digit. -/
theorem digitsOver_pointText (places : List Char) {rest : List Char} (ends : DigitsOver rest) :
    DigitsOver (Numeral.pointText places ++ rest) := by
  cases places with
  | nil => exact ends
  | cons place more => exact Next.cons _ rfl

/-- What stands behind the places starts with neither a digit nor a point. -/
theorem digitsOver_powerText (exponent : Option Int) {rest : List Char} (ends : NumberOver rest) :
    DigitsOver (Numeral.powerText exponent ++ rest) ∧
      (Numeral.powerText exponent ++ rest).head? ≠ some '.' := by
  cases exponent with
  | none => exact ⟨ends.digitsOver, fun head => (ends '.' head).2.1 rfl⟩
  | some i => exact ⟨Next.cons _ rfl, by simp [Numeral.powerText]⟩

/-- The number of a numeral behind a sign is read back, in front of every text that does not go on
with it. -/
theorem readNumber_text (negative : Bool) (n : Numeral) {rest : List Char}
    (ends : NumberOver rest) :
    readNumber (signText negative ++ (n.text ++ rest)) = some (signed negative n.value, rest) := by
  obtain ⟨digitsOver, pointOver⟩ := digitsOver_powerText n.exponent ends
  have sign := readSign_signText negative
    (Numeral.pointText n.places ++ (Numeral.powerText n.exponent ++ rest))
    n.whole_ne_nil n.isDigit_whole
  have whole := readDigits_append n.whole_ne_nil n.isDigit_whole
    (digitsOver_pointText n.places digitsOver)
  have places := readPlaces_pointText n.isDigit_places digitsOver pointOver
  have exponent := readExponent_powerText n.exponent ends
  simp only [readNumber, Numeral.text, List.append_assoc, sign, whole, places, exponent,
    Option.bind_eq_bind, Option.bind_some]
  rfl

end TableGateway.ReadBack

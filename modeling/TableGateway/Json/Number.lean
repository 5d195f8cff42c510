import TableGateway.Json.Basic

/-!
# JSON numbers

Digits are collected in 64 bits as long as they fit; further digits of the whole part only count for
the exponent, and further places are dropped. The collected number is then multiplied or divided by
one power of ten, so a result may lie beside the nearest number.
-/

namespace TableGateway.Json

attribute [local instance (high)] instPowNat

open Numeric (Binary64)

structure Significand where
  value : Nat
  exponent : Int
  /-- A digit did not fit. -/
  full : Bool

def Significand.addWhole (s : Significand) (digit : Char) : Significand :=
  let value := s.value * 10 + (digit.toNat - '0'.toNat)
  if !s.full && value < 2 ^ (64 : Nat) then { s with value := value }
  else { s with full := true, exponent := s.exponent + 1 }

def Significand.addPlace (s : Significand) (digit : Char) : Significand :=
  let value := s.value * 10 + (digit.toNat - '0'.toNat)
  if !s.full && value < 2 ^ (64 : Nat) then { s with value := value, exponent := s.exponent - 1 }
  else { s with full := true }

/-- The greatest power of ten that numbers are scaled by at once. -/
def maxPower : Nat := 308

def powerOfTen (k : Nat) : Binary64 :=
  Binary64.ofDecimal false 1 k

/-- Divides by powers of ten until the exponent is used up or nothing is left. -/
def divideByTens : Nat → Binary64 → Nat → Binary64
  | 0, x, _ => x
  | fuel + 1, x, k =>
      if k ≤ maxPower then x.div (powerOfTen k)
      else if x.isZero then x
      else divideByTens fuel (x.div (powerOfTen maxPower)) (k - maxPower)

/-- The number `value · 10 ^ exponent`, or nothing when it is out of range. -/
def scale? (value : Nat) (exponent : Int) : Option Binary64 :=
  let x := Binary64.ofRatio false value 1
  if exponent < 0 then some (divideByTens 3 x exponent.natAbs)
  else if exponent.toNat ≤ maxPower then
    let scaled := x.mul (powerOfTen exponent.toNat)
    if scaled.isFinite then some scaled else none
  else if x.isZero then some x
  else none

/-- A number as it is written: its sign, the digits in front of the point, those behind it, and the
exponent. -/
structure NumberText where
  negative : Bool
  whole : List Char
  places : Option (List Char)
  exponent : Option Int

/-- The floating point number of digits and an exponent, out of range when it is too large. -/
def NumberText.toFloat (t : NumberText) (care : Care) : Parsed Document :=
  let whole := t.whole.foldl Significand.addWhole ⟨0, 0, false⟩
  let all := (t.places.getD []).foldl Significand.addPlace { whole with full := false }
  match scale? all.value (all.exponent + t.exponent.getD 0) with
  | some x => .ok (.float (if t.negative then x.neg else x))
  | none =>
      match care with
      | .used => .error .numberOutOfRange
      | .skipped => .ok .null

def NumberText.value (t : NumberText) (care : Care) : Parsed Document :=
  let n := Nat.ofDigitChars 10 t.whole 0
  if t.places.isNone && t.exponent.isNone then
    if !t.negative && n < 2 ^ (64 : Nat) then .ok (.integer n)
    else if t.negative && n ≠ 0 && n ≤ 2 ^ (63 : Nat) then .ok (.integer (-(n : Int)))
    else t.toFloat care
  else t.toFloat care

def spanDigits (text : List Char) : List Char × List Char :=
  text.span Char.isDigit

/-- The digits in front of the point: a zero alone, or digits that start with another one. -/
def readWhole (text : List Char) : Parsed (List Char × List Char) :=
  match spanDigits text with
  | ([], []) => .error .unexpectedEnd
  | ([], _) => .error .badNumber
  | ('0' :: _ :: _, _) => .error .badNumber
  | (digits, rest) => .ok (digits, rest)

/-- The digits behind the point, at least one, when there is a point. -/
def readPlaces : List Char → Parsed (Option (List Char) × List Char)
  | '.' :: rest =>
      match spanDigits rest with
      | ([], _) => .error .badNumber
      | (digits, rest) => .ok (some digits, rest)
  | rest => .ok (none, rest)

def readExponentDigits (negative : Bool) (text : List Char) :
    Parsed (Option Int × List Char) :=
  match spanDigits text with
  | ([], _) => .error .badNumber
  | (digits, rest) =>
      let n : Int := Nat.ofDigitChars 10 digits 0
      .ok (some (if negative then -n else n), rest)

def readExponent : List Char → Parsed (Option Int × List Char)
  | c :: rest =>
      if c = 'e' || c = 'E' then
        match rest with
        | '+' :: rest => readExponentDigits false rest
        | '-' :: rest => readExponentDigits true rest
        | rest => readExponentDigits false rest
      else .ok (none, c :: rest)
  | [] => .ok (none, [])

def readNumber (care : Care) (text : List Char) : Parsed (Document × List Char) := do
  let (negative, text) := match text with
    | '-' :: rest => (true, rest)
    | text => (false, text)
  let (whole, rest) ← readWhole text
  let (places, rest) ← readPlaces rest
  let (exponent, rest) ← readExponent rest
  let value ← NumberText.value ⟨negative, whole, places, exponent⟩ care
  return (value, rest)

end TableGateway.Json

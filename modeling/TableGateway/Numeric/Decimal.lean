import TableGateway.Numeric.Binary64

/-!
# Decimals with a scale

A `Decimal` is a magnitude of at most 96 bits, divided by ten to the power of a scale of at most 28,
behind a sign. The scale is part of the text (`1.0` and `1.00` differ), not of the number, and so is
the sign of a zero: `-0` is a decimal of its own that equals `0`. A zero that is read or normalized
has no sign.
-/

namespace TableGateway.Numeric

attribute [local instance (high)] instPowNat

/-- A decimal number that remembers how many places it is written with. -/
structure Decimal where
  negative : Bool
  magnitude : Nat
  scale : Nat
  magnitude_lt : magnitude < 2 ^ (96 : Nat)
  scale_le : scale ≤ 28
  deriving DecidableEq

namespace Decimal

def maxScale : Nat := 28

/-- The decimal with this magnitude and scale, if they are in range. Zero has no sign. -/
def ofParts? (negative : Bool) (magnitude scale : Nat) : Option Decimal :=
  if h : magnitude < 2 ^ (96 : Nat) ∧ scale ≤ 28 then
    some ⟨negative && magnitude != 0, magnitude, scale, h.1, h.2⟩
  else none

def ofInt? (n : Int) : Option Decimal :=
  ofParts? (decide (n < 0)) n.natAbs 0

/-- The magnitude behind its sign, which both zeros have in common. -/
def coefficient (x : Decimal) : Int :=
  if x.negative then -(x.magnitude : Int) else x.magnitude

theorem natAbs_coefficient (x : Decimal) : x.coefficient.natAbs = x.magnitude := by
  unfold coefficient
  split
  · exact Int.natAbs_neg _
  · rfl

/-- Equality of the numbers, whatever the scales. -/
def same (x y : Decimal) : Bool :=
  x.coefficient * 10 ^ y.scale == y.coefficient * 10 ^ x.scale

def isZero (x : Decimal) : Bool :=
  x.magnitude == 0

theorem isNegative_coefficient (x : Decimal) :
    decide (x.coefficient < 0) = (x.negative && !x.isZero) := by
  unfold coefficient isZero
  cases x.negative with
  | true =>
      rw [Bool.eq_iff_iff]
      simp [Nat.pos_iff_ne_zero]
  | false => simp

def fract (x : Decimal) : Decimal where
  negative := x.negative
  magnitude := x.magnitude % 10 ^ x.scale
  scale := x.scale
  magnitude_lt := Nat.lt_of_le_of_lt (Nat.mod_le _ _) x.magnitude_lt
  scale_le := x.scale_le

/-- A magnitude and a scale without the zeros that the places end with. -/
def stripZeros (magnitude : Nat) : Nat → Nat × Nat
  | 0 => (magnitude, 0)
  | scale + 1 =>
      if magnitude % 10 = 0 then stripZeros (magnitude / 10) scale else (magnitude, scale + 1)

theorem stripZeros_le (magnitude scale : Nat) :
    (stripZeros magnitude scale).1 ≤ magnitude ∧ (stripZeros magnitude scale).2 ≤ scale := by
  induction scale generalizing magnitude with
  | zero => exact ⟨Nat.le_refl _, Nat.le_refl _⟩
  | succ scale ih =>
      rw [stripZeros]
      split
      · obtain ⟨less, fewer⟩ := ih (magnitude / 10)
        exact ⟨Nat.le_trans less (Nat.div_le_self _ _), Nat.le_succ_of_le fewer⟩
      · exact ⟨Nat.le_refl _, Nat.le_refl _⟩

/-- The same number with as few places as it can have. Zero loses its sign. -/
def normalize (x : Decimal) : Decimal where
  negative := x.negative && !x.isZero
  magnitude := (stripZeros x.magnitude x.scale).1
  scale := (stripZeros x.magnitude x.scale).2
  magnitude_lt := Nat.lt_of_le_of_lt (stripZeros_le _ _).1 x.magnitude_lt
  scale_le := Nat.le_trans (stripZeros_le _ _).2 x.scale_le

def toBinary64 (x : Decimal) : Binary64 :=
  Binary64.ofRatio x.negative x.magnitude (10 ^ x.scale)

/-- The plain text with all places of the scale. A sign is shown, also that of a zero. -/
def text (x : Decimal) : List Char :=
  let whole := digits (x.magnitude / 10 ^ x.scale)
  let places :=
    if x.scale = 0 then [] else '.' :: paddedDigits x.scale (x.magnitude % 10 ^ x.scale)
  (if x.negative then ['-'] else []) ++ whole ++ places

/-- A decimal being read: sign, digits so far, whether the point was met, places, and whether any
digit was met. -/
structure Partial where
  negative : Bool
  mantissa : Nat
  point : Bool
  scale : Nat
  digit : Bool

def Partial.close? (p : Partial) : Option Decimal :=
  if p.digit then ofParts? p.negative p.mantissa p.scale else none

/-- Ends a text whose next digit has no room: that digit rounds the ones before it, a five up, and
whatever follows is dropped. -/
def Partial.roundBy? (p : Partial) (next : Char) : Option Decimal :=
  let digit? : Option Nat :=
    if next.isDigit then some (next.toNat - '0'.toNat)
    else if next = '_' || next = '.' then some 0
    else none
  digit?.bind fun digit =>
    if digit < 5 then p.close?
    else if p.mantissa + 1 < 2 ^ (96 : Nat) then { p with mantissa := p.mantissa + 1 }.close?
    else if p.scale = 0 then none
    else { p with mantissa := (p.mantissa + 5) / 10, scale := p.scale - 1 }.close?

def Partial.read? (p : Partial) : List Char → Option Decimal
  | [] => p.close?
  | c :: rest =>
      if p.point && p.digit && maxScale ≤ p.scale then p.roundBy? c
      else if c.isDigit then
        let mantissa := p.mantissa * 10 + (c.toNat - '0'.toNat)
        if mantissa < 2 ^ (96 : Nat) then
          Partial.read?
            { p with
              mantissa := mantissa
              scale := if p.point then p.scale + 1 else 0
              digit := true }
            rest
        else if p.point then p.roundBy? c
        else none
      else if c = '.' && !p.point then Partial.read? { p with point := true } rest
      else if c = '_' && p.digit then Partial.read? p rest
      else none

/-- Reads an optional sign and digits with at most one point among them. Digits may be grouped by
underscores, and places that do not fit are rounded away. -/
def read? : List Char → Option Decimal
  | '-' :: rest => Partial.read? ⟨true, 0, false, 0, false⟩ rest
  | '+' :: rest => Partial.read? ⟨false, 0, false, 0, false⟩ rest
  | text => Partial.read? ⟨false, 0, false, 0, false⟩ text

end Decimal

end TableGateway.Numeric

import TableGateway.Numeric.Digits

/-!
# Binary floating point numbers of 64 bits

A `Binary64` is the interchange format of IEEE 754: a sign, eleven bits of exponent and 52 bits of
fraction. A finite one is exactly `± m · 2 ^ q`, with `m` its `significand` and `q` its `exponent`,
and a quotient of two naturals rounds to the nearest one, an exact half to the even significand.
-/

namespace TableGateway.Numeric

attribute [local instance (high)] instPowNat

structure Binary64 where
  bits : UInt64
  deriving DecidableEq, Inhabited

namespace Binary64

def magnitude (x : Binary64) : Nat :=
  x.bits.toNat % 2 ^ (63 : Nat)

/-- The sign bit, which zeros and infinities have too. -/
def isNegative (x : Binary64) : Bool :=
  decide (2 ^ (63 : Nat) ≤ x.bits.toNat)

def infiniteMagnitude : Nat := 0x7ff0000000000000

def isNaN (x : Binary64) : Bool :=
  decide (infiniteMagnitude < x.magnitude)

def isFinite (x : Binary64) : Bool :=
  decide (x.magnitude < infiniteMagnitude)

def isZero (x : Binary64) : Bool :=
  x.magnitude == 0

/-- The number with a sign and a magnitude, which must be below `2 ^ 63`. -/
def ofMagnitude (negative : Bool) (magnitude : Nat) : Binary64 :=
  ⟨UInt64.ofNat ((if negative then 2 ^ (63 : Nat) else 0) + magnitude)⟩

/-- The one NaN that answers show. -/
def nan : Binary64 := ⟨0x7ff8000000000000⟩

def infinity (negative : Bool) : Binary64 :=
  ofMagnitude negative infiniteMagnitude

/-- The factor `m` of a finite number `± m · 2 ^ q`. -/
def significand (x : Binary64) : Nat :=
  if x.magnitude < 2 ^ (52 : Nat) then x.magnitude
  else 2 ^ (52 : Nat) + x.magnitude % 2 ^ (52 : Nat)

/-- The exponent `q` of a finite number `± m · 2 ^ q`. -/
def exponent (x : Binary64) : Int :=
  (max (x.magnitude / 2 ^ (52 : Nat)) 1 : Nat) - 1075

def ratio (x : Binary64) : Nat × Nat :=
  (x.significand * 2 ^ x.exponent.toNat, 2 ^ (-x.exponent).toNat)

/-- The place of a number that is not NaN on the line from minus infinity to infinity; both zeros
have place zero. -/
def place (x : Binary64) : Int :=
  if x.isNegative then -(x.magnitude : Int) else x.magnitude

/-- IEEE equality: NaN equals nothing and the two zeros are equal. -/
def same (x y : Binary64) : Bool :=
  !x.isNaN && !y.isNaN && x.place == y.place

def lt (x y : Binary64) : Bool :=
  !x.isNaN && !y.isNaN && decide (x.place < y.place)

def le (x y : Binary64) : Bool :=
  !x.isNaN && !y.isNaN && decide (x.place ≤ y.place)

/-- A finite number with digits behind the binary point. -/
def hasFraction (x : Binary64) : Bool :=
  decide (x.significand % 2 ^ (-x.exponent).toNat ≠ 0)

/-- The quotient rounded to the nearest natural, an exact half to the even one. -/
def divNearestEven (num den : Nat) : Nat :=
  let low := num / den
  let rest := num % den
  if 2 * rest < den then low
  else if den < 2 * rest then low + 1
  else low + low % 2

/-- The exponent of the highest power of two that is at most `num / den`. -/
def binaryOrder (num den : Nat) : Int :=
  let guess : Int := (num.log2 : Int) - den.log2
  if den * 2 ^ guess.toNat ≤ num * 2 ^ (-guess).toNat then guess else guess - 1

/-- Rounds `num / den` to `m · 2 ^ q` with a significand of `precision` bits and `least ≤ q`. -/
def roundRatio (precision : Nat) (least : Int) (num den : Nat) : Nat × Int :=
  let q := max (binaryOrder num den - precision + 1) least
  (divNearestEven (num * 2 ^ (-q).toNat) (den * 2 ^ q.toNat), q)

/-- The number nearest to `± num / den`, infinite when that is out of range. -/
def ofRatio (negative : Bool) (num den : Nat) : Binary64 :=
  if num = 0 then ofMagnitude negative 0
  else
    let (m, q) := roundRatio 53 (-1074) num den
    ofMagnitude negative (min ((q + 1074).toNat * 2 ^ (52 : Nat) + m) infiniteMagnitude)

def mul (x y : Binary64) : Binary64 :=
  ofRatio (x.isNegative != y.isNegative) (x.ratio.1 * y.ratio.1) (x.ratio.2 * y.ratio.2)

/-- The quotient of two finite numbers, rounded, where the second one is not zero. -/
def div (x y : Binary64) : Binary64 :=
  ofRatio (x.isNegative != y.isNegative) (x.ratio.1 * y.ratio.2) (x.ratio.2 * y.ratio.1)

def neg (x : Binary64) : Binary64 :=
  ofMagnitude (!x.isNegative) x.magnitude

def ofInt (n : Int) : Binary64 :=
  ofRatio (decide (n < 0)) n.natAbs 1

/-- The number nearest to one of 32 bits: 24 bits of significand and exponents from -149, infinite
from `2 ^ 128` on. -/
def toSingle (x : Binary64) : Binary64 :=
  if x.isNaN then nan
  else if !x.isFinite || x.isZero then x
  else
    let (num, den) := x.ratio
    let (m, q) := roundRatio 24 (-149) num den
    if 2 ^ (128 : Nat) ≤ m * 2 ^ q.toNat then infinity x.isNegative
    else ofRatio x.isNegative (m * 2 ^ q.toNat) (2 ^ (-q).toNat)

/-- The number nearest to `± n · 10 ^ e`. Beyond four hundred decimal orders the answer is known
without the power of ten. -/
def ofDecimal (negative : Bool) (n : Nat) (e : Int) : Binary64 :=
  let order : Int := (digits n).length + e
  if n = 0 then ofMagnitude negative 0
  else if 400 < order then infinity negative
  else if order < -400 then ofMagnitude negative 0
  else ofRatio negative (n * 10 ^ e.toNat) (10 ^ (-e).toNat)

end Binary64

end TableGateway.Numeric

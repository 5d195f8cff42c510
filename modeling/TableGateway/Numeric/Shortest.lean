import TableGateway.Numeric.Binary64

/-!
# Shortest decimal texts of binary numbers

The numbers that round to a given finite `Binary64` form an interval, whose ends belong to it when
the significand is even. `shortest` gives the decimal with the fewest digits inside that interval,
and of several the nearest one. A `FloatStyle` says how such a decimal is laid out.
-/

namespace TableGateway.Numeric

attribute [local instance (high)] instPowNat

/-- The decimal `digits · 10 ^ exponent`. -/
structure Scientific where
  digits : Nat
  exponent : Int
  deriving DecidableEq, Inhabited

/-- Which of two equally near decimals is taken. -/
inductive Tie where
  | up
  | toEven
  deriving DecidableEq

namespace Binary64

/-- Four times the value and the two ends of its interval, over one denominator: value, lower
end, upper end, denominator. Below a power of two the numbers stand twice as close. -/
def interval (x : Binary64) : Nat × Nat × Nat × Nat :=
  let up := 2 ^ x.exponent.toNat
  let below := if x.significand = 2 ^ (52 : Nat) && 2 ^ (53 : Nat) ≤ x.magnitude then 1 else 2
  (4 * x.significand * up, (4 * x.significand - below) * up, (4 * x.significand + 2) * up,
    4 * 2 ^ (-x.exponent).toNat)

/-- The highest power of ten that is at most `num / den`. -/
def decimalOrder (num den : Nat) : Int :=
  let guess := (binaryOrder num den * 30103).fdiv 100000
  if num * 10 ^ (-guess).toNat < den * 10 ^ guess.toNat then guess - 1
  else if den * 10 ^ (guess + 1).toNat ≤ num * 10 ^ (-(guess + 1)).toNat then guess + 1
  else guess

/-- The decimal grid of `10 ^ e`: both sides of a comparison with `num / den`, scaled. -/
def scaled (num den : Nat) (e : Int) : Nat × Nat :=
  (num * 10 ^ (-e).toNat, den * 10 ^ e.toNat)

/-- The point of the grid `10 ^ e` that stands for a number, when one of the number's two
neighbours on the grid lies in its interval. -/
def gridPoint? (tie : Tie) (x : Binary64) (e : Int) : Option Nat :=
  let (value, low, high, den) := x.interval
  let (v, d) := scaled value den e
  let (l, _) := scaled low den e
  let (h, _) := scaled high den e
  let inside (n : Nat) : Bool :=
    if x.significand % 2 = 0 then decide (l ≤ n * d ∧ n * d ≤ h)
    else decide (l < n * d ∧ n * d < h)
  let down := v / d
  let nearer : Nat :=
    if 2 * (v % d) < d then down
    else if d < 2 * (v % d) then down + 1
    else match tie with
      | .up => down + 1
      | .toEven => down + down % 2
  match inside down, inside (down + 1) with
  | true, true => some nearer
  | true, false => some down
  | false, true => some (down + 1)
  | false, false => none

/-- Drops the zeros that digits end with, at most `fuel` of them. -/
def dropZeros : Nat → Nat → Int → Scientific
  | 0, n, e => ⟨n, e⟩
  | fuel + 1, n, e => if n % 10 = 0 then dropZeros fuel (n / 10) (e + 1) else ⟨n, e⟩

/-- The first grid with a hit, from `10 ^ e` down through `count` grids. -/
def searchGrids (tie : Tie) (x : Binary64) : Nat → Int → Scientific
  | 0, e => ⟨0, e⟩
  | count + 1, e =>
      match gridPoint? tie x e with
      | some n => dropZeros (digits n).length n e
      | none => searchGrids tie x count (e - 1)

/-- The shortest decimal that rounds to a finite number other than zero; 17 digits always do. -/
def shortest (tie : Tie) (x : Binary64) : Scientific :=
  let (num, den) := x.ratio
  searchGrids tie x 17 (decimalOrder num den)

end Binary64

structure FloatStyle where
  /-- Decimal orders with a positional text; others are written with an exponent. -/
  positional : Int → Bool
  /-- Whether a whole number ends in `.0` where it is positional. -/
  wholePoint : Bool
  tie : Tie

/-- Numbers in messages: never an exponent, a whole number without a point. -/
def FloatStyle.plain : FloatStyle := ⟨fun _ => true, false, .up⟩

/-- Numbers inside a described value: an exponent below `10 ^ -4` and from `10 ^ 16` on. -/
def FloatStyle.described : FloatStyle := ⟨fun order => -5 < order && order < 16, true, .up⟩

/-- Numbers in statements: an exponent below `10 ^ -5` and from `10 ^ 16` on, and a decimal that
lies in the middle of two goes to the even one. -/
def FloatStyle.statement : FloatStyle := ⟨fun order => -6 < order && order < 16, true, .toEven⟩

def positionalText (wholePoint : Bool) (n : Nat) (e : Int) : List Char :=
  let ds := digits n
  if 0 ≤ e then
    ds ++ List.replicate e.toNat '0' ++ (if wholePoint then ['.', '0'] else [])
  else
    let places := (-e).toNat
    let ds := List.replicate (places + 1 - ds.length) '0' ++ ds
    ds.take (ds.length - places) ++ '.' :: ds.drop (ds.length - places)

/-- A text of `n · 10 ^ e` with one digit before the point and the rest of the order behind `e`. -/
def exponentText (n : Nat) (order : Int) : List Char :=
  let mantissa := match digits n with
    | [] => []
    | [d] => [d]
    | d :: more => d :: '.' :: more
  mantissa ++ 'e' :: integerText order

def Binary64.unsignedText (style : FloatStyle) (x : Binary64) : List Char :=
  if x.isZero then positionalText style.wholePoint 0 0
  else
    let s := x.shortest style.tie
    let order : Int := s.exponent + ((digits s.digits).length : Int) - 1
    if style.positional order then positionalText style.wholePoint s.digits s.exponent
    else exponentText s.digits order

def Binary64.text (style : FloatStyle) (x : Binary64) : List Char :=
  if x.isNaN then ['N', 'a', 'N']
  else
    let sign := if x.isNegative then ['-'] else []
    if x.isFinite then sign ++ x.unsignedText style else sign ++ ['i', 'n', 'f']

end TableGateway.Numeric

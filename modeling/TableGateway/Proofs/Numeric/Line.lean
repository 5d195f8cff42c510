import TableGateway.Numeric.Binary64
import TableGateway.Proofs.ReadBack.Number

/-!
# The numbers that binary floating point numbers are

A finite `Binary64` is the rational number `± m · 2 ^ q`. All of them are multiples of the least
one, `2 ^ -1074`, and their absolute values counted in such steps grow with the magnitude. So the
comparisons of the format are those of the rational numbers, and the test for a fraction is the
test whether the rational number is whole.
-/

namespace TableGateway.Numeric

def IsWhole (q : ℚ) : Prop :=
  ∃ n : ℤ, (n : ℚ) = q

namespace Binary64

open ReadBack (signed)

/-! ## Steps -/

def significandAt (magnitude : ℕ) : ℕ :=
  if magnitude < 2 ^ 52 then magnitude else 2 ^ 52 + magnitude % 2 ^ 52

/-- The exponent of the numbers with a magnitude, above the least one. -/
def powerAt (magnitude : ℕ) : ℕ :=
  max (magnitude / 2 ^ 52) 1 - 1

/-- The steps of `2 ^ -1074` from zero to the numbers with a magnitude. -/
def stepsAt (magnitude : ℕ) : ℕ :=
  significandAt magnitude * 2 ^ powerAt magnitude

/-- The magnitude of `m · 2 ^ k` steps, where `m` has 53 bits if it can have them. The end
`m = 2 ^ 53` is the least significand of the next power. -/
structure Splits (magnitude k m : ℕ) : Prop where
  eq : magnitude = k * 2 ^ 52 + m
  le : m ≤ 2 ^ 53
  normal : k = 0 ∨ 2 ^ 52 ≤ m

theorem splits_significandAt (magnitude : ℕ) :
    Splits magnitude (powerAt magnitude) (significandAt magnitude) ∧
      significandAt magnitude < 2 ^ 53 := by
  rw [powerAt, significandAt]
  split
  case isTrue => exact ⟨⟨by omega, by omega, by omega⟩, by omega⟩
  case isFalse => exact ⟨⟨by omega, by omega, by omega⟩, by omega⟩

namespace Splits

variable {magnitude k m : ℕ}

theorem significandAt_eq (splits : Splits magnitude k m) :
    (m < 2 ^ 53 ∧ significandAt magnitude = m ∧ powerAt magnitude = k) ∨
      (m = 2 ^ 53 ∧ significandAt magnitude = 2 ^ 52 ∧ powerAt magnitude = k + 1) := by
  obtain ⟨rfl, le, normal⟩ := splits
  rw [significandAt, powerAt]
  split
  case isTrue => omega
  case isFalse => omega

theorem stepsAt_eq (splits : Splits magnitude k m) : stepsAt magnitude = m * 2 ^ k := by
  rcases splits.significandAt_eq with ⟨-, significand, power⟩ | ⟨rfl, significand, power⟩
  · rw [stepsAt, significand, power]
  · rw [stepsAt, significand, power]
    omega

end Splits

/-- One magnitude up is one unit of the significand up. -/
theorem stepsAt_lt_succ (magnitude : ℕ) : stepsAt magnitude < stepsAt (magnitude + 1) := by
  obtain ⟨splits, short⟩ := splits_significandAt magnitude
  have next : Splits (magnitude + 1) (powerAt magnitude) (significandAt magnitude + 1) :=
    ⟨(congrArg (· + 1) splits.eq).trans (Nat.add_assoc ..), short,
      splits.normal.imp_right Nat.le_succ_of_le⟩
  rw [splits.stepsAt_eq, next.stepsAt_eq]
  exact Nat.mul_lt_mul_of_pos_right (Nat.lt_succ_self _) (Nat.two_pow_pos _)

theorem strictMono_stepsAt : StrictMono stepsAt :=
  strictMono_nat_of_lt_succ stepsAt_lt_succ

theorem stepsAt_zero : stepsAt 0 = 0 := rfl

/-- The steps from zero to the numbers with a place, negative ones to the left. -/
def stepsTo : ℤ → ℤ
  | .ofNat magnitude => stepsAt magnitude
  | .negSucc less => -stepsAt (less + 1)

@[simp] theorem stepsTo_natCast (magnitude : ℕ) : stepsTo magnitude = stepsAt magnitude := rfl

@[simp] theorem stepsTo_neg_natCast (magnitude : ℕ) :
    stepsTo (-magnitude) = -stepsAt magnitude := by
  cases magnitude <;> rfl

theorem stepsTo_lt_stepsTo {m n : ℤ} (less : m < n) : stepsTo m < stepsTo n := by
  cases m with
  | ofNat m =>
      cases n with
      | ofNat n => exact Int.ofNat_lt.2 (strictMono_stepsAt (Int.ofNat_lt.1 less))
      | negSucc n =>
          exact ((Int.natCast_nonneg m).not_gt (less.trans (Int.negSucc_lt_zero n))).elim
  | negSucc m =>
      have below : 0 < stepsAt (m + 1) := strictMono_stepsAt (Nat.succ_pos m)
      cases n with
      | ofNat n =>
          rw [stepsTo, stepsTo]
          omega
      | negSucc n =>
          have further : stepsAt (n + 1) < stepsAt (m + 1) := strictMono_stepsAt (by omega)
          rw [stepsTo, stepsTo]
          omega

theorem stepsTo_lt_stepsTo_iff {m n : ℤ} : stepsTo m < stepsTo n ↔ m < n := by
  have mono : StrictMono stepsTo := fun _ _ => stepsTo_lt_stepsTo
  exact mono.lt_iff_lt

/-! ## The line -/

/-- The number that a finite one is, `± m · 2 ^ q`. -/
def toRat (x : Binary64) : ℚ :=
  signed x.isNegative (x.significand * (2 : ℚ) ^ x.exponent)

theorem exponent_eq (x : Binary64) : x.exponent = powerAt x.magnitude - 1074 := by
  rw [exponent, powerAt]
  omega

theorem toRat_eq_signed (x : Binary64) :
    x.toRat = signed x.isNegative ((stepsAt x.magnitude : ℚ) / 2 ^ 1074) := by
  have absolute : x.significand * (2 : ℚ) ^ x.exponent = stepsAt x.magnitude / 2 ^ 1074 := by
    rw [exponent_eq, zpow_sub₀ two_ne_zero, zpow_natCast, stepsAt, Nat.cast_mul, Nat.cast_pow,
      mul_div_assoc]
    rfl
  rw [toRat, absolute]

theorem toRat_eq_stepsTo (x : Binary64) : x.toRat = stepsTo x.place / 2 ^ 1074 := by
  rw [toRat_eq_signed, place]
  cases x.isNegative with
  | false => simp [signed]
  | true => simp [signed, neg_div]

theorem toRat_lt_toRat_iff {x y : Binary64} : x.toRat < y.toRat ↔ x.place < y.place := by
  rw [toRat_eq_stepsTo, toRat_eq_stepsTo, div_lt_div_iff_of_pos_right (by positivity),
    Int.cast_lt, stepsTo_lt_stepsTo_iff]

theorem toRat_le_toRat_iff {x y : Binary64} : x.toRat ≤ y.toRat ↔ x.place ≤ y.place := by
  rw [← not_lt, ← not_lt, toRat_lt_toRat_iff]

theorem isNaN_eq_false_of_isFinite {x : Binary64} (finite : x.isFinite = true) :
    x.isNaN = false := by
  rw [isFinite, decide_eq_true_eq] at finite
  rw [isNaN, decide_eq_false_iff_not]
  omega

/-- Finite numbers are compared as the rational numbers that they are. -/
theorem lt_iff_toRat_lt {x y : Binary64} (finite_x : x.isFinite = true)
    (finite_y : y.isFinite = true) : x.lt y = true ↔ x.toRat < y.toRat := by
  rw [lt, isNaN_eq_false_of_isFinite finite_x, isNaN_eq_false_of_isFinite finite_y,
    toRat_lt_toRat_iff]
  simp

theorem le_iff_toRat_le {x y : Binary64} (finite_x : x.isFinite = true)
    (finite_y : y.isFinite = true) : x.le y = true ↔ x.toRat ≤ y.toRat := by
  rw [le, isNaN_eq_false_of_isFinite finite_x, isNaN_eq_false_of_isFinite finite_y,
    toRat_le_toRat_iff]
  simp

/-! ## Signs and magnitudes -/

section OfMagnitude

variable (negative : Bool) {magnitude : ℕ} (range : magnitude < infiniteMagnitude)

include range

theorem magnitude_ofMagnitude : (ofMagnitude negative magnitude).magnitude = magnitude := by
  rw [infiniteMagnitude] at range
  rw [ofMagnitude, Binary64.magnitude, UInt64.toNat_ofNat']
  cases negative <;> simp <;> omega

theorem isNegative_ofMagnitude : (ofMagnitude negative magnitude).isNegative = negative := by
  rw [infiniteMagnitude] at range
  rw [ofMagnitude, isNegative, UInt64.toNat_ofNat']
  cases negative <;> simp <;> omega

theorem isFinite_ofMagnitude : (ofMagnitude negative magnitude).isFinite = true := by
  rw [isFinite, magnitude_ofMagnitude negative range]
  exact decide_eq_true range

theorem toRat_ofMagnitude :
    (ofMagnitude negative magnitude).toRat =
      signed negative ((stepsAt magnitude : ℚ) / 2 ^ 1074) := by
  rw [toRat_eq_signed, magnitude_ofMagnitude negative range, isNegative_ofMagnitude negative range]

end OfMagnitude

theorem natAbs_place (x : Binary64) : x.place.natAbs = x.magnitude := by
  rw [place]
  split
  case isTrue => rw [Int.natAbs_neg, Int.natAbs_natCast]
  case isFalse => rw [Int.natAbs_natCast]

theorem isFinite_iff_natAbs_place {x : Binary64} :
    x.isFinite = true ↔ x.place.natAbs < infiniteMagnitude := by
  rw [isFinite, decide_eq_true_eq, natAbs_place]

/-- Between the infinities every place has a number. -/
theorem exists_place_eq {p : ℤ} (range : p.natAbs < infiniteMagnitude) :
    ∃ y : Binary64, y.isFinite = true ∧ y.place = p := by
  refine ⟨ofMagnitude (decide (p < 0)) p.natAbs, isFinite_ofMagnitude _ range, ?_⟩
  rw [place, magnitude_ofMagnitude _ range, isNegative_ofMagnitude _ range]
  exact ReadBack.signed_natAbs p

/-- Even and odd significands take turns along the line. -/
theorem even_significand_iff {x : Binary64} : Even x.significand ↔ Even x.place := by
  rw [← Int.natAbs_even, natAbs_place, significand, Nat.even_iff, Nat.even_iff]
  split
  case isTrue => rfl
  case isFalse => omega

/-! ## Whole numbers -/

/-- A power of two as a quotient of whole ones, of which one is the power zero. -/
theorem zpow_mul_pow_toNat_neg (e : ℤ) : (2 : ℚ) ^ e * 2 ^ (-e).toNat = 2 ^ e.toNat := by
  rw [← zpow_natCast, ← zpow_natCast, ← zpow_add₀ two_ne_zero]
  congr 1
  omega

/-- A number is whole when the denominator divides its significand. -/
theorem isWhole_toRat_iff {x : Binary64} :
    IsWhole x.toRat ↔ 2 ^ (-x.exponent).toNat ∣ x.significand := by
  have scaled : x.toRat * 2 ^ (-x.exponent).toNat =
      (signed x.isNegative ((x.significand * 2 ^ x.exponent.toNat : ℕ) : ℤ) : ℤ) := by
    rw [toRat, ← ReadBack.signed_mul, mul_assoc, zpow_mul_pow_toNat_neg, ← ReadBack.signed_cast]
    push_cast
    rfl
  constructor
  · rintro ⟨n, same⟩
    rw [← same] at scaled
    have product : n.natAbs * 2 ^ (-x.exponent).toNat = x.significand * 2 ^ x.exponent.toNat := by
      have integers : n * 2 ^ (-x.exponent).toNat =
          signed x.isNegative ((x.significand * 2 ^ x.exponent.toNat : ℕ) : ℤ) := by
        exact_mod_cast scaled
      have absolute := congrArg Int.natAbs integers
      cases negative : x.isNegative <;>
        simpa [signed, negative, Int.natAbs_mul, Int.natAbs_pow] using absolute
    rcases le_total 0 x.exponent with above | below
    · rw [Int.toNat_of_nonpos (by omega)]
      exact one_dvd _
    · rw [Int.toNat_of_nonpos below, pow_zero, mul_one] at product
      exact ⟨n.natAbs, by rw [← product, Nat.mul_comm]⟩
  · rintro ⟨c, factor⟩
    refine ⟨signed x.isNegative ((c * 2 ^ x.exponent.toNat : ℕ) : ℤ), ?_⟩
    have nonzero : (2 : ℚ) ^ (-x.exponent).toNat ≠ 0 := by positivity
    apply mul_right_cancel₀ nonzero
    rw [scaled, factor, ← ReadBack.signed_cast, ← ReadBack.signed_cast, ← ReadBack.signed_mul]
    congr 1
    push_cast
    ring

theorem hasFraction_eq_false_iff {x : Binary64} :
    x.hasFraction = false ↔ IsWhole x.toRat := by
  rw [isWhole_toRat_iff, hasFraction, decide_eq_false_iff_not, not_not,
    Nat.dvd_iff_mod_eq_zero]

end Binary64

end TableGateway.Numeric

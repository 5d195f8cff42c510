import Mathlib.Algebra.Order.Field.Power
import Mathlib.Data.Rat.Floor
import Mathlib.Tactic.Linarith
import Mathlib.Tactic.Positivity
import TableGateway.Numeric.Decimal
import TableGateway.Proofs.Numeric.Line

/-!
# Rounding to the nearest number

A quotient of naturals is rounded to the binary floating point number nearest to it, of two that are
equally near to the one with an even significand. What is nearest keeps to the same side of every
number of the format, and what is whole stays whole.
-/

namespace TableGateway.Numeric.Binary64

open ReadBack (signed)

/-! ## The nearest number -/

/-- A finite number to which none is preferred for a rational one: none is nearer, and if another
one is as near then its own significand is even. -/
structure Nearest (q : ℚ) (r : Binary64) : Prop where
  finite : r.isFinite = true
  near : ∀ y : Binary64, y.isFinite = true → |r.toRat - q| ≤ |y.toRat - q|
  even : ∀ y : Binary64, y.isFinite = true → |y.toRat - q| = |r.toRat - q| →
    y.toRat ≠ r.toRat → Even r.significand

namespace Nearest

variable {q : ℚ} {r b : Binary64}

theorem le_of_le (nearest : Nearest q r) (finite : b.isFinite = true) (below : q ≤ b.toRat) :
    r.toRat ≤ b.toRat := by
  by_contra! beyond
  have near := nearest.near b finite
  rw [abs_of_nonneg (by linarith), abs_of_nonneg (by linarith)] at near
  linarith

theorem ge_of_ge (nearest : Nearest q r) (finite : b.isFinite = true) (above : b.toRat ≤ q) :
    b.toRat ≤ r.toRat := by
  by_contra! beyond
  have near := nearest.near b finite
  rw [abs_of_nonpos (by linarith), abs_of_nonpos (by linarith)] at near
  linarith

theorem eq_of_eq (nearest : Nearest q r) (finite : b.isFinite = true) (same : b.toRat = q) :
    r.toRat = q :=
  le_antisymm (same ▸ nearest.le_of_le finite same.ge) (same ▸ nearest.ge_of_ge finite same.le)

/-- A number that is not rounded to a number of the format is on the same side of it as what it is
rounded to. -/
theorem lt_iff (nearest : Nearest q r) (finite : b.isFinite = true) (apart : r.toRat ≠ b.toRat) :
    r.toRat < b.toRat ↔ q < b.toRat := by
  constructor
  · intro less
    by_contra! above
    exact less.not_ge (nearest.ge_of_ge finite above)
  · intro less
    exact lt_of_le_of_ne (nearest.le_of_le finite less.le) apart

theorem gt_iff (nearest : Nearest q r) (finite : b.isFinite = true) (apart : r.toRat ≠ b.toRat) :
    b.toRat < r.toRat ↔ b.toRat < q := by
  constructor
  · intro greater
    by_contra! below
    exact greater.not_ge (nearest.le_of_le finite below)
  · intro greater
    exact lt_of_le_of_ne (nearest.ge_of_ge finite greater.le) apart.symm

/-- There is no more than one nearest number. Two of them would stand next to each other, one with
an odd significand. -/
theorem unique {s : Binary64} (nearest : Nearest q r) (also : Nearest q s) :
    r.toRat = s.toRat := by
  by_contra apart
  wlog less : r.toRat < s.toRat generalizing r s
  · exact this also nearest (Ne.symm apart) (lt_of_le_of_ne (not_lt.1 less) (Ne.symm apart))
  have tie : |s.toRat - q| = |r.toRat - q| :=
    (also.near r nearest.finite).antisymm (nearest.near s also.finite)
  have even_r := even_significand_iff.1 (nearest.even s also.finite tie (Ne.symm apart))
  have even_s := even_significand_iff.1 (also.even r nearest.finite tie.symm apart)
  have order := toRat_lt_toRat_iff.1 less
  have next : r.place + 1 < s.place := by
    rw [Int.even_iff] at even_r even_s
    omega
  obtain ⟨y, finite, between⟩ := exists_place_eq (p := r.place + 1) <| by
    have range_r := isFinite_iff_natAbs_place.1 nearest.finite
    have range_s := isFinite_iff_natAbs_place.1 also.finite
    omega
  have above : r.toRat < y.toRat := toRat_lt_toRat_iff.2 (by omega)
  have below : y.toRat < s.toRat := toRat_lt_toRat_iff.2 (by omega)
  have nearer := nearest.near y finite
  have further := also.near y finite
  rcases le_total q y.toRat with left | right
  · rw [abs_of_nonneg (by linarith), abs_of_nonneg (by linarith)] at further
    linarith
  · rw [abs_of_nonpos (by linarith), abs_of_nonpos (by linarith)] at nearer
    linarith

end Nearest

/-! ## The nearest natural -/

/-- A natural nearest to a rational number, an even one if another one is as near. -/
structure NearestWhole (t : ℚ) (m : ℕ) : Prop where
  near : |(m : ℚ) - t| ≤ 1 / 2
  even : |(m : ℚ) - t| = 1 / 2 → Even m

theorem nearestWhole_divNearestEven {num den : ℕ} (pos : 0 < den) :
    NearestWhole (num / den) (divNearestEven num den) := by
  have positive : (0 : ℚ) < den := by exact_mod_cast pos
  obtain ⟨part, part_eq⟩ : ∃ part : ℚ, part = (num % den : ℕ) / den := ⟨_, rfl⟩
  have quotient : (num : ℚ) / den = (num / den : ℕ) + part := by
    rw [part_eq, div_eq_iff positive.ne', add_mul, div_mul_cancel₀ _ positive.ne']
    exact_mod_cast (Nat.div_add_mod' num den).symm
  have nonneg : 0 ≤ part := by
    rw [part_eq]
    positivity
  have below_one : part < 1 := by
    rw [part_eq, div_lt_one positive]
    exact_mod_cast Nat.mod_lt num pos
  have twice : 2 * ((num % den : ℕ) : ℚ) = (2 * part) * den := by
    rw [part_eq, mul_assoc, div_mul_cancel₀ _ positive.ne']
  have down : |((num / den : ℕ) : ℚ) - num / den| = part := by
    rw [quotient, sub_add_cancel_left, abs_neg, abs_of_nonneg nonneg]
  have up : |((num / den + 1 : ℕ) : ℚ) - num / den| = 1 - part := by
    rw [quotient, Nat.cast_add_one, add_sub_add_left_eq_sub, abs_of_nonneg (by linarith)]
  rw [divNearestEven]
  rcases lt_trichotomy (2 * (num % den)) den with less | half | more
  · have strict : part < 1 / 2 := by
      have less : 2 * ((num % den : ℕ) : ℚ) < den := by exact_mod_cast less
      rw [twice, mul_lt_iff_lt_one_left positive] at less
      linarith
    rw [if_pos less]
    exact ⟨down.trans_le strict.le, fun tie => (strict.ne (down.symm.trans tie)).elim⟩
  · have middle : part = 1 / 2 := by
      have half : 2 * ((num % den : ℕ) : ℚ) = den := by exact_mod_cast half
      rw [twice, mul_eq_right₀ positive.ne'] at half
      linarith
    rw [if_neg half.not_lt, if_neg half.not_gt]
    rcases Nat.mod_two_eq_zero_or_one (num / den) with even | odd
    · rw [even, Nat.add_zero]
      exact ⟨(down.trans middle).le, fun _ => Nat.even_iff.2 even⟩
    · rw [odd]
      exact ⟨by rw [up, middle]; norm_num, fun _ => (Nat.odd_iff.2 odd).add_one⟩
  · have strict : 1 - part < 1 / 2 := by
      have more : (den : ℚ) < 2 * ((num % den : ℕ) : ℚ) := by exact_mod_cast more
      rw [twice, lt_mul_iff_one_lt_left positive] at more
      linarith
    rw [if_neg more.not_gt, if_pos more]
    exact ⟨up.trans_le strict.le, fun tie => (strict.ne (up.symm.trans tie)).elim⟩

namespace NearestWhole

variable {t : ℚ} {m : ℕ}

/-- Other naturals are half a unit away at least. -/
theorem half_le (nearest : NearestWhole t m) {j : ℕ} (other : j ≠ m) : 1 / 2 ≤ |(j : ℚ) - t| := by
  have apart : (1 : ℚ) ≤ |(j : ℚ) - m| := by
    have apart : 1 ≤ |(j : ℤ) - m| := Int.one_le_abs (by omega)
    exact_mod_cast apart
  have between := abs_sub_le (j : ℚ) t m
  have near := nearest.near
  rw [abs_sub_comm] at near
  linarith

theorem le (nearest : NearestWhole t m) (j : ℕ) : |(m : ℚ) - t| ≤ |(j : ℚ) - t| := by
  by_cases same : j = m
  · rw [same]
  · exact nearest.near.trans (nearest.half_le same)

theorem even_of_eq (nearest : NearestWhole t m) {j : ℕ} (tie : |(j : ℚ) - t| = |(m : ℚ) - t|)
    (other : j ≠ m) : Even m :=
  nearest.even (nearest.near.antisymm (tie ▸ nearest.half_le other))

theorem le_of_lt (nearest : NearestWhole t m) {bound : ℕ} (below : t < bound) : m ≤ bound := by
  have near := (abs_le.1 nearest.near).2
  have above : (m : ℚ) < bound + 1 := by linarith
  exact Nat.lt_succ_iff.1 (by exact_mod_cast above)

theorem ge_of_ge (nearest : NearestWhole t m) {bound : ℕ} (above : bound ≤ t) : bound ≤ m := by
  have near := (abs_le.1 nearest.near).1
  have below : (bound : ℚ) < m + 1 := by linarith
  exact Nat.lt_succ_iff.1 (by exact_mod_cast below)

end NearestWhole

/-! ## The order of a quotient -/

/-- A quotient lies within a factor of two of the quotient of the highest powers of two below its
parts. -/
theorem log2_bounds {num den : ℕ} (num_pos : 0 < num) (den_pos : 0 < den) :
    (2 : ℚ) ^ ((num.log2 : ℤ) - den.log2 - 1) ≤ num / den ∧
      (num : ℚ) / den < 2 ^ ((num.log2 : ℤ) - den.log2 + 1) := by
  have num_low : (2 : ℚ) ^ num.log2 ≤ num := by exact_mod_cast Nat.log2_self_le num_pos.ne'
  have num_high : (num : ℚ) < 2 ^ (num.log2 + 1) := by exact_mod_cast Nat.lt_log2_self
  have den_low : (2 : ℚ) ^ den.log2 ≤ den := by exact_mod_cast Nat.log2_self_le den_pos.ne'
  have den_high : (den : ℚ) < 2 ^ (den.log2 + 1) := by exact_mod_cast Nat.lt_log2_self
  have positive : (0 : ℚ) < den := by exact_mod_cast den_pos
  constructor
  · rw [le_div_iff₀ positive]
    calc (2 : ℚ) ^ ((num.log2 : ℤ) - den.log2 - 1) * den
        ≤ 2 ^ ((num.log2 : ℤ) - den.log2 - 1) * 2 ^ (den.log2 + 1) := by gcongr
      _ = 2 ^ num.log2 := by
          rw [← zpow_natCast, ← zpow_add₀ two_ne_zero, ← zpow_natCast]
          congr 1
          omega
      _ ≤ num := num_low
  · rw [div_lt_iff₀ positive]
    calc (num : ℚ) < 2 ^ (num.log2 + 1) := num_high
      _ = 2 ^ ((num.log2 : ℤ) - den.log2 + 1) * 2 ^ den.log2 := by
          rw [← zpow_natCast, ← zpow_natCast, ← zpow_add₀ two_ne_zero]
          congr 1
          omega
      _ ≤ 2 ^ ((num.log2 : ℤ) - den.log2 + 1) * den := by gcongr

/-- A quotient is compared with a power of two by naturals alone. -/
theorem two_zpow_le_div_iff {num den : ℕ} (den_pos : 0 < den) (e : ℤ) :
    (2 : ℚ) ^ e ≤ num / den ↔ den * 2 ^ e.toNat ≤ num * 2 ^ (-e).toNat := by
  have positive : (0 : ℚ) < den := by exact_mod_cast den_pos
  have scale : (0 : ℚ) < 2 ^ (-e).toNat := by positivity
  rw [le_div_iff₀ positive, ← mul_le_mul_iff_of_pos_right scale, mul_right_comm,
    zpow_mul_pow_toNat_neg, mul_comm (2 ^ e.toNat : ℚ)]
  exact_mod_cast Iff.rfl

/-- The order is the exponent of the power of two below. -/
theorem binaryOrder_spec {num den : ℕ} (num_pos : 0 < num) (den_pos : 0 < den) :
    (2 : ℚ) ^ binaryOrder num den ≤ num / den ∧
      (num : ℚ) / den < 2 ^ (binaryOrder num den + 1) := by
  obtain ⟨above, below⟩ := log2_bounds num_pos den_pos
  rw [binaryOrder]
  split
  case isTrue reached => exact ⟨(two_zpow_le_div_iff den_pos _).2 reached, below⟩
  case isFalse missed =>
    rw [sub_add_cancel]
    exact ⟨above, not_le.1 (mt (two_zpow_le_div_iff den_pos _).1 missed)⟩

/-! ## The nearest magnitude -/

/-- A number of steps that is not whole is rounded to `m · 2 ^ k` steps, with a significand of 53
bits where the quotient is large enough. -/
structure RoundsTo (steps : ℚ) (k m : ℕ) : Prop where
  nearest : NearestWhole (steps / 2 ^ k) m
  short : steps / 2 ^ k < 2 ^ 53
  normal : k = 0 ∨ 2 ^ 52 ≤ steps / 2 ^ k

/-- A magnitude with the nearest number of steps, of two that are equally near the one with an even
significand. -/
structure NearestSteps (steps : ℚ) (magnitude : ℕ) : Prop where
  near : ∀ other, |(stepsAt magnitude : ℚ) - steps| ≤ |(stepsAt other : ℚ) - steps|
  even : ∀ other, |(stepsAt other : ℚ) - steps| = |(stepsAt magnitude : ℚ) - steps| →
    stepsAt other ≠ stepsAt magnitude → Even (significandAt magnitude)

/-- The steps of a number are a multiple of `2 ^ k`, or fewer than the least significand of 53 bits
times that power. -/
theorem exists_mul_or_lt (k magnitude : ℕ) :
    (∃ j, stepsAt magnitude = j * 2 ^ k) ∨
      k ≠ 0 ∧ stepsAt magnitude < 2 ^ 52 * 2 ^ k := by
  rcases le_or_gt k (powerAt magnitude) with coarse | fine
  · refine .inl ⟨significandAt magnitude * 2 ^ (powerAt magnitude - k), ?_⟩
    rw [stepsAt, Nat.mul_assoc, ← Nat.pow_add, Nat.sub_add_cancel coarse]
  · refine .inr ⟨by omega, ?_⟩
    calc stepsAt magnitude < 2 ^ 53 * 2 ^ powerAt magnitude :=
          Nat.mul_lt_mul_of_pos_right (splits_significandAt magnitude).2 (Nat.two_pow_pos _)
      _ = 2 ^ 52 * 2 ^ (powerAt magnitude + 1) := by omega
      _ ≤ 2 ^ 52 * 2 ^ k := Nat.mul_le_mul_left _ (Nat.pow_le_pow_right two_pos fine)

namespace RoundsTo

variable {steps : ℚ} {k m : ℕ}

theorem splits (rounds : RoundsTo steps k m) : Splits (k * 2 ^ 52 + m) k m where
  eq := rfl
  le := rounds.nearest.le_of_lt (by exact_mod_cast rounds.short)
  normal := rounds.normal.imp_right fun normal =>
    rounds.nearest.ge_of_ge (by exact_mod_cast normal)

theorem even_significandAt (rounds : RoundsTo steps k m) (even : Even m) :
    Even (significandAt (k * 2 ^ 52 + m)) := by
  rcases rounds.splits.significandAt_eq with ⟨-, same, -⟩ | ⟨-, least, -⟩
  · rwa [same]
  · rw [least]
    exact ⟨2 ^ 51, by norm_num⟩

/-- Distances in units of `2 ^ k` steps. -/
theorem abs_mul_sub (steps : ℚ) (k j : ℕ) :
    |((j * 2 ^ k : ℕ) : ℚ) - steps| = |(j : ℚ) - steps / 2 ^ k| * 2 ^ k := by
  have positive : (0 : ℚ) < 2 ^ k := by positivity
  rw [← abs_of_pos positive, ← abs_mul, abs_of_pos positive, sub_mul,
    div_mul_cancel₀ _ positive.ne']
  push_cast
  rfl

/-- What is not a multiple of `2 ^ k` is further away: the least significand of 53 bits lies
between. -/
theorem lt_of_lt (rounds : RoundsTo steps k m) (some_power : k ≠ 0) {other : ℕ}
    (less : other < 2 ^ 52 * 2 ^ k) :
    |((m * 2 ^ k : ℕ) : ℚ) - steps| < |(other : ℚ) - steps| := by
  have positive : (0 : ℚ) < 2 ^ k := by positivity
  have reached : ((2 ^ 52 * 2 ^ k : ℕ) : ℚ) ≤ steps := by
    have normal := rounds.normal.resolve_left some_power
    rw [le_div_iff₀ positive] at normal
    exact_mod_cast normal
  have less : (other : ℚ) < ((2 ^ 52 * 2 ^ k : ℕ) : ℚ) := by exact_mod_cast less
  have nearer : |((m * 2 ^ k : ℕ) : ℚ) - steps| ≤ |((2 ^ 52 * 2 ^ k : ℕ) : ℚ) - steps| := by
    rw [abs_mul_sub, abs_mul_sub, mul_le_mul_iff_of_pos_right positive]
    exact rounds.nearest.le (2 ^ 52)
  rw [abs_of_nonpos (by linarith : ((2 ^ 52 * 2 ^ k : ℕ) : ℚ) - steps ≤ 0)] at nearer
  rw [abs_of_nonpos (by linarith : (other : ℚ) - steps ≤ 0)]
  linarith

theorem nearestSteps (rounds : RoundsTo steps k m) : NearestSteps steps (k * 2 ^ 52 + m) where
  near other := by
    rw [rounds.splits.stepsAt_eq]
    rcases exists_mul_or_lt k other with ⟨j, multiple⟩ | ⟨some_power, less⟩
    · rw [multiple, abs_mul_sub, abs_mul_sub, mul_le_mul_iff_of_pos_right (by positivity)]
      exact rounds.nearest.le j
    · exact (rounds.lt_of_lt some_power less).le
  even other tie differs := by
    rw [rounds.splits.stepsAt_eq] at tie differs
    rcases exists_mul_or_lt k other with ⟨j, multiple⟩ | ⟨some_power, less⟩
    · rw [multiple, abs_mul_sub, abs_mul_sub, mul_left_inj' (by positivity)] at tie
      have another : j ≠ m := fun same => differs (multiple.trans (same ▸ rfl))
      exact rounds.even_significandAt (rounds.nearest.even_of_eq tie another)
    · exact ((rounds.lt_of_lt some_power less).ne' tie).elim

end RoundsTo

theorem roundsTo_roundRatio {num den : ℕ} (num_pos : 0 < num) (den_pos : 0 < den) :
    RoundsTo (num / den * 2 ^ 1074) ((roundRatio 53 (-1074) num den).2 + 1074).toNat
      (roundRatio 53 (-1074) num den).1 := by
  obtain ⟨low, high⟩ := binaryOrder_spec num_pos den_pos
  obtain ⟨q, q_eq⟩ : ∃ q, q = max (binaryOrder num den - (53 : ℕ) + 1) (-1074) := ⟨_, rfl⟩
  have rounded : roundRatio 53 (-1074) num den =
      (divNearestEven (num * 2 ^ (-q).toNat) (den * 2 ^ q.toNat), q) := by
    rw [q_eq]
    rfl
  have power_pos : (0 : ℚ) < 2 ^ q := by positivity
  have unit : (num : ℚ) / den * 2 ^ 1074 / 2 ^ (q + 1074).toNat = num / den / 2 ^ q := by
    have power : (2 : ℚ) ^ (q + 1074).toNat = 2 ^ q * 2 ^ 1074 := by
      rw [← zpow_natCast, Int.toNat_of_nonneg (by omega), zpow_add₀ two_ne_zero, zpow_ofNat]
    rw [power, mul_div_mul_right _ _ (by positivity)]
  have quotient : ((num * 2 ^ (-q).toNat : ℕ) : ℚ) / (den * 2 ^ q.toNat : ℕ) =
      num / den / 2 ^ q := by
    push_cast
    rw [← zpow_mul_pow_toNat_neg q, ← mul_assoc, mul_div_mul_right _ _ (by positivity), div_div]
  rw [rounded]
  refine ⟨?_, ?_, ?_⟩
  · rw [unit, ← quotient]
    exact nearestWhole_divNearestEven (Nat.mul_pos den_pos (Nat.two_pow_pos _))
  · rw [unit, div_lt_iff₀ power_pos]
    calc (num : ℚ) / den < 2 ^ (binaryOrder num den + 1) := high
      _ ≤ 2 ^ (53 + q) := zpow_le_zpow_right₀ one_le_two (by omega)
      _ = 2 ^ 53 * 2 ^ q := by rw [zpow_add₀ two_ne_zero, zpow_ofNat]
  · rw [unit, le_div_iff₀ power_pos]
    rcases eq_or_ne q (-1074) with least | other
    · exact .inl (by rw [least]; rfl)
    · right
      calc (2 : ℚ) ^ 52 * 2 ^ q = 2 ^ (52 + q) := by rw [zpow_add₀ two_ne_zero, zpow_ofNat]
        _ = 2 ^ binaryOrder num den := congrArg _ (by omega)
        _ ≤ num / den := low

/-! ## Rounding a quotient -/

theorem signed_div (negative : Bool) (a b : ℚ) :
    signed negative (a / b) = signed negative a / b := by
  rw [div_eq_mul_inv, ReadBack.signed_mul, ← div_eq_mul_inv]

/-- A common sign does not change a distance. -/
theorem abs_signed_sub_signed (first second : Bool) (a b : ℚ) :
    |signed first a - signed second b| = |signed (first != second) a - b| := by
  rw [abs_eq_abs]
  cases first <;> cases second <;> simp [signed, add_comm, sub_eq_add_neg]

/-- The distance to a number of steps with a sign. -/
theorem abs_toRat_sub (y : Binary64) (negative : Bool) (steps : ℚ) :
    |y.toRat - signed negative (steps / 2 ^ 1074)| =
      |signed (y.isNegative != negative) (stepsAt y.magnitude : ℚ) - steps| / 2 ^ 1074 := by
  have positive : (0 : ℚ) < 2 ^ 1074 := by positivity
  rw [toRat_eq_signed, signed_div, signed_div, ← sub_div, abs_div, abs_of_pos positive,
    abs_signed_sub_signed]

/-- What is nearest among the magnitudes is nearest among the numbers, since those of the other sign
are not nearer than zero. -/
theorem NearestSteps.nearest {steps : ℚ} {magnitude : ℕ} (nearest : NearestSteps steps magnitude)
    (nonneg : 0 ≤ steps) (negative : Bool) (range : magnitude < infiniteMagnitude) :
    Nearest (signed negative (steps / 2 ^ 1074)) (ofMagnitude negative magnitude) := by
  have here := magnitude_ofMagnitude negative range
  have sign := isNegative_ofMagnitude negative range
  have positive : (0 : ℚ) < 2 ^ 1074 := by positivity
  have from_zero : |((stepsAt 0 : ℕ) : ℚ) - steps| = steps := by
    rw [stepsAt_zero, Nat.cast_zero, zero_sub, abs_neg, abs_of_nonneg nonneg]
  have no_further := from_zero ▸ nearest.near 0
  have distance : |(ofMagnitude negative magnitude).toRat - signed negative (steps / 2 ^ 1074)| =
      |(stepsAt magnitude : ℚ) - steps| / 2 ^ 1074 := by
    rw [abs_toRat_sub, here, sign, bne_self_eq_false]
    rfl
  have opposite (y : Binary64) : |signed true (stepsAt y.magnitude : ℚ) - steps| =
      stepsAt y.magnitude + steps := by
    have some_steps : (0 : ℚ) ≤ stepsAt y.magnitude := Nat.cast_nonneg _
    rw [signed, if_pos rfl, abs_of_nonpos (by linarith)]
    ring
  refine ⟨isFinite_ofMagnitude negative range, fun y _ => ?_, fun y _ tie differs => ?_⟩
  · rw [distance, abs_toRat_sub, div_le_div_iff_of_pos_right positive]
    cases y.isNegative != negative with
    | false => exact nearest.near y.magnitude
    | true =>
        rw [opposite]
        exact no_further.trans (le_add_of_nonneg_left (Nat.cast_nonneg _))
  · have significand : (ofMagnitude negative magnitude).significand = significandAt magnitude := by
      rw [significand, here, significandAt]
    rw [significand]
    rw [distance, abs_toRat_sub, div_left_inj' positive.ne'] at tie
    rw [toRat_eq_signed, toRat_eq_signed, here, sign] at differs
    cases sides : y.isNegative != negative with
    | false =>
        rw [sides] at tie
        rw [bne_eq_false_iff_eq.1 sides] at differs
        exact nearest.even y.magnitude tie fun same => differs (by rw [same])
    | true =>
        -- Then the other number is the zero of the other sign.
        rw [sides, opposite] at tie
        have none : (stepsAt y.magnitude : ℚ) = 0 :=
          le_antisymm (by linarith) (Nat.cast_nonneg _)
        rw [none, zero_add] at tie
        refine nearest.even 0 (from_zero.trans tie) fun same => differs ?_
        rw [none, ← same, stepsAt_zero, Nat.cast_zero, zero_div]
        simp [signed]

/-- Below `2 ^ 1023` a magnitude is rounded to one of a finite number. -/
theorem RoundsTo.lt_infiniteMagnitude {steps : ℚ} {k m : ℕ} (rounds : RoundsTo steps k m)
    (range : steps < 2 ^ 1023 * 2 ^ 1074) : k * 2 ^ 52 + m < infiniteMagnitude := by
  have power : k < 2045 := by
    rcases rounds.normal with none | normal
    · omega
    · rw [le_div_iff₀ (by positivity), ← pow_add] at normal
      rw [← pow_add] at range
      have less := (pow_lt_pow_iff_right₀ one_lt_two).1 (normal.trans_lt range)
      omega
  have significand := rounds.splits.le
  rw [infiniteMagnitude]
  omega

theorem nearest_ofRatio (negative : Bool) {num den : ℕ} (den_pos : 0 < den)
    (range : (num : ℚ) / den < 2 ^ 1023) :
    Nearest (signed negative ((num : ℚ) / den)) (ofRatio negative num den) := by
  have scale : (num : ℚ) / den = num / den * 2 ^ 1074 / 2 ^ 1074 :=
    (mul_div_cancel_right₀ _ (by positivity)).symm
  rw [scale]
  by_cases none : num = 0
  · subst none
    rw [ofRatio, if_pos rfl]
    have zero : NearestSteps (((0 : ℕ) : ℚ) / den * 2 ^ 1074) 0 :=
      ⟨fun other => by simp [stepsAt_zero], fun _ _ _ => ⟨0, rfl⟩⟩
    exact zero.nearest (by simp) negative (by decide)
  · have rounds := roundsTo_roundRatio (Nat.pos_of_ne_zero none) den_pos
    have finite := rounds.lt_infiniteMagnitude (mul_lt_mul_of_pos_right range (by positivity))
    have rounded : ofRatio negative num den = ofMagnitude negative
        (min (((roundRatio 53 (-1074) num den).2 + 1074).toNat * 2 ^ 52 +
          (roundRatio 53 (-1074) num den).1) infiniteMagnitude) := if_neg none
    rw [rounded, min_eq_left finite.le]
    exact rounds.nearestSteps.nearest (by positivity) negative finite

/-! ## Whole numbers -/

/-- A natural of at most 53 bits is shifted into a significand. -/
theorem exists_splits_of_le {n : ℕ} (pos : 0 < n) (short : n ≤ 2 ^ 53) :
    ∃ k shift, k + shift = 1074 ∧ Splits (k * 2 ^ 52 + n * 2 ^ shift) k (n * 2 ^ shift) := by
  have low := Nat.log2_self_le pos.ne'
  have high := Nat.lt_log2_self (n := n)
  refine ⟨1074 - (52 - n.log2), 52 - n.log2, by omega, rfl, ?_, .inr ?_⟩
  · rcases le_or_gt n.log2 52 with small | large
    · calc n * 2 ^ (52 - n.log2) ≤ 2 ^ (n.log2 + 1) * 2 ^ (52 - n.log2) :=
            Nat.mul_le_mul_right _ high.le
        _ = 2 ^ 53 := by rw [← Nat.pow_add]; congr 1; omega
    · rwa [Nat.sub_eq_zero_of_le large.le, Nat.pow_zero, Nat.mul_one]
  · calc 2 ^ 52 ≤ 2 ^ (n.log2 + (52 - n.log2)) := Nat.pow_le_pow_right two_pos (by omega)
      _ = 2 ^ n.log2 * 2 ^ (52 - n.log2) := Nat.pow_add ..
      _ ≤ n * 2 ^ (52 - n.log2) := Nat.mul_le_mul_right _ low

/-- A whole number of at most 53 bits is a number of the format. -/
theorem exists_toRat_eq_intCast {n : ℤ} (short : n.natAbs ≤ 2 ^ 53) :
    ∃ y : Binary64, y.isFinite = true ∧ y.toRat = n := by
  rcases Nat.eq_zero_or_pos n.natAbs with none | pos
  · obtain rfl := Int.natAbs_eq_zero.1 none
    refine ⟨ofMagnitude false 0, isFinite_ofMagnitude false (by decide), ?_⟩
    rw [toRat_ofMagnitude false (by decide), stepsAt_zero, Nat.cast_zero, zero_div, Int.cast_zero]
    rfl
  · obtain ⟨k, shift, total, splits⟩ := exists_splits_of_le pos short
    have range : k * 2 ^ 52 + n.natAbs * 2 ^ shift < infiniteMagnitude := by
      have significand := splits.le
      rw [infiniteMagnitude]
      omega
    refine ⟨ofMagnitude (decide (n < 0)) _, isFinite_ofMagnitude _ range, ?_⟩
    have scale : (n.natAbs * 2 ^ shift * 2 ^ k : ℕ) / (2 : ℚ) ^ 1074 = n.natAbs := by
      rw [← total, Nat.mul_assoc, ← Nat.pow_add, Nat.add_comm, Nat.cast_mul, Nat.cast_pow]
      exact mul_div_cancel_right₀ _ (pow_ne_zero _ two_ne_zero)
    rw [toRat_ofMagnitude _ range, splits.stepsAt_eq, scale, ReadBack.signed_cast,
      ReadBack.signed_natAbs]

/-- A number with a fraction lies between whole numbers of at most 53 bits. -/
theorem abs_toRat_lt_of_not_whole {x : Binary64} (fraction : ¬IsWhole x.toRat) :
    |x.toRat| < 2 ^ 53 := by
  rw [isWhole_toRat_iff] at fraction
  have below : x.exponent ≤ 0 := by
    by_contra! above
    rw [Int.toNat_of_nonpos (by omega)] at fraction
    exact fraction (one_dvd _)
  have absolute : |x.toRat| = x.significand * 2 ^ x.exponent := by
    rw [toRat, ← abs_of_nonneg (by positivity : (0 : ℚ) ≤ x.significand * 2 ^ x.exponent),
      abs_eq_abs]
    cases x.isNegative with
    | false => exact .inl (abs_of_nonneg (by positivity))
    | true => exact .inr (congrArg _ (abs_of_nonneg (by positivity)))
  have significand : (x.significand : ℚ) < 2 ^ 53 := by
    exact_mod_cast (splits_significandAt x.magnitude).2
  calc |x.toRat| = x.significand * 2 ^ x.exponent := absolute
    _ ≤ x.significand * 1 :=
        mul_le_mul_of_nonneg_left (zpow_le_one_of_nonpos₀ one_le_two below) (by positivity)
    _ < 2 ^ 53 := by rwa [mul_one]

/-- What is whole stays whole. -/
theorem Nearest.isWhole {q : ℚ} {r : Binary64} (nearest : Nearest q r) (whole : IsWhole q) :
    IsWhole r.toRat := by
  obtain ⟨n, rfl⟩ := whole
  by_contra fraction
  obtain ⟨low, high⟩ := abs_lt.1 (abs_toRat_lt_of_not_whole fraction)
  have floor_low : -2 ^ 53 ≤ ⌊r.toRat⌋ := Int.le_floor.2 (by exact_mod_cast low.le)
  have floor_high : ⌊r.toRat⌋ < 2 ^ 53 := Int.floor_lt.2 (by exact_mod_cast high)
  rcases le_or_gt n ⌊r.toRat⌋ with down | up
  · obtain ⟨b, finite, same⟩ := exists_toRat_eq_intCast (n := ⌊r.toRat⌋) (by omega)
    have beneath := nearest.le_of_le finite (by rw [same]; exact_mod_cast down)
    exact fraction ⟨⌊r.toRat⌋, (Int.floor_le _).antisymm (same ▸ beneath)⟩
  · obtain ⟨b, finite, same⟩ := exists_toRat_eq_intCast (n := ⌊r.toRat⌋ + 1) (by omega)
    have beyond := nearest.ge_of_ge finite (by rw [same]; exact_mod_cast up)
    rw [same, Int.cast_add, Int.cast_one] at beyond
    exact (Int.lt_floor_add_one r.toRat).not_ge beyond

/-- A whole number of at most 53 bits is rounded to itself. -/
theorem Nearest.eq_intCast {n : ℤ} {r : Binary64} (nearest : Nearest n r)
    (short : n.natAbs ≤ 2 ^ 53) : r.toRat = n := by
  obtain ⟨b, finite, same⟩ := exists_toRat_eq_intCast short
  exact nearest.eq_of_eq finite same

/-! ## Integers and decimals -/

theorem nearest_ofRatio_of_lt (negative : Bool) {num den : ℕ} (den_pos : 0 < den)
    (small : num < 2 ^ 96) :
    Nearest (signed negative ((num : ℚ) / den)) (ofRatio negative num den) := by
  have whole : (1 : ℚ) ≤ den := by exact_mod_cast den_pos
  refine nearest_ofRatio negative den_pos ?_
  calc (num : ℚ) / den ≤ num := div_le_self (Nat.cast_nonneg _) whole
    _ < 2 ^ 96 := by exact_mod_cast small
    _ < 2 ^ 1023 := pow_lt_pow_right₀ one_lt_two (by norm_num)

theorem nearest_ofInt {n : ℤ} (small : n.natAbs < 2 ^ 96) : Nearest n (ofInt n) := by
  have rounded := nearest_ofRatio_of_lt (decide (n < 0)) Nat.one_pos small
  rwa [Nat.cast_one, div_one, ReadBack.signed_cast, ReadBack.signed_natAbs] at rounded

theorem nearest_toBinary64 (d : Decimal) : Nearest (ReadBack.decimalNumber d) d.toBinary64 := by
  have number : signed d.negative ((d.magnitude : ℚ) / (10 ^ d.scale : ℕ)) =
      ReadBack.decimalNumber d := by
    rw [signed_div, ReadBack.signed_cast, ReadBack.decimalNumber, zpow_neg, zpow_natCast,
      div_eq_mul_inv, Nat.cast_pow, Nat.cast_ofNat]
    rfl
  rw [← number]
  exact nearest_ofRatio_of_lt _ (Nat.pow_pos (by decide)) d.magnitude_lt

end TableGateway.Numeric.Binary64

import TableGateway.Calendar.Text
import TableGateway.Proofs.ReadBack.Number

/-!
# The steps that shorten a fraction

Every step drops a zero and its place, so it keeps the fraction that the digits are. What is left
where the steps end does not end with a zero.
-/

namespace TableGateway.Calendar

open Numeric (digits length_paddedDigits_of_lt paddedDigits)
open ReadBack (isDigit_paddedDigits ofDigitChars_paddedDigits)

/-- The last digit of a number in places. -/
theorem getLast?_paddedDigits (width n : Nat) :
    (paddedDigits width n).getLast? = some (Nat.digitChar (n % 10)) := by
  rw [paddedDigits, digits, Nat.toDigits_eq_if (by decide)]
  split
  · next single => rw [Nat.mod_eq_of_lt single, List.getLast?_concat]
  · rw [← List.append_assoc, List.getLast?_concat]

namespace Places

/-! ## The digits -/

theorem length_text (places : Places) : places.text.length = places.width :=
  length_paddedDigits_of_lt places.width_pos places.lt

theorem text_ne_nil (places : Places) : places.text ≠ [] := by
  rw [← List.length_pos_iff, places.length_text]
  exact places.width_pos

theorem isDigit_text {places : Places} {c : Char} (mem : c ∈ places.text) : c.isDigit = true :=
  isDigit_paddedDigits mem

/-- The part of one that the digits are behind a point. -/
def fraction (places : Places) : ℚ :=
  places.number / 10 ^ places.width

theorem ofDigitChars_text (places : Places) :
    (Nat.ofDigitChars 10 places.text 0 : ℚ) / 10 ^ places.text.length = places.fraction := by
  rw [places.length_text, text, ofDigitChars_paddedDigits, fraction]

theorem getLast?_text {places : Places} (stop : places.step? = none) :
    places.text.getLast? ≠ some '0' := by
  have other : ∀ d < 10, d ≠ 0 → Nat.digitChar d ≠ '0' := by decide
  have last : places.number % 10 ≠ 0 := by
    intro zero
    rw [step?, dif_pos zero] at stop
    cases stop
  rw [text, getLast?_paddedDigits]
  exact fun same => other _ (Nat.mod_lt _ (by decide)) last (Option.some.inj same)

/-! ## The steps -/

/-- So many steps lead from one state to another. -/
inductive Execution : Nat → Places → Places → Prop where
  | refl (places : Places) : Execution 0 places places
  | next {n : Nat} {first second last : Places} (step : first.step? = some second)
      (rest : Execution n second last) : Execution (n + 1) first last

theorem fraction_of_step? {places next : Places} (step : places.step? = some next) :
    next.fraction = places.fraction := by
  obtain ⟨whole, narrower⟩ := eq_of_step? step
  rw [fraction, fraction, whole, ← narrower, pow_succ', Nat.cast_mul]
  exact (mul_div_mul_left _ _ (by norm_num)).symm

theorem Execution.fraction_eq {n : Nat} {first last : Places} (run : Execution n first last) :
    last.fraction = first.fraction := by
  induction run with
  | refl places => rfl
  | next step rest ih => exact ih.trans (fraction_of_step? step)

/-- Every step takes one of the places. -/
theorem Execution.width_add {n : Nat} {first last : Places} (run : Execution n first last) :
    last.width + n = first.width := by
  induction run with
  | refl places => rfl
  | next step rest ih =>
      have := (eq_of_step? step).2
      omega

/-- The steps end, with all zeros dropped. -/
theorem exists_execution_strip (places : Places) :
    (∃ n, Execution n places places.strip) ∧ places.strip.step? = none := by
  induction places using strip.induct with
  | case1 places stop =>
      rw [strip_of_stop stop]
      exact ⟨⟨0, .refl places⟩, stop⟩
  | case2 places next step ih =>
      obtain ⟨⟨n, run⟩, stop⟩ := ih
      rw [strip_of_step step]
      exact ⟨⟨n + 1, .next step run⟩, stop⟩

end Places

end TableGateway.Calendar

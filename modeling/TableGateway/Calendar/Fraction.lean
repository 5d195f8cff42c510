import TableGateway.Calendar.Basic
import TableGateway.Numeric.Digits

/-!
# Places behind a second

The microseconds behind a second stand in six places and are written without the zeros at their
end. As long as the number ends with a zero, a step drops it and one of the places with it, so zeros
in front stay. Zero itself would lose every place; it is no such number.
-/

namespace TableGateway.Calendar

attribute [local instance (high)] instPowNat

open Numeric (paddedDigits)

/-- A number that is not zero, in places with room for it. -/
structure Places where
  number : Nat
  width : Nat
  pos : 0 < number
  lt : number < 10 ^ width

namespace Places

theorem width_pos (places : Places) : 0 < places.width := by
  refine Nat.pos_of_ne_zero fun none => ?_
  have pos := places.pos
  have lt := places.lt
  rw [none, Nat.pow_zero] at lt
  omega

theorem div_ten_lt (places : Places) : places.number / 10 < 10 ^ (places.width - 1) := by
  have room : 10 ^ places.width = 10 ^ (places.width - 1) * 10 := by
    rw [← Nat.pow_succ, Nat.succ_eq_add_one, Nat.sub_add_cancel places.width_pos]
  have lt := places.lt
  rw [room] at lt
  exact Nat.div_lt_of_lt_mul (by rwa [Nat.mul_comm])

def next (places : Places) (zero : places.number % 10 = 0) : Places where
  number := places.number / 10
  width := places.width - 1
  pos := by
    have := places.pos
    omega
  lt := places.div_ten_lt

/-- Drops a zero that the number ends with, and its place. -/
def step? (places : Places) : Option Places :=
  if zero : places.number % 10 = 0 then some (places.next zero) else none

theorem eq_of_step? {places next : Places} (step : places.step? = some next) :
    places.number = 10 * next.number ∧ next.width + 1 = places.width := by
  unfold step? at step
  split at step
  · next zero =>
      obtain rfl := Option.some.inj step
      exact ⟨(Nat.mul_div_cancel' (Nat.dvd_of_mod_eq_zero zero)).symm,
        Nat.sub_add_cancel places.width_pos⟩
  · cases step

def strip (places : Places) : Places :=
  match _ : places.step? with
  | none => places
  | some next => strip next
termination_by places.number
decreasing_by
  have := (eq_of_step? ‹places.step? = some next›).1
  have := next.pos
  omega

theorem strip_of_stop {places : Places} (stop : places.step? = none) : places.strip = places := by
  rw [strip]
  split
  · rfl
  · next step => exact absurd (stop.symm.trans step) nofun

theorem strip_of_step {places next : Places} (step : places.step? = some next) :
    places.strip = next.strip := by
  rw [strip]
  split
  · next stop => exact absurd (stop.symm.trans step) nofun
  · next same => rw [Option.some.inj (same.symm.trans step)]

def text (places : Places) : List Char :=
  paddedDigits places.width places.number

end Places

theorem Time.microsecond_lt (time : Time) : time.microsecond < 10 ^ (6 : Nat) := by
  have := time.nanosecond_lt
  unfold microsecond
  omega

def Time.places (time : Time) (some : time.microsecond ≠ 0) : Places :=
  ⟨time.microsecond, 6, Nat.pos_of_ne_zero some, time.microsecond_lt⟩

end TableGateway.Calendar

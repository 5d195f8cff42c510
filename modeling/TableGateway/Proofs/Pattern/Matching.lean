import Mathlib.Data.Nat.Bitwise
import Mathlib.Tactic.Ring
import TableGateway.Pattern.Matcher

/-!
# What an expression matches

An expression matches the characters of a text from one position to another by its structure alone.
The matcher carries sets of positions instead of positions, and an unbounded repetition stops after
as many rounds as the text has positions. Since no round goes back, the rounds that stay where they
are can be left out, so no position is missed. The matcher finds a match exactly when there is one.
-/

namespace TableGateway.Pattern

/-! ## Matches by the structure of the expression -/

def Rounds (rel : Nat → Nat → Prop) : Nat → Nat → Nat → Prop
  | 0, i, j => i = j
  | count + 1, i, j => ∃ k, rel i k ∧ Rounds rel count k j

section

variable {rel : Nat → Nat → Prop} {i j : Nat}

theorem rounds_add {first second : Nat} :
    Rounds rel (first + second) i j ↔ ∃ k, Rounds rel first i k ∧ Rounds rel second k j := by
  induction first generalizing i with
  | zero => simp [Rounds]
  | succ first ih =>
      rw [Nat.succ_add, Rounds]
      constructor
      · rintro ⟨k, step, rounds⟩
        obtain ⟨m, front, back⟩ := ih.1 rounds
        exact ⟨m, ⟨k, step, front⟩, back⟩
      · rintro ⟨m, ⟨k, step, front⟩, back⟩
        exact ⟨k, step, ih.2 ⟨m, front, back⟩⟩

theorem Rounds.le (forward : ∀ i j, rel i j → i ≤ j) {count : Nat}
    (rounds : Rounds rel count i j) : i ≤ j := by
  induction count generalizing i with
  | zero => exact Nat.le_of_eq rounds
  | succ count ih =>
      obtain ⟨k, step, rounds⟩ := rounds
      exact Nat.le_trans (forward i k step) (ih rounds)

/-- Of steps that do not go back those that stay can be left out, and then there are no more of them
than positions are passed. -/
theorem Rounds.shorten (forward : ∀ i j, rel i j → i ≤ j) {count : Nat}
    (rounds : Rounds rel count i j) :
    ∃ fewer, fewer ≤ count ∧ fewer ≤ j - i ∧ Rounds rel fewer i j := by
  induction count generalizing i with
  | zero => exact ⟨0, Nat.le_refl 0, Nat.zero_le _, rounds⟩
  | succ count ih =>
      obtain ⟨k, step, rounds⟩ := rounds
      obtain ⟨fewer, le, short, rest⟩ := ih rounds
      have front := forward i k step
      have back := rest.le forward
      by_cases stays : i = k
      · subst stays
        exact ⟨fewer, Nat.le_succ_of_le le, short, rest⟩
      · exact ⟨fewer + 1, Nat.succ_le_succ le, by omega, k, step, rest⟩

end

/-! ## Sets of positions -/

def Within (length positions : Nat) : Prop :=
  ∀ i, positions.testBit i = true → i ≤ length

/-- A step on sets of positions leads to exactly the positions that a relation leads to, and that
relation neither goes back nor leaves the text. -/
structure Computes (length : Nat) (step : Nat → Nat) (rel : Nat → Nat → Prop) : Prop where
  testBit_iff : ∀ {starts : Nat}, Within length starts → ∀ j,
    (step starts).testBit j = true ↔ ∃ i, starts.testBit i = true ∧ rel i j
  forward : ∀ i j, rel i j → i ≤ j
  stays : ∀ i j, rel i j → i ≤ length → j ≤ length

section

variable {length : Nat} {step : Nat → Nat} {rel : Nat → Nat → Prop}

theorem Computes.within (computes : Computes length step rel) {starts : Nat}
    (inside : Within length starts) : Within length (step starts) := by
  intro j reached
  obtain ⟨i, start, leads⟩ := (computes.testBit_iff inside j).1 reached
  exact computes.stays i j leads (inside i start)

theorem Computes.comp {next : Nat → Nat} {rest : Nat → Nat → Prop}
    (first : Computes length step rel) (second : Computes length next rest) :
    Computes length (fun starts => next (step starts)) fun i j => ∃ k, rel i k ∧ rest k j where
  testBit_iff := by
    intro starts inside j
    rw [second.testBit_iff (first.within inside)]
    constructor
    · rintro ⟨k, reached, leads⟩
      obtain ⟨i, start, step⟩ := (first.testBit_iff inside k).1 reached
      exact ⟨i, start, k, step, leads⟩
    · rintro ⟨i, start, k, step, leads⟩
      exact ⟨k, (first.testBit_iff inside k).2 ⟨i, start, step⟩, leads⟩
  forward := by
    rintro i j ⟨k, step, leads⟩
    exact Nat.le_trans (first.forward i k step) (second.forward k j leads)
  stays := by
    rintro i j ⟨k, step, leads⟩ inside
    exact second.stays k j leads (first.stays i k step inside)

theorem Computes.congr {other : Nat → Nat → Prop} (computes : Computes length step rel)
    (same : ∀ i j, i ≤ length → (rel i j ↔ other i j)) (forward : ∀ i j, other i j → i ≤ j)
    (stays : ∀ i j, other i j → i ≤ length → j ≤ length) : Computes length step other where
  testBit_iff := by
    intro starts inside j
    rw [computes.testBit_iff inside]
    constructor
    · rintro ⟨i, start, leads⟩
      exact ⟨i, start, (same i j (inside i start)).1 leads⟩
    · rintro ⟨i, start, leads⟩
      exact ⟨i, start, (same i j (inside i start)).2 leads⟩
  forward := forward
  stays := stays

/-- Rounds of a relation that stays in the text stay in it. -/
theorem Computes.rounds_stay (computes : Computes length step rel) {count i j : Nat}
    (rounds : Rounds rel count i j) (inside : i ≤ length) : j ≤ length := by
  induction count generalizing i with
  | zero => exact Nat.le_trans (Nat.le_of_eq rounds.symm) inside
  | succ count ih =>
      obtain ⟨k, step, rounds⟩ := rounds
      exact ih rounds (computes.stays i k step inside)

theorem Computes.times (computes : Computes length step rel) (count : Nat) :
    Computes length (times step count) (Rounds rel count) where
  testBit_iff := by
    induction count with
    | zero =>
        intro starts _ j
        simp [Pattern.times, Rounds]
    | succ count ih =>
        intro starts inside j
        rw [Pattern.times]
        by_cases empty : starts = 0
        · simp [empty]
        · rw [if_neg empty, ih (computes.within inside)]
          constructor
          · rintro ⟨k, reached, rounds⟩
            obtain ⟨i, start, leads⟩ := (computes.testBit_iff inside k).1 reached
            exact ⟨i, start, k, leads, rounds⟩
          · rintro ⟨i, start, k, leads, rounds⟩
            exact ⟨k, (computes.testBit_iff inside k).2 ⟨i, start, leads⟩, rounds⟩
  forward := fun _ _ rounds => rounds.le computes.forward
  stays := fun _ _ rounds => computes.rounds_stay rounds

/-- A set that its own step does not grow has all positions that rounds lead to. -/
theorem Computes.testBit_of_closed (computes : Computes length step rel) {starts : Nat}
    (inside : Within length starts) (closed : starts ||| step starts = starts) {count i j : Nat}
    (start : starts.testBit i = true) (rounds : Rounds rel count i j) :
    starts.testBit j = true := by
  induction count generalizing i with
  | zero => exact rounds ▸ start
  | succ count ih =>
      obtain ⟨k, leads, rounds⟩ := rounds
      refine ih ?_ rounds
      rw [← closed, Nat.testBit_or, (computes.testBit_iff inside k).2 ⟨i, start, leads⟩,
        Bool.or_true]

theorem Computes.upTo (computes : Computes length step rel) (most : Nat) :
    Computes length (upTo step most) fun i j => ∃ count ≤ most, Rounds rel count i j where
  testBit_iff := by
    induction most with
    | zero =>
        intro starts _ j
        simp [Pattern.upTo, Rounds]
    | succ most ih =>
        intro starts inside j
        rw [Pattern.upTo]
        split
        -- The rounds end early at a set that they do not grow, as no more of them lead out of it.
        case isTrue closed =>
          constructor
          · intro start
            exact ⟨j, start, 0, Nat.zero_le _, rfl⟩
          · rintro ⟨i, start, count, -, rounds⟩
            exact computes.testBit_of_closed inside closed start rounds
        case isFalse =>
          have reached : ∀ i, (starts ||| step starts).testBit i = true ↔
              starts.testBit i = true ∨ ∃ k, starts.testBit k = true ∧ rel k i := by
            intro i
            rw [Nat.testBit_or, Bool.or_eq_true, computes.testBit_iff inside]
          have grown : Within length (starts ||| step starts) := by
            intro i there
            rcases (reached i).1 there with start | ⟨k, start, leads⟩
            · exact inside i start
            · exact computes.stays k i leads (inside k start)
          rw [ih grown]
          constructor
          · rintro ⟨i, there, count, le, rounds⟩
            rcases (reached i).1 there with start | ⟨k, start, leads⟩
            · exact ⟨i, start, count, Nat.le_succ_of_le le, rounds⟩
            · exact ⟨k, start, count + 1, Nat.succ_le_succ le, i, leads, rounds⟩
          · rintro ⟨i, start, count, le, rounds⟩
            cases count with
            | zero => exact ⟨i, (reached i).2 (.inl start), 0, Nat.zero_le _, rounds⟩
            | succ count =>
                obtain ⟨k, leads, rounds⟩ := rounds
                exact ⟨k, (reached k).2 (.inr ⟨i, start, leads⟩), count,
                  Nat.le_of_succ_le_succ le, rounds⟩
  forward := by
    rintro i j ⟨count, -, rounds⟩
    exact rounds.le computes.forward
  stays := by
    rintro i j ⟨count, -, rounds⟩
    exact computes.rounds_stay rounds

/-- A least number of rounds and then more of them, up to a bound or as many as the text has
positions, are all numbers of rounds from the least one on, up to the bound if there is one. -/
theorem Computes.rep (computes : Computes length step rel) (least : Nat) (most : Option Nat) :
    Computes length
      (fun starts => Pattern.upTo step (match most with
        | some n => n - least
        | none => length + 1) (Pattern.times step least starts))
      fun i j => ∃ count, least ≤ count ∧ (∀ n ∈ most, count ≤ max least n) ∧
        Rounds rel count i j := by
  refine ((computes.times least).comp (computes.upTo _)).congr ?_ ?_ ?_
  · intro i j inside
    constructor
    · rintro ⟨k, front, count, le, back⟩
      refine ⟨least + count, Nat.le_add_right _ _, ?_, rounds_add.2 ⟨k, front, back⟩⟩
      rintro n rfl
      have le : count ≤ n - least := le
      omega
    · rintro ⟨count, le, bound, rounds⟩
      obtain ⟨more, rfl⟩ := Nat.exists_eq_add_of_le le
      obtain ⟨k, front, back⟩ := rounds_add.1 rounds
      cases most with
      | some n =>
          have bound := bound n rfl
          exact ⟨k, front, more, by dsimp only; omega, back⟩
      | none =>
          -- There may be more rounds than the matcher makes, but only by rounds that stay in place.
          obtain ⟨fewer, -, short, back⟩ := back.shorten computes.forward
          have inside := computes.rounds_stay back (computes.rounds_stay front inside)
          exact ⟨k, front, fewer, by dsimp only; omega, back⟩
  · rintro i j ⟨count, -, -, rounds⟩
    exact rounds.le computes.forward
  · rintro i j ⟨count, -, -, rounds⟩
    exact computes.rounds_stay rounds

end

/-! ## The matcher -/

theorem Computes.alt {length : Nat} {left right : Nat → Nat} {rel other : Nat → Nat → Prop}
    (first : Computes length left rel) (second : Computes length right other) :
    Computes length (fun starts => left starts ||| right starts) fun i j =>
      rel i j ∨ other i j where
  testBit_iff := by
    intro starts inside j
    rw [Nat.testBit_or, Bool.or_eq_true, first.testBit_iff inside, second.testBit_iff inside]
    constructor
    · rintro (⟨i, start, leads⟩ | ⟨i, start, leads⟩)
      · exact ⟨i, start, .inl leads⟩
      · exact ⟨i, start, .inr leads⟩
    · rintro ⟨i, start, leads | leads⟩
      · exact .inl ⟨i, start, leads⟩
      · exact .inr ⟨i, start, leads⟩
  forward := by
    rintro i j (leads | leads)
    · exact first.forward i j leads
    · exact second.forward i j leads
  stays := by
    rintro i j (leads | leads)
    · exact first.stays i j leads
    · exact second.stays i j leads

namespace Regex

end Regex

end TableGateway.Pattern

import TableGateway.Proofs.Calendar.Fraction
import TableGateway.Proofs.ReadBack.Limit
import TableGateway.Sql.Literal

/-!
# Dates and times read back

A reader of temporal literals that knows the calendar and nothing of widths and loops: the numbers
of a date stand between hyphens and those of a time between colons, all but the year in two digits,
and places may stand behind the second. A date is read back whole, and a time up to the nanoseconds
behind its last whole microsecond.
-/

namespace TableGateway.ReadBack

open Calendar (Date Places Time Timestamp yearText)
open Numeric (length_paddedDigits_of_lt paddedDigits)
open Sql (Dialect literal plainLiteral)

/-! ## The readers -/

def readYear (text : List Char) : Option (Int × List Char) :=
  (readCount (readSign text).2).map fun read =>
    (signed (readSign text).1 (read.1 : Int), read.2)

def readPair : Reader Nat
  | c :: d :: rest =>
      if c.isDigit && d.isDigit then some (Nat.ofDigitChars 10 [c, d] 0, rest) else none
  | _ => none

def readDate (text : List Char) : Option (Date × List Char) := do
  let (year, text) ← readYear text
  let (month, text) ← readPair (← after? ['-'] text)
  let (day, text) ← readPair (← after? ['-'] text)
  let date ← Date.ofParts? year month day
  return (date, text)

/-- What a clock shows: a second may have places behind a point. -/
structure Clock where
  hour : Nat
  minute : Nat
  second : Nat
  places : List Char

def Clock.fraction (clock : Clock) : ℚ :=
  Nat.ofDigitChars 10 clock.places 0 / 10 ^ clock.places.length

def readClock (text : List Char) : Option (Clock × List Char) := do
  let (hour, text) ← readPair text
  let (minute, text) ← readPair (← after? [':'] text)
  let (second, text) ← readPair (← after? [':'] text)
  let (places, text) ← readPlaces text
  return (⟨hour, minute, second, places⟩, text)

def readDateAndClock (text : List Char) : Option ((Date × Clock) × List Char) := do
  let (date, text) ← readDate text
  let (clock, text) ← readClock (← after? [' '] text)
  return ((date, clock), text)

def readQuoted {α : Type} (item : Reader α) (text : List Char) : Option (α × List Char) := do
  let (a, text) ← item (← after? ['\''] text)
  let text ← after? ['\''] text
  return (a, text)

/-! ## What is shown -/

def IsPair (text : List Char) : Prop :=
  text.length = 2 ∧ ∀ c ∈ text, c.isDigit = true

/-- A clock shows a time up to its whole microseconds, in no more places than they need. -/
structure Clock.Shows (clock : Clock) (time : Time) : Prop where
  hour : clock.hour = time.hour
  minute : clock.minute = time.minute
  second : clock.second = time.second
  fraction : clock.fraction = ((time.nanosecond / 1000 : Nat) : ℚ) / 10 ^ 6
  some_places : clock.places ≠ [] ↔ time.nanosecond / 1000 ≠ 0
  isDigit : ∀ c ∈ clock.places, c.isDigit = true
  length_le : clock.places.length ≤ 6
  getLast? : clock.places.getLast? ≠ some '0'

/-! ## Pairs and years -/

theorem digitsOver_cons {c : Char} (rest : List Char) (other : c.isDigit = false) :
    DigitsOver (c :: rest) :=
  Next.cons rest other

theorem isPair_paddedDigits {n : Nat} (short : n < 100) : IsPair (paddedDigits 2 n) :=
  ⟨length_paddedDigits_of_lt (by decide) short, fun _ => isDigit_paddedDigits⟩

theorem readPair_append {pair : List Char} (two : IsPair pair) (rest : List Char) :
    readPair (pair ++ rest) = some (Nat.ofDigitChars 10 pair 0, rest) := by
  obtain ⟨length, all⟩ := two
  obtain ⟨c, d, rfl⟩ := List.length_eq_two.1 length
  have first : c.isDigit = true := all c (by simp)
  have second : d.isDigit = true := all d (by simp)
  rw [List.cons_append, List.cons_append, List.nil_append, readPair, first, second]
  rfl

theorem readPair_paddedDigits {n : Nat} (short : n < 100) (rest : List Char) :
    readPair (paddedDigits 2 n ++ rest) = some (n, rest) := by
  rw [readPair_append (isPair_paddedDigits short), ofDigitChars_paddedDigits]

theorem paddedDigits_ne_nil (width n : Nat) : paddedDigits width n ≠ [] := by
  intro empty
  exact digits_ne_nil n (List.append_eq_nil_iff.1 empty).2

theorem readCount_paddedDigits (width n : Nat) {rest : List Char} (ends : DigitsOver rest) :
    readCount (paddedDigits width n ++ rest) = some (n, rest) := by
  rw [readCount, readDigits_append (paddedDigits_ne_nil width n) (fun _ => isDigit_paddedDigits)
    ends, Option.map_some, ofDigitChars_paddedDigits]

/-- A year is written as its sign and padded digits, of which the sign takes a place. -/
theorem yearText_eq (signed unsigned : Nat) (year : Int) :
    ∃ width, yearText signed unsigned year =
      signText (decide (year < 0)) ++ paddedDigits width year.natAbs := by
  unfold yearText
  split
  · next negative => exact ⟨signed, by rw [decide_eq_true negative]; rfl⟩
  · next positive => exact ⟨unsigned, by rw [decide_eq_false positive]; rfl⟩

theorem readYear_yearText (signed unsigned : Nat) (year : Int) {rest : List Char}
    (ends : DigitsOver rest) :
    readYear (yearText signed unsigned year ++ rest) = some (year, rest) := by
  obtain ⟨width, written⟩ := yearText_eq signed unsigned year
  have sign := readSign_signText (decide (year < 0)) rest (paddedDigits_ne_nil width year.natAbs)
    fun _ => isDigit_paddedDigits
  rw [written, List.append_assoc, readYear, sign, readCount_paddedDigits width year.natAbs ends,
    Option.map_some, signed_natAbs]

/-! ## Dates -/

theorem ofParts?_parts (date : Date) : Date.ofParts? date.year date.month date.day = some date :=
  dif_pos ⟨date.year_range, date.month_range, date.day_range⟩

theorem month_lt (date : Date) : date.month < 100 := by
  have := date.month_range
  omega

theorem day_lt (date : Date) : date.day < 100 := by
  have := date.day_range
  have := Calendar.daysIn_le date.year date.month
  omega

theorem readDate_literal (date : Date) (rest : List Char) :
    readDate (date.literal ++ rest) = some (date, rest) := by
  have year := readYear_yearText 3 4 date.year (digitsOver_cons
    (paddedDigits 2 date.month ++ '-' :: (paddedDigits 2 date.day ++ rest)) (c := '-') rfl)
  have month := readPair_paddedDigits (month_lt date) ('-' :: (paddedDigits 2 date.day ++ rest))
  have day := readPair_paddedDigits (day_lt date) rest
  have parts : date.literal ++ rest = yearText 3 4 date.year ++
      '-' :: (paddedDigits 2 date.month ++ '-' :: (paddedDigits 2 date.day ++ rest)) := by
    simp only [Date.literal, Date.monthDay, List.append_assoc, List.cons_append]
  rw [parts, readDate, year]
  simp [after?, month, day, ofParts?_parts]

/-! ## Times -/

theorem lt_of_mem_parts {date : Date} {time : Time} {n : Nat}
    (part : n ∈ [date.month, date.day, time.hour, time.minute, time.second]) : n < 100 := by
  have := month_lt date
  have := day_lt date
  have := time.hour_lt
  have := time.minute_lt
  have := time.second_lt
  simp only [List.mem_cons, List.not_mem_nil, or_false] at part
  omega

/-- A time is written with the places of a clock that shows it. -/
theorem exists_shows (time : Time) :
    ∃ clock : Clock, clock.Shows time ∧ time.fraction = Numeral.pointText clock.places := by
  by_cases zero : time.microsecond = 0
  · refine ⟨⟨time.hour, time.minute, time.second, []⟩,
      ⟨rfl, rfl, rfl, ?_, ?_, nofun, Nat.zero_le 6, nofun⟩, dif_pos zero⟩
    · change time.nanosecond / 1000 = 0 at zero
      simp [Clock.fraction, zero]
    · exact ⟨fun some => absurd rfl some, fun some => absurd zero some⟩
  · let last := (time.places zero).strip
    obtain ⟨⟨n, run⟩, stop⟩ := (time.places zero).exists_execution_strip
    have written : time.fraction = '.' :: last.text := dif_neg zero
    have width : last.width + n = 6 := run.width_add
    refine ⟨⟨time.hour, time.minute, time.second, last.text⟩,
      ⟨rfl, rfl, rfl, ?_, ⟨fun _ => zero, fun _ => last.text_ne_nil⟩, fun _ => Places.isDigit_text,
        ?_, Places.getLast?_text stop⟩,
      written.trans (pointText_of_ne_nil last.text_ne_nil).symm⟩
    · exact last.ofDigitChars_text.trans run.fraction_eq
    · change last.text.length ≤ 6
      rw [last.length_text]
      omega

theorem readClock_literal {time : Time} {clock : Clock} (shows : clock.Shows time)
    (fraction : time.fraction = Numeral.pointText clock.places) {rest : List Char}
    (digits : DigitsOver rest) (point : rest.head? ≠ some '.') :
    readClock (time.literal ++ rest) = some (clock, rest) := by
  obtain ⟨hour, minute, second, places⟩ := clock
  obtain rfl : hour = time.hour := shows.hour
  obtain rfl : minute = time.minute := shows.minute
  obtain rfl : second = time.second := shows.second
  have back := readPlaces_pointText shows.isDigit digits point
  have second := readPair_paddedDigits (Nat.lt_trans time.second_lt (by decide : 60 < 100))
    (Numeral.pointText places ++ rest)
  have minute := readPair_paddedDigits (Nat.lt_trans time.minute_lt (by decide : 60 < 100))
    (':' :: (paddedDigits 2 time.second ++ (Numeral.pointText places ++ rest)))
  have hour := readPair_paddedDigits (Nat.lt_trans time.hour_lt (by decide : 24 < 100))
    (':' :: (paddedDigits 2 time.minute ++
      ':' :: (paddedDigits 2 time.second ++ (Numeral.pointText places ++ rest))))
  have parts : time.literal ++ rest = paddedDigits 2 time.hour ++
      ':' :: (paddedDigits 2 time.minute ++
        ':' :: (paddedDigits 2 time.second ++ (Numeral.pointText places ++ rest))) := by
    simp only [Time.literal, fraction, List.append_assoc, List.cons_append]
  rw [parts, readClock, hour]
  simp [after?, minute, second, back]

theorem readDateAndClock_literal (date : Date) {time : Time} {clock : Clock}
    (shows : clock.Shows time) (fraction : time.fraction = Numeral.pointText clock.places)
    {rest : List Char} (digits : DigitsOver rest) (point : rest.head? ≠ some '.') :
    readDateAndClock ((⟨date, time⟩ : Timestamp).literal ++ rest) = some ((date, clock), rest) := by
  have front := readDate_literal date (' ' :: (time.literal ++ rest))
  have back := readClock_literal shows fraction digits point
  have parts : (⟨date, time⟩ : Timestamp).literal ++ rest =
      date.literal ++ ' ' :: (time.literal ++ rest) := by
    simp only [Timestamp.literal, List.append_assoc, List.cons_append]
  rw [parts, readDateAndClock, front]
  simp [after?, back]

/-! ## Literals -/

/-- What is read off the text of a literal is read between its quotes. -/
theorem readQuoted_plainLiteral {α : Type} {item : Reader α} {text rest : List Char} {a : α}
    (reads : item (text ++ '\'' :: rest) = some (a, '\'' :: rest)) :
    readQuoted item (plainLiteral text ++ rest) = some (a, rest) := by
  have parts : plainLiteral text ++ rest = '\'' :: (text ++ '\'' :: rest) := by
    simp only [plainLiteral, List.append_assoc, List.cons_append, List.nil_append]
  rw [parts, readQuoted]
  simp [after?, reads]

/-- The literals of a date, a time and a timestamp are read back: the date as it is, and the time as
a clock shows it. The places behind the second are what the loop that drops zeros leaves; it ends,
and never runs out of places. -/
theorem reads_temporal_literals (dialect : Dialect) (date : Date) (time : Time) (rest : List Char) :
    readQuoted readDate (literal dialect (.date date) ++ rest) = some (date, rest) ∧
    (∃ clock : Clock, clock.Shows time ∧
      readQuoted readClock (literal dialect (.time time) ++ rest) = some (clock, rest) ∧
      readQuoted readDateAndClock (literal dialect (.timestamp ⟨date, time⟩) ++ rest) =
        some ((date, clock), rest)) ∧
    (∃ year month day hour minute second,
      date.literal = year ++ '-' :: month ++ '-' :: day ∧
      time.literal = hour ++ ':' :: minute ++ ':' :: second ++ time.fraction ∧
      ∀ pair ∈ [month, day, hour, minute, second], IsPair pair) ∧
    ∀ some : time.microsecond ≠ 0,
      time.fraction = '.' :: (time.places some).strip.text ∧
      (∃ n, Places.Execution n (time.places some) (time.places some).strip) ∧
      (time.places some).strip.step? = none ∧
      ∀ n reached, Places.Execution n (time.places some) reached →
        1 ≤ reached.width ∧ reached.width + n = 6 := by
  refine ⟨?_, ?_, ?_, ?_⟩
  · rw [literal]
    exact readQuoted_plainLiteral (readDate_literal date ('\'' :: rest))
  · obtain ⟨clock, shows, fraction⟩ := exists_shows time
    have digits : DigitsOver ('\'' :: rest) := digitsOver_cons rest rfl
    have point : ('\'' :: rest).head? ≠ some '.' := by simp
    refine ⟨clock, shows, ?_, ?_⟩
    · rw [literal]
      exact readQuoted_plainLiteral (readClock_literal shows fraction digits point)
    · rw [literal]
      exact readQuoted_plainLiteral (readDateAndClock_literal date shows fraction digits point)
  · refine ⟨yearText 3 4 date.year, paddedDigits 2 date.month, paddedDigits 2 date.day,
      paddedDigits 2 time.hour, paddedDigits 2 time.minute, paddedDigits 2 time.second,
      (List.append_assoc _ _ _).symm, rfl, ?_⟩
    intro pair mem
    obtain ⟨n, part, rfl⟩ := List.mem_map.1
      (show pair ∈ [date.month, date.day, time.hour, time.minute, time.second].map
        (paddedDigits 2) from mem)
    exact isPair_paddedDigits (lt_of_mem_parts part)
  · intro some
    obtain ⟨run, stop⟩ := (time.places some).exists_execution_strip
    exact ⟨dif_neg some, run, stop, fun n reached steps => ⟨reached.width_pos, steps.width_add⟩⟩

end TableGateway.ReadBack

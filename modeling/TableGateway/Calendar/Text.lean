import TableGateway.Calendar.Fraction
import TableGateway.Text.Blank

/-!
# Texts of dates and times

The display form shows all nanoseconds, at least one place of them, and pads the digits of a
negative year to four. The literal form of statements shows whole microseconds, none when there
are none, and counts the sign of a year into its width of four.
-/

namespace TableGateway.Calendar

open Numeric (digits paddedDigits)

def dropTrailingZeros (text : List Char) : List Char :=
  Text.dropEndWhile (· = '0') text

/-- The digits of a year in `unsigned` places, or in `signed` places behind a minus sign. -/
def yearText (signed unsigned : Nat) (year : Int) : List Char :=
  if year < 0 then '-' :: paddedDigits signed year.natAbs else paddedDigits unsigned year.natAbs

def Date.monthDay (date : Date) : List Char :=
  '-' :: paddedDigits 2 date.month ++ '-' :: paddedDigits 2 date.day

def Date.display (date : Date) : List Char :=
  yearText 4 4 date.year ++ date.monthDay

def Date.literal (date : Date) : List Char :=
  yearText 3 4 date.year ++ date.monthDay

def Time.display (time : Time) : List Char :=
  let fraction := dropTrailingZeros (paddedDigits 9 time.nanosecond)
  digits time.hour ++ ':' :: paddedDigits 2 time.minute ++ ':' :: paddedDigits 2 time.second ++
    '.' :: (if fraction.isEmpty then ['0'] else fraction)

/-- The microseconds behind a point, without the zeros at their end, or nothing. -/
def Time.fraction (time : Time) : List Char :=
  if zero : time.microsecond = 0 then [] else '.' :: (time.places zero).strip.text

def Time.literal (time : Time) : List Char :=
  paddedDigits 2 time.hour ++ ':' :: paddedDigits 2 time.minute ++
    ':' :: paddedDigits 2 time.second ++ time.fraction

def Timestamp.display (timestamp : Timestamp) : List Char :=
  timestamp.date.display ++ ' ' :: timestamp.time.display

def Timestamp.literal (timestamp : Timestamp) : List Char :=
  timestamp.date.literal ++ ' ' :: timestamp.time.literal

end TableGateway.Calendar

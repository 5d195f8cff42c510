import TableGateway.Calendar.Basic
import TableGateway.Numeric.Digits

/-!
# Dates and times from text

The ISO forms `YYYY-MM-DD`, `HH:MM:SS` and the two with a blank between them. Every number has its
full width. A second may have places behind a point, at least one of them, of which the first nine
count.
-/

namespace TableGateway.Calendar

open Numeric (readDigits?)

/-- The number that the first `width` characters write, all of them digits, and the rest. -/
def takeDigits? (width : Nat) (text : List Char) : Option (Nat × List Char) :=
  if width ≤ text.length then
    (readDigits? (text.take width)).map fun n => (n, text.drop width)
  else none

def afterMark? (mark : Char) : List Char → Option (List Char)
  | [] => none
  | c :: rest => if c = mark then some rest else none

/-- The date at the front of a text, in a year before or since the year zero, and the rest. -/
def takeDate? (negative : Bool) (text : List Char) : Option (Date × List Char) := do
  let (year, rest) ← takeDigits? 4 text
  let (month, rest) ← takeDigits? 2 (← afterMark? '-' rest)
  let (day, rest) ← takeDigits? 2 (← afterMark? '-' rest)
  let date ← Date.ofParts? (if negative then -(year : Int) else year) month day
  return (date, rest)

def nanosecondsOf (places : List Char) : Nat :=
  Nat.ofDigitChars 10 ((places ++ List.replicate 9 '0').take 9) 0

/-- The nanoseconds behind a second: none, or a point and places. -/
def readFraction? : List Char → Option Nat
  | [] => some 0
  | '.' :: places => (readDigits? places).map fun _ => nanosecondsOf places
  | _ => none

def Time.read? (text : List Char) : Option Time := do
  let (hour, rest) ← takeDigits? 2 text
  let (minute, rest) ← takeDigits? 2 (← afterMark? ':' rest)
  let (second, rest) ← takeDigits? 2 (← afterMark? ':' rest)
  Time.ofParts? hour minute second (← readFraction? rest)

def readWholeDate? (negative : Bool) (text : List Char) : Option Date :=
  match takeDate? negative text with
  | some (date, []) => some date
  | _ => none

/-- The date that a text writes, where the year may have a sign. -/
def Date.read? : List Char → Option Date
  | '-' :: rest => readWholeDate? true rest
  | '+' :: rest => readWholeDate? false rest
  | text => readWholeDate? false text

def Timestamp.read? (text : List Char) : Option Timestamp := do
  let (date, rest) ← takeDate? false text
  let time ← Time.read? (← afterMark? ' ' rest)
  return ⟨date, time⟩

end TableGateway.Calendar

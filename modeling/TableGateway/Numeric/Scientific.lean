import TableGateway.Numeric.Binary64

/-!
# Scientific writing

A floating point number is written with an optional sign, digits with at most one point among them,
and an optional power of ten behind an `e`; or by one of the words for infinity and for no number.
The text stands for the nearest number, and for an infinity beyond the greatest one.
-/

namespace TableGateway.Numeric

/-- A power of ten behind the digits: nothing, or an `e` and an integer. -/
def readPowerOfTen? : List Char → Option Int
  | [] => some 0
  | mark :: power => if mark = 'e' || mark = 'E' then readInteger? power else none

/-- The digits in front of a point, those behind it, and what follows. -/
def spanPoint (text : List Char) : List Char × List Char × List Char :=
  let (whole, rest) := text.span Char.isDigit
  match rest with
  | '.' :: rest =>
      let (places, rest) := rest.span Char.isDigit
      (whole, places, rest)
  | rest => (whole, [], rest)

def readScientific? (negative : Bool) (text : List Char) : Option Binary64 :=
  let (whole, places, rest) := spanPoint text
  if whole.isEmpty && places.isEmpty then none
  else
    (readPowerOfTen? rest).map fun power =>
      Binary64.ofDecimal negative (Nat.ofDigitChars 10 (whole ++ places) 0)
        (power - places.length)

def namedNumber? (negative : Bool) (word : String) : Option Binary64 :=
  if word = "inf" || word = "infinity" then some (Binary64.infinity negative)
  else if word = "nan" then some Binary64.nan
  else none

def readUnsigned? (negative : Bool) (text : List Char) : Option Binary64 :=
  (namedNumber? negative (String.ofList (text.map Char.toLower))).or
    (readScientific? negative text)

def Binary64.read? : List Char → Option Binary64
  | '-' :: rest => readUnsigned? true rest
  | '+' :: rest => readUnsigned? false rest
  | text => readUnsigned? false text

end TableGateway.Numeric

import TableGateway.Calendar.Text
import TableGateway.Numeric.Shortest
import TableGateway.Text.Listing
import TableGateway.Text.Character
import TableGateway.Text.Slice
import TableGateway.Value.Basic

/-!
# Texts of values

`display` is the short form for messages, which cuts long texts and only counts octets. `describe`
names the variant and shows its whole content.
-/

namespace TableGateway.Value

open Numeric (FloatStyle digits integerText)
open Text (comma listed quoted shortenChars)

def boolText (b : Bool) : List Char :=
  if b then "true".toList else "false".toList

/-- The short form of a value. -/
def display : Value → List Char
  | null => "NULL".toList
  | boolean b => boolText b
  | int64 n => integerText n.toInt
  | uint64 n => digits n.toNat
  | float64 x => x.text FloatStyle.plain
  | decimal d => d.text
  | varchar text => shortenChars text.toList
  | blob octets => '<' :: digits octets.length ++ " bytes>".toList
  | date d => d.display
  | time t => t.display
  | timestamp t => t.display
  | uuid id => id.text
  | list items => '[' :: listed comma (items.map display) ++ [']']

def labelled (name : String) (content : List Char) : List Char :=
  name.toList ++ '(' :: content ++ [')']

/-- The full form of a value. -/
def describe : Value → List Char
  | null => "Null".toList
  | boolean b => labelled "Boolean" (boolText b)
  | int64 n => labelled "Int64" (integerText n.toInt)
  | uint64 n => labelled "UInt64" (digits n.toNat)
  | float64 x => labelled "Float64" (x.text FloatStyle.described)
  | decimal d => labelled "Decimal" d.text
  | varchar text => labelled "Varchar" (quoted text.toList)
  | blob octets =>
      labelled "Blob" ('[' :: listed comma (octets.map fun octet => digits octet.toNat) ++ [']'])
  | date d => labelled "Date" d.display
  | time t => labelled "Time" t.display
  | timestamp t => labelled "Timestamp" t.display
  | uuid id => labelled "Uuid" id.text
  | list items => labelled "List" ('[' :: listed comma (items.map describe) ++ [']'])

end TableGateway.Value

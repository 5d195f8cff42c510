import TableGateway.Numeric.Digits
import TableGateway.Text.Parts
import TableGateway.Text.Utf8

/-!
# Percent encoding

In the query of a url a percent sign and two hexadecimal digits stand for an octet and a plus sign
for a blank. The query is a list of names and values: ampersands separate them, and the first equals
sign of each separates the name from the value.
-/

namespace TableGateway.Url

open Numeric (hexValue?)

def octetsOf (c : Char) : List UInt8 :=
  (String.singleton c).toUTF8.toList

def escapedOctet? (high low : Char) : Option UInt8 :=
  (hexValue? high).bind fun h => (hexValue? low).map fun l => UInt8.ofNat (h * 16 + l)

def percentDecoded : List Char → List UInt8
  | [] => []
  | '%' :: high :: low :: rest =>
      match escapedOctet? high low with
      | some octet => octet :: percentDecoded rest
      | none => octetsOf '%' ++ percentDecoded (high :: low :: rest)
  | c :: rest => octetsOf c ++ percentDecoded rest

def formText (text : List Char) : String :=
  String.ofList (Text.decodeUtf8Lossy
    (percentDecoded (text.map fun c => if c = '+' then ' ' else c)))

/-- A name and its value, which is empty when there is no equals sign. -/
def formPair (text : List Char) : String × String :=
  let (name, value) := Text.cut '=' text
  (formText name, formText (value.getD []))

def queryPairs (query : List Char) : List (String × String) :=
  ((Text.parts '&' query).filter fun part => !part.isEmpty).map formPair

end TableGateway.Url
